import Iara.Lib.Machine

/-!
# Items in custody

Items of a queue that parties take, act on once and then close.  All that
matters of one item is its `View`: its standing in the queue, how often it was
acted on, and who holds it, each holder with whether it has acted.

`View.Step` lists what may happen to an item while it is never held twice and
never given back after it was acted on.  Along runs of such steps

* `effects_le_one_of_allSteps`: no item is acted on twice;
* `not_available_of_allSteps`: an item that was done never becomes available.
-/

namespace Iara.Lib

namespace Custody

inductive Standing where
  | absent
  | available
  | shelved
  | done
  deriving DecidableEq, Repr

structure View where
  standing : Standing
  effects : Nat
  holders : List Bool

namespace View

/-- Nobody holds the item and nobody can take it. -/
def Settled (v : View) : Prop := (v.standing = .shelved ∨ v.standing = .done) ∧ v.holders = []

inductive Step (v : View) : View → Prop
  | stays : Step v v
  | listed (h : v.standing = .absent) : Step v { v with standing := .available }
  | shelved : Step v { v with standing := .shelved }
  | taken (n : Nat) (acted : Bool) (standing : Standing) (h : v.standing = .available)
      (hfree : v.holders = []) (hn : n = v.effects ∨ n = v.effects + 1 ∧ acted = true)
      (hstanding : standing = .available ∨ standing = .shelved) :
      Step v { standing := standing, effects := n, holders := [acted] }
  | acted (n : Nat) (h : v.holders = [false]) (hn : n = v.effects ∨ n = v.effects + 1) :
      Step v { v with effects := n, holders := [true] }
  | retried (held : Bool) (h : v.holders = [held]) (hn : v.effects = 0) :
      Step v { v with holders := [false] }
  | dropped (held : Bool) (standing : Standing) (h : v.holders = [held])
      (hn : v.effects = 0 ∨ held = false)
      (hstanding : standing = .available ∨ standing = .shelved) :
      Step v { v with standing := standing, holders := [] }
  | closed (n : Nat) (held : Bool) (standing : Standing) (h : v.holders = [held])
      (hn : n = v.effects ∨ n = v.effects + 1 ∧ held = false)
      (hstanding : standing = .shelved ∨ standing = .done) :
      Step v { standing := standing, effects := n, holders := [] }

/-- The item is held at most once and was acted on at most once; once it was
acted on, it is settled or with the holder that acted. -/
structure Once (v : View) : Prop where
  effects_le : v.effects ≤ 1
  holders_le : v.holders.length ≤ 1
  acted : v.effects = 1 → v.Settled ∨ v.holders = [true]
  free_of_done : v.standing = .done → v.holders = []
  free_of_absent : v.standing = .absent → v.effects = 0 ∧ v.holders = []

namespace Once

variable {v v' : View}

/-- An item with a holder that has not acted was not acted on. -/
theorem effects_eq_zero (h : v.Once) (hheld : v.holders = [false]) : v.effects = 0 := by
  have hle := h.effects_le
  by_contra hne
  have hone : v.effects = 1 := by omega
  rcases h.acted hone with hsettled | htrue
  · rw [hsettled.2] at hheld
    cases hheld
  · rw [htrue] at hheld
    cases hheld

theorem effects_eq_zero_of_available (h : v.Once) (havailable : v.standing = .available)
    (hfree : v.holders = []) : v.effects = 0 := by
  have hle := h.effects_le
  by_contra hne
  have hone : v.effects = 1 := by omega
  rcases h.acted hone with hsettled | htrue
  · rcases hsettled.1 with hs | hs <;> rw [havailable] at hs <;> cases hs
  · rw [hfree] at htrue
    cases htrue

/-- A held item is neither done nor absent. -/
theorem standing_of_held (h : v.Once) {held : Bool} (hheld : v.holders = [held]) :
    v.standing ≠ .done ∧ v.standing ≠ .absent := by
  constructor
  · intro hdone
    have hfree := h.free_of_done hdone
    rw [hheld] at hfree
    cases hfree
  · intro habsent
    have hfree := (h.free_of_absent habsent).2
    rw [hheld] at hfree
    cases hfree

theorem available_or_shelved (h : v.Once) {held : Bool} (hheld : v.holders = [held]) :
    v.standing = .available ∨ v.standing = .shelved := by
  have hstanding := h.standing_of_held hheld
  cases hv : v.standing with
  | absent => exact absurd hv hstanding.2
  | available => exact Or.inl rfl
  | shelved => exact Or.inr rfl
  | done => exact absurd hv hstanding.1

/-- An item with one holder that was acted on, if at all, by that holder. -/
theorem of_held {held : Bool} (hheld : v.holders = [held]) (hle : v.effects ≤ 1)
    (hacted : v.effects = 1 → held = true)
    (hstanding : v.standing ≠ .done ∧ v.standing ≠ .absent) : v.Once where
  effects_le := hle
  holders_le := by simp [hheld]
  acted := by
    intro hone
    right
    rw [hheld, hacted hone]
  free_of_done hdone := absurd hdone hstanding.1
  free_of_absent habsent := absurd habsent hstanding.2

/-- An item without a holder that is settled if it was acted on. -/
theorem of_free (hfree : v.holders = []) (hle : v.effects ≤ 1)
    (hsettled : v.effects = 1 → v.standing = .shelved ∨ v.standing = .done) : v.Once where
  effects_le := hle
  holders_le := by simp [hfree]
  acted hone := Or.inl ⟨hsettled hone, hfree⟩
  free_of_done _ := hfree
  free_of_absent := by
    intro habsent
    refine ⟨?_, hfree⟩
    by_contra hne
    rcases hsettled (by omega) with hs | hs <;> rw [habsent] at hs <;> cases hs

theorem step (h : v.Once) (hstep : v.Step v') : v'.Once := by
  cases hstep with
  | stays => exact h
  | listed habsent =>
      obtain ⟨hzero, hfree⟩ := h.free_of_absent habsent
      refine of_free hfree h.effects_le ?_
      intro hone
      have hone' : v.effects = 1 := hone
      omega
  | shelved =>
      constructor
      · exact h.effects_le
      · exact h.holders_le
      · intro hone
        rcases h.acted hone with hsettled | htrue
        · exact Or.inl ⟨Or.inl rfl, hsettled.2⟩
        · exact Or.inr htrue
      · intro hdone
        cases hdone
      · intro habsent
        cases habsent
  | taken n acted standing havailable hfree hn hstanding =>
      have hzero := h.effects_eq_zero_of_available havailable hfree
      refine of_held rfl ?_ ?_ ?_
      · show n ≤ 1
        omega
      · intro hone
        have hone' : n = 1 := hone
        rcases hn with hsame | ⟨-, hacted⟩
        · omega
        · exact hacted
      · rcases hstanding with rfl | rfl <;> simp
  | acted n hheld hn =>
      have hzero := h.effects_eq_zero hheld
      refine of_held rfl ?_ (fun _ => rfl) (h.standing_of_held hheld)
      show n ≤ 1
      omega
  | retried held hheld hzero =>
      refine of_held rfl h.effects_le ?_ (h.standing_of_held hheld)
      intro hone
      have hone' : v.effects = 1 := hone
      omega
  | dropped held standing hheld hn hstanding =>
      have hzero : v.effects = 0 := by
        rcases hn with hzero | hfalse
        · exact hzero
        · exact h.effects_eq_zero (by rw [hheld, hfalse])
      refine of_free rfl h.effects_le ?_
      intro hone
      have hone' : v.effects = 1 := hone
      omega
  | closed n held standing hheld hn hstanding =>
      refine of_free rfl ?_ (fun _ => hstanding)
      show n ≤ 1
      rcases hn with hsame | ⟨hnext, hfalse⟩
      · rw [hsame]
        exact h.effects_le
      · have hzero := h.effects_eq_zero (by rw [hheld, hfalse])
        omega

/-- An item that is done is settled. -/
theorem settled_of_done (h : v.Once) (hdone : v.standing = .done) : v.Settled :=
  ⟨Or.inr hdone, h.free_of_done hdone⟩

end Once

theorem Settled.step {v v' : View} (h : v.Settled) (hstep : v.Step v') : v'.Settled := by
  obtain ⟨hstanding, hfree⟩ := h
  cases hstep with
  | stays => exact ⟨hstanding, hfree⟩
  | listed habsent => rcases hstanding with hs | hs <;> rw [habsent] at hs <;> cases hs
  | shelved => exact ⟨Or.inl rfl, hfree⟩
  | taken n acted standing havailable _ _ _ =>
      rcases hstanding with hs | hs <;> rw [havailable] at hs <;> cases hs
  | acted n hheld _ =>
      rw [hfree] at hheld
      cases hheld
  | retried held hheld _ =>
      rw [hfree] at hheld
      cases hheld
  | dropped held standing hheld _ _ =>
      rw [hfree] at hheld
      cases hheld
  | closed n held standing hheld _ _ =>
      rw [hfree] at hheld
      cases hheld

theorem Settled.ne_available {v : View} (h : v.Settled) : v.standing ≠ .available := by
  intro havailable
  rcases h.1 with hs | hs <;> rw [havailable] at hs <;> cases hs

end View

/-! ## Runs -/

section Runs

variable {σ α κ : Type*} {m : Machine σ α} {C : σ → α → Prop} {I : σ → Prop} {view : σ → κ → View}
  (hstep : ∀ s a t, I s → (∀ k, (view s k).Once) → C s a → m.step s a = some t →
    I t ∧ ∀ k, (view s k).Step (view t k))

include hstep in
theorem once_of_allSteps {s t : σ} {as : List α} (hs : I s ∧ ∀ k, (view s k).Once)
    (hall : m.AllSteps C s as) (hrun : m.run s as = some t) : I t ∧ ∀ k, (view t k).Once := by
  refine m.invariant_of_allSteps (I := fun s => I s ∧ ∀ k, (view s k).Once) ?_ hs hall hrun
  intro s a t hs hC hst
  obtain ⟨hI, hview⟩ := hstep s a t hs.1 hs.2 hC hst
  exact ⟨hI, fun k => (hs.2 k).step (hview k)⟩

include hstep in
theorem effects_le_one_of_allSteps {s t : σ} {as : List α} (hs : I s ∧ ∀ k, (view s k).Once)
    (hall : m.AllSteps C s as) (hrun : m.run s as = some t) (k : κ) :
    (view t k).effects ≤ 1 :=
  ((once_of_allSteps hstep hs hall hrun).2 k).effects_le

include hstep in
theorem not_available_of_allSteps {s t : σ} {as : List α} (hs : I s ∧ ∀ k, (view s k).Once)
    (hall : m.AllSteps C s as) (hrun : m.run s as = some t) {k : κ}
    (hdone : (view s k).standing = .done) : (view t k).standing ≠ .available := by
  have hinv : (I t ∧ ∀ k, (view t k).Once) ∧ (view t k).Settled := by
    refine m.invariant_of_allSteps
      (I := fun s => (I s ∧ ∀ k, (view s k).Once) ∧ (view s k).Settled) ?_
      ⟨hs, (hs.2 k).settled_of_done hdone⟩ hall hrun
    intro s a t hs hC hst
    obtain ⟨hI, hview⟩ := hstep s a t hs.1.1 hs.1.2 hC hst
    exact ⟨⟨hI, fun k => (hs.1.2 k).step (hview k)⟩, hs.2.step (hview k)⟩
  exact hinv.2.ne_available

end Runs

/-! ## Holders -/

section Holders

variable {π : Type*}

/-- The holders of an item among the parties. -/
def holders (held : π → Option Bool) (parties : List π) : List Bool := parties.filterMap held

variable {held : π → Option Bool} {parties : List π} {i : Nat} {l : π}

/-- Around one party. -/
theorem holders_set (held : π → Option Bool) (hi : parties[i]? = some l) :
    ∃ before after, holders held parties = before ++ (held l).toList ++ after ∧
      ∀ l', holders held (parties.set i l') = before ++ (held l').toList ++ after := by
  induction parties generalizing i with
  | nil => simp at hi
  | cons p ps ih =>
      cases i with
      | zero =>
          have hp : p = l := by simpa using hi
          subst hp
          refine ⟨[], holders held ps, ?_, ?_⟩
          · cases h : held p <;> simp [holders, h]
          · intro l'
            cases h : held l' <;> simp [holders, h]
      | succ i =>
          have hi' : ps[i]? = some l := by simpa using hi
          obtain ⟨before, after, hall, hset⟩ := ih hi'
          refine ⟨(held p).toList ++ before, after, ?_, ?_⟩
          · have hcons : holders held (p :: ps) = (held p).toList ++ holders held ps := by
              cases h : held p <;> simp [holders, h]
            rw [hcons, hall]
            simp only [List.append_assoc]
          · intro l'
            have hcons : holders held (p :: ps.set i l') =
                (held p).toList ++ holders held (ps.set i l') := by
              cases h : held p <;> simp [holders, h]
            rw [List.set_cons_succ, hcons, hset l']
            simp only [List.append_assoc]

theorem holders_set_of_eq (hi : parties[i]? = some l) {l' : π} (h : held l' = held l) :
    holders held (parties.set i l') = holders held parties := by
  obtain ⟨before, after, hall, hset⟩ := holders_set held hi
  rw [hset l', hall, h]

theorem holders_set_of_free (hi : parties[i]? = some l) (hfree : holders held parties = [])
    (l' : π) : holders held (parties.set i l') = (held l').toList := by
  obtain ⟨before, after, hall, hset⟩ := holders_set held hi
  rw [hall, List.append_eq_nil_iff, List.append_eq_nil_iff] at hfree
  rw [hset l', hfree.1.1, hfree.2, List.nil_append, List.append_nil]

/-- An item with at most one holder has none but the party that holds it. -/
theorem holders_of_held (hi : parties[i]? = some l) (hone : (holders held parties).length ≤ 1)
    {b : Bool} (hl : held l = some b) :
    holders held parties = [b] ∧
      ∀ l', holders held (parties.set i l') = (held l').toList := by
  obtain ⟨before, after, hall, hset⟩ := holders_set held hi
  rw [hall, hl] at hone
  simp only [Option.toList_some, List.length_append, List.length_singleton] at hone
  have hbefore : before = [] := List.length_eq_zero_iff.1 (by omega)
  have hafter : after = [] := List.length_eq_zero_iff.1 (by omega)
  constructor
  · rw [hall, hl, hbefore, hafter]
    rfl
  · intro l'
    rw [hset l', hbefore, hafter, List.nil_append, List.append_nil]

theorem holders_append_of_idle {more : List π} (h : ∀ p ∈ more, held p = none) :
    holders held (parties ++ more) = holders held parties := by
  have hmore : holders held more = [] := List.filterMap_eq_nil_iff.2 h
  unfold holders at hmore ⊢
  rw [List.filterMap_append, hmore, List.append_nil]

end Holders

end Custody

end Iara.Lib
