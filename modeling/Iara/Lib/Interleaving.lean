import Iara.Lib.Machine

/-!
# Parties over a shared state

A system of any number of parties that act one at a time on a shared state, and
an environment that changes the shared state and may bring in new parties.
Parties are numbered in the order they come and are never removed, so a number
names the same party all along a run.

* `party_of_step`: what one step does to one party;
* `party_of_run`: a relation that every act respects relates a party's states
  along a run;
* `parties_step`: what new parties satisfy and acts preserve holds of all.
-/

namespace Iara.Lib

structure Interleaving (σ π α ε : Type*) where
  act : σ → π → α → Option (π × σ)
  environment : σ → ε → Option (List π × σ)

namespace Interleaving

variable {σ π α ε : Type*}

structure Config (σ π : Type*) where
  shared : σ
  parties : List π := []

inductive Move (α ε : Type*) where
  | party (i : Nat) (a : α)
  | environment (e : ε)
  deriving DecidableEq

variable (p : Interleaving σ π α ε)

def machine : Machine (Config σ π) (Move α ε) where
  step c
    | .party i a =>
        match c.parties[i]? with
        | none => none
        | some l => (p.act c.shared l a).map fun r => ⟨r.2, c.parties.set i r.1⟩
    | .environment e => (p.environment c.shared e).map fun r => ⟨r.2, c.parties ++ r.1⟩

variable {p} {c c' : Config σ π}

/-- A party's move, inverted. -/
theorem step_party {i : Nat} {a : α} (h : p.machine.step c (.party i a) = some c') :
    ∃ l l' t, c.parties[i]? = some l ∧ p.act c.shared l a = some (l', t) ∧
      c' = ⟨t, c.parties.set i l'⟩ := by
  simp only [machine] at h
  cases hl : c.parties[i]? with
  | none => simp [hl] at h
  | some l =>
      simp only [hl, Option.map_eq_some_iff] at h
      obtain ⟨⟨l', t⟩, hact, hc'⟩ := h
      exact ⟨l, l', t, rfl, hact, hc'.symm⟩

/-- An act that is enabled is a step of its party. -/
theorem step_of_act {i : Nat} {l l' : π} {a : α} {t : σ} (hi : c.parties[i]? = some l)
    (hact : p.act c.shared l a = some (l', t)) :
    p.machine.step c (.party i a) = some ⟨t, c.parties.set i l'⟩ ∧
      (c.parties.set i l')[i]? = some l' := by
  constructor
  · simp only [machine, hi, hact, Option.map_some]
  · exact List.getElem?_set_self (List.getElem?_eq_some_iff.1 hi).1

/-- A party on its own, at an act that is enabled. -/
theorem run_alone_cons {s t : σ} {l l' : π} {a : α} {as : List α}
    (hact : p.act s l a = some (l', t)) :
    p.machine.run ⟨s, [l]⟩ ((a :: as).map fun a => .party 0 a) =
      p.machine.run ⟨t, [l']⟩ (as.map fun a => .party 0 a) := by
  rw [List.map_cons, Machine.run_cons, (step_of_act rfl hact).1]
  rfl

theorem step_environment {e : ε} (h : p.machine.step c (.environment e) = some c') :
    ∃ ls t, p.environment c.shared e = some (ls, t) ∧ c' = ⟨t, c.parties ++ ls⟩ := by
  simp only [machine, Option.map_eq_some_iff] at h
  obtain ⟨⟨ls, t⟩, henv, hc'⟩ := h
  exact ⟨ls, t, henv, hc'.symm⟩

/-- A step leaves a party alone, or it is an act of that party. -/
theorem party_of_step {m : Move α ε} (h : p.machine.step c m = some c') {j : Nat} {l : π}
    (hj : c.parties[j]? = some l) :
    ∃ l', c'.parties[j]? = some l' ∧
      (l' = l ∨ ∃ a, m = .party j a ∧ p.act c.shared l a = some (l', c'.shared)) := by
  have hlt : j < c.parties.length := (List.getElem?_eq_some_iff.1 hj).1
  cases m with
  | party i a =>
      obtain ⟨l₀, l', t, hi, hact, rfl⟩ := step_party h
      by_cases hij : i = j
      · subst hij
        rw [hi, Option.some.injEq] at hj
        subst hj
        exact ⟨l', List.getElem?_set_self hlt, Or.inr ⟨a, rfl, hact⟩⟩
      · refine ⟨l, ?_, Or.inl rfl⟩
        change (c.parties.set i l')[j]? = some l
        rw [List.getElem?_set_ne hij, hj]
  | environment e =>
      obtain ⟨ls, t, -, rfl⟩ := step_environment h
      refine ⟨l, ?_, Or.inl rfl⟩
      change (c.parties ++ ls)[j]? = some l
      rw [List.getElem?_append_left hlt, hj]

/-- The parties after a step are the ones before, one of them possibly changed
by its act, and new ones. -/
theorem party_before_step {m : Move α ε} (h : p.machine.step c m = some c') {j : Nat} {l' : π}
    (hj : c'.parties[j]? = some l') :
    c.parties[j]? = some l' ∨
      (∃ l a, m = .party j a ∧ c.parties[j]? = some l ∧
        p.act c.shared l a = some (l', c'.shared)) ∨
      (∃ e ls, m = .environment e ∧ p.environment c.shared e = some (ls, c'.shared) ∧
        l' ∈ ls ∧ c.parties.length ≤ j) := by
  cases m with
  | party i a =>
      obtain ⟨l, l₁, t, hi, hact, rfl⟩ := step_party h
      by_cases hij : i = j
      · subst hij
        have hlt : i < c.parties.length := (List.getElem?_eq_some_iff.1 hi).1
        change (c.parties.set i l₁)[i]? = some l' at hj
        rw [List.getElem?_set_self hlt, Option.some.injEq] at hj
        subst hj
        exact Or.inr (Or.inl ⟨l, a, rfl, hi, hact⟩)
      · change (c.parties.set i l₁)[j]? = some l' at hj
        rw [List.getElem?_set_ne hij] at hj
        exact Or.inl hj
  | environment e =>
      obtain ⟨ls, t, henv, rfl⟩ := step_environment h
      change (c.parties ++ ls)[j]? = some l' at hj
      by_cases hlt : j < c.parties.length
      · rw [List.getElem?_append_left hlt] at hj
        exact Or.inl hj
      · have hle : c.parties.length ≤ j := by omega
        rw [List.getElem?_append_right hle] at hj
        exact Or.inr (Or.inr ⟨e, ls, rfl, henv, List.mem_of_getElem? hj, hle⟩)

/-- What every act leaves alone is, party by party, as before; new parties come last. -/
theorem map_parties_of_step {β : Type*} {f : π → β}
    (hact : ∀ s l a l' t, p.act s l a = some (l', t) → f l' = f l)
    {m : Move α ε} (h : p.machine.step c m = some c') :
    c'.parties.map f = c.parties.map f ∨ ∃ e ls t, m = .environment e ∧
      p.environment c.shared e = some (ls, t) ∧ c'.parties.map f = c.parties.map f ++ ls.map f := by
  cases m with
  | party i a =>
      obtain ⟨l, l', t, hi, hstep, rfl⟩ := step_party h
      left
      change (c.parties.set i l').map f = c.parties.map f
      rw [List.map_set, hact _ _ _ _ _ hstep]
      apply List.ext_getElem?
      intro j
      by_cases hij : i = j
      · subst hij
        have hlt : i < (c.parties.map f).length := by
          rw [List.length_map]
          exact (List.getElem?_eq_some_iff.1 hi).1
        rw [List.getElem?_set_self hlt, List.getElem?_map, hi, Option.map_some]
      · rw [List.getElem?_set_ne hij]
  | environment e =>
      obtain ⟨ls, t, henv, rfl⟩ := step_environment h
      exact Or.inr ⟨e, ls, t, rfl, henv, List.map_append⟩

/-- A reflexive and transitive relation that every act respects relates the
states of a party along a run. -/
theorem party_of_run {R : π → π → Prop} (hrefl : ∀ l, R l l)
    (htrans : ∀ l₁ l₂ l₃, R l₁ l₂ → R l₂ l₃ → R l₁ l₃)
    (hact : ∀ s l a l' t, p.act s l a = some (l', t) → R l l')
    {ms : List (Move α ε)} (hrun : p.machine.run c ms = some c') {j : Nat} {l : π}
    (hj : c.parties[j]? = some l) : ∃ l', c'.parties[j]? = some l' ∧ R l l' := by
  have hinv := p.machine.invariant_of_step
    (I := fun d => ∃ l', d.parties[j]? = some l' ∧ R l l') ?_ ⟨l, hj, hrefl l⟩ hrun
  · exact hinv
  · rintro d m d' ⟨l₁, hj₁, hrel⟩ hstep
    obtain ⟨l₂, hj₂, hsame | ⟨a, -, hact'⟩⟩ := party_of_step hstep hj₁
    · exact ⟨l₂, hj₂, hsame ▸ hrel⟩
    · exact ⟨l₂, hj₂, htrans l l₁ l₂ hrel (hact _ _ _ _ _ hact')⟩

/-- A property of single parties that new ones have and acts preserve. -/
theorem parties_step {P : π → Prop}
    (hnew : ∀ s e ls t, p.environment s e = some (ls, t) → ∀ l ∈ ls, P l)
    (hact : ∀ s l a l' t, p.act s l a = some (l', t) → P l → P l')
    {m : Move α ε} (hc : ∀ l ∈ c.parties, P l) (hstep : p.machine.step c m = some c') :
    ∀ l ∈ c'.parties, P l := by
  intro l' hl'
  obtain ⟨j, hj⟩ := List.mem_iff_getElem?.1 hl'
  rcases party_before_step hstep hj with
    hsame | ⟨l, a, -, hbefore, hact'⟩ | ⟨e, ls, -, henv, hmem, -⟩
  · exact hc l' (List.mem_of_getElem? hsame)
  · exact hact _ _ _ _ _ hact' (hc l (List.mem_of_getElem? hbefore))
  · exact hnew _ _ _ _ henv l' hmem

end Interleaving

end Iara.Lib
