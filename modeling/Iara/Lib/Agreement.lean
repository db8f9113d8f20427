import Mathlib.Data.List.Induction

/-!
# Components that agree

A component answers every operation and moves to its next state.  Two of them are
run on one sequence of operations, beside a ghost state that the sequence alone
determines.

* `answers_eq_iff`: where related states answer an operation alike exactly if it
  does not part them, and stay related if it does not, two runs answer alike
  exactly if no operation of the sequence parts them;
* `answers_eq`: the special case of operations that never do;
* `prefix_invariant_iff`: a property that a step keeps exactly if it is allowed
  holds along a run exactly if every step is.
-/

namespace Iara.Lib

structure Component (σ α ο : Type*) where
  act : σ → α → ο × σ

namespace Component

variable {σ τ γ α ο : Type*} (C : Component σ α ο) (D : Component τ α ο)

def after (s : σ) (as : List α) : σ := as.foldl (fun s a => (C.act s a).2) s

def answers : σ → List α → List ο
  | _, [] => []
  | s, a :: as => (C.act s a).1 :: answers (C.act s a).2 as

@[simp] theorem after_nil (s : σ) : C.after s [] = s := rfl

@[simp] theorem after_cons (s : σ) (a : α) (as : List α) :
    C.after s (a :: as) = C.after (C.act s a).2 as := rfl

theorem after_append (s : σ) (as bs : List α) :
    C.after s (as ++ bs) = C.after (C.after s as) bs := by
  simp [after]

theorem after_concat (s : σ) (as : List α) (a : α) :
    C.after s (as ++ [a]) = (C.act (C.after s as) a).2 := by
  rw [after_append]
  rfl

/-- Every operation of the sequence meets `P` in the state that it is taken in. -/
def Throughout (P : σ → α → Prop) (s : σ) (as : List α) : Prop :=
  ∀ before a rest, as = before ++ a :: rest → P (C.after s before) a

variable {C D}

theorem throughout_nil {P : σ → α → Prop} {s : σ} : C.Throughout P s [] := by
  intro before a rest h
  simp at h

theorem throughout_cons_iff {P : σ → α → Prop} {s : σ} {a : α} {as : List α} :
    C.Throughout P s (a :: as) ↔ P s a ∧ C.Throughout P (C.act s a).2 as := by
  constructor
  · intro h
    refine ⟨h [] a as rfl, ?_⟩
    intro before b rest hsplit
    exact h (a :: before) b rest (by rw [hsplit, List.cons_append])
  · rintro ⟨hfirst, hrest⟩ before b rest hsplit
    cases before with
    | nil =>
        rw [List.nil_append, List.cons.injEq] at hsplit
        rw [← hsplit.1]
        exact hfirst
    | cons a₀ before =>
        rw [List.cons_append, List.cons.injEq] at hsplit
        rw [← hsplit.1]
        exact hrest before b rest hsplit.2

/-! ## Two components -/

/-- `G` is the ghost, whose answers do not matter: `valid` is what is assumed of
an operation, and `parts` when the two are not to answer alike. -/
theorem answers_eq_iff {ο' : Type*} {G : Component γ α ο'} {R : γ → σ → τ → Prop}
    {valid parts : γ → α → Prop}
    (hanswer : ∀ g s t a, R g s t → valid g a →
      ((C.act s a).1 = (D.act t a).1 ↔ ¬ parts g a))
    (hkeep : ∀ g s t a, R g s t → valid g a → ¬ parts g a →
      R (G.act g a).2 (C.act s a).2 (D.act t a).2)
    {g : γ} {s : σ} {t : τ} {as : List α} (hR : R g s t) (hvalid : G.Throughout valid g as) :
    C.answers s as = D.answers t as ↔ G.Throughout (fun g a => ¬ parts g a) g as := by
  induction as generalizing g s t with
  | nil => exact ⟨fun _ => throughout_nil, fun _ => rfl⟩
  | cons a as ih =>
      rw [throughout_cons_iff] at hvalid ⊢
      have hhere := hanswer g s t a hR hvalid.1
      have hrest (hparts : ¬ parts g a) := ih (hkeep g s t a hR hvalid.1 hparts) hvalid.2
      rw [answers, answers, List.cons.injEq]
      constructor
      · rintro ⟨hfirst, hlater⟩
        have hparts := hhere.1 hfirst
        exact ⟨hparts, (hrest hparts).1 hlater⟩
      · rintro ⟨hparts, hlater⟩
        exact ⟨hhere.2 hparts, (hrest hparts).2 hlater⟩

theorem answers_eq {ο' : Type*} {G : Component γ α ο'} {R : γ → σ → τ → Prop}
    {valid : γ → α → Prop}
    (hstep : ∀ g s t a, R g s t → valid g a →
      (C.act s a).1 = (D.act t a).1 ∧ R (G.act g a).2 (C.act s a).2 (D.act t a).2)
    {g : γ} {s : σ} {t : τ} {as : List α} (hR : R g s t) (hvalid : G.Throughout valid g as) :
    C.answers s as = D.answers t as := by
  have hanswer : ∀ g s t a, R g s t → valid g a →
      ((C.act s a).1 = (D.act t a).1 ↔ ¬ (fun (_ : γ) (_ : α) => False) g a) :=
    fun g s t a hR hvalid => ⟨fun _ => not_false, fun _ => (hstep g s t a hR hvalid).1⟩
  have hkeep : ∀ g s t a, R g s t → valid g a → ¬ (fun (_ : γ) (_ : α) => False) g a →
      R (G.act g a).2 (C.act s a).2 (D.act t a).2 :=
    fun g s t a hR hvalid _ => (hstep g s t a hR hvalid).2
  exact (answers_eq_iff hanswer hkeep hR hvalid).2 fun _ _ _ _ => not_false

/-! ## One component -/

/-- What a step keeps exactly if it is allowed, holds after every part of a run
exactly if every step of it is. -/
theorem prefix_invariant_iff {I : σ → Prop} {allowed : σ → α → Prop}
    (hstep : ∀ s a, I s → (I (C.act s a).2 ↔ allowed s a)) {s : σ} {as : List α} (hs : I s) :
    (∀ before rest, as = before ++ rest → I (C.after s before)) ↔ C.Throughout allowed s as := by
  constructor
  · intro h before a rest hsplit
    have hbefore := h before (a :: rest) hsplit
    have hafter := h (before ++ [a]) rest (by simp [hsplit])
    rw [after_concat] at hafter
    exact (hstep _ a hbefore).1 hafter
  · intro h before
    induction before using List.reverseRecOn with
    | nil => exact fun _ _ => hs
    | append_singleton before a ih =>
        intro rest hsplit
        have hsplit' : as = before ++ a :: rest := by simp [hsplit]
        rw [after_concat]
        exact (hstep _ a (ih (a :: rest) hsplit')).2 (h before a rest hsplit')

end Component

end Iara.Lib
