import Mathlib.Data.List.Basic

/-!
# Noninterference by unwinding

Several parties act on one state, and every action is answered.  The hidden
actions do not interfere with the observed ones if the observed answers are the
same in the history without the hidden actions.

An unwinding relation is kept by a hidden action on the left alone and by every
other action on both sides, and makes observed answers agree.  It carries
noninterference over any history (`answers_without`).
-/

namespace Iara.Lib

structure SharedSystem (ι α σ ο : Type*) where
  act : ι → α → σ → ο × σ

namespace SharedSystem

variable {ι α σ ο : Type*} (sys : SharedSystem ι α σ ο)

/-- The answers to the observed actions of a history. -/
def answers (observed : ι → α → Bool) : List (ι × α) → σ → List ο
  | [], _ => []
  | (i, x) :: rest, s =>
      if observed i x then (sys.act i x s).1 :: answers observed rest (sys.act i x s).2
      else answers observed rest (sys.act i x s).2

/-- The history as if the hidden actions had not happened. -/
def without (hidden : ι → α → Bool) (history : List (ι × α)) : List (ι × α) :=
  history.filter fun e => !hidden e.1 e.2

def Noninterfering (hidden observed : ι → α → Bool) (s : σ) : Prop :=
  ∀ history, sys.answers observed history s = sys.answers observed (without hidden history) s

/-- A relation between the states of the two histories. -/
structure Unwinding (hidden observed : ι → α → Bool) (R : σ → σ → Prop) : Prop where
  apart : ∀ i x, hidden i x = true → observed i x = false
  hides : ∀ i x s s', hidden i x = true → R s s' → R (sys.act i x s).2 s'
  acts : ∀ i x s s', hidden i x = false → R s s' → R (sys.act i x s).2 (sys.act i x s').2
  agrees : ∀ i x s s', observed i x = true → R s s' → (sys.act i x s).1 = (sys.act i x s').1

variable {sys} {hidden observed : ι → α → Bool} {R : σ → σ → Prop}

theorem Unwinding.answers_without (h : sys.Unwinding hidden observed R)
    (history : List (ι × α)) {s s' : σ} (hs : R s s') :
    sys.answers observed history s = sys.answers observed (without hidden history) s' := by
  induction history generalizing s s' with
  | nil => rfl
  | cons e rest ih =>
      obtain ⟨i, x⟩ := e
      cases hhidden : hidden i x with
      | true =>
          have hdrop : without hidden ((i, x) :: rest) = without hidden rest := by
            simp [without, hhidden]
          rw [hdrop, answers, if_neg (by simp [h.apart i x hhidden])]
          exact ih (h.hides i x s s' hhidden hs)
      | false =>
          have hkeep : without hidden ((i, x) :: rest) = (i, x) :: without hidden rest := by
            simp [without, hhidden]
          have hrest := ih (h.acts i x s s' hhidden hs)
          rw [hkeep, answers, answers, hrest]
          cases hobserved : observed i x with
          | true => rw [h.agrees i x s s' hobserved hs]
          | false => rfl

theorem Unwinding.noninterfering (h : sys.Unwinding hidden observed R) {s : σ} (hs : R s s) :
    sys.Noninterfering hidden observed s :=
  fun history => h.answers_without history hs

end SharedSystem

end Iara.Lib
