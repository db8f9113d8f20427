import Mathlib.Data.List.Sort
import Mathlib.Algebra.Order.Monoid.Unbundled.Basic
import Mathlib.Order.Lattice

/-!
# Availability

Busy periods on a line of times, the slots of one length that they block, and
the scan for the first free slot over the periods in order of their starts.  A
time is anything with a key in a linear order.
-/

namespace Iara.Lib.Availability

variable {α T : Type} [LinearOrder T] [Add T]

section Slots

variable (key : α → T) (step : T)

/-- The slot from `c` on meets the period. -/
def Blocks (period : α × α) (c : α) : Prop := key period.1 < key c + step ∧ key c < key period.2

def Free (busy : List (α × α)) (c : α) : Prop := ∀ period ∈ busy, ¬ Blocks key step period c

instance (period : α × α) (c : α) : Decidable (Blocks key step period c) :=
  inferInstanceAs (Decidable (_ ∧ _))

instance (busy : List (α × α)) (c : α) : Decidable (Free key step busy c) :=
  inferInstanceAs (Decidable (∀ period ∈ busy, ¬ Blocks key step period c))

/-- The scan: a slot that ends before the next period starts is returned, and
otherwise the cursor moves to the end of that period. -/
def firstFree : List (α × α) → α → α
  | [], cursor => cursor
  | period :: rest, cursor =>
      if key cursor + step ≤ key period.1 then cursor
      else firstFree rest (if key cursor < key period.2 then period.2 else cursor)

/-- The times that the scan tries, each with a period ahead of it. -/
def tried : List (α × α) → α → List α
  | [], _ => []
  | period :: rest, cursor =>
      cursor ::
        if key cursor + step ≤ key period.1 then []
        else tried rest (if key cursor < key period.2 then period.2 else cursor)

end Slots

variable {key : α → T} {step : T} {busy rest : List (α × α)} {period : α × α} {c cursor : α}

theorem not_blocks_iff :
    ¬ Blocks key step period c ↔ key c + step ≤ key period.1 ∨ key period.2 ≤ key c := by
  unfold Blocks
  rw [not_and_or, not_lt, not_lt]

theorem not_blocks_of_ends (h : key period.2 ≤ key c) : ¬ Blocks key step period c :=
  not_blocks_iff.mpr (.inr h)

/-- A period without length blocks no slot from its own time on. -/
theorem not_blocks_empty {t : α} (h : key t ≤ key c) : ¬ Blocks key step (t, t) c :=
  not_blocks_of_ends h

theorem key_le_firstFree (busy : List (α × α)) (cursor : α) :
    key cursor ≤ key (firstFree key step busy cursor) := by
  induction busy generalizing cursor with
  | nil => exact le_refl _
  | cons period rest ih =>
      unfold firstFree
      by_cases hfits : key cursor + step ≤ key period.1
      · rw [if_pos hfits]
      · rw [if_neg hfits]
        refine le_trans ?_ (ih _)
        by_cases hends : key cursor < key period.2
        · rw [if_pos hends]
          exact hends.le
        · rw [if_neg hends]

/-- No slot from the cursor on that the periods leave free starts before the one that
the scan returns: a period that the cursor passes blocks every slot between the cursor
and its end. -/
theorem key_firstFree_le [AddRightMono T] {t : T} (hcursor : key cursor ≤ t)
    (hfree : ∀ period ∈ busy, t + step ≤ key period.1 ∨ key period.2 ≤ t) :
    key (firstFree key step busy cursor) ≤ t := by
  induction busy generalizing cursor with
  | nil => exact hcursor
  | cons period rest ih =>
      have hrest : ∀ p ∈ rest, t + step ≤ key p.1 ∨ key p.2 ≤ t :=
        fun p hp => hfree p (List.mem_cons_of_mem _ hp)
      unfold firstFree
      by_cases hfits : key cursor + step ≤ key period.1
      · rw [if_pos hfits]
        exact hcursor
      · rw [if_neg hfits]
        apply ih _ hrest
        by_cases hends : key cursor < key period.2
        · rw [if_pos hends]
          apply (hfree period List.mem_cons_self).resolve_left
          intro hbefore
          exact hfits ((add_le_add_left hcursor step).trans hbefore)
        · rw [if_neg hends]
          exact hcursor

/-- What the scan returns is where it started or the end of a period. -/
theorem firstFree_eq_or_mem (key : α → T) (step : T) (busy : List (α × α)) (cursor : α) :
    firstFree key step busy cursor = cursor ∨
      ∃ period ∈ busy, firstFree key step busy cursor = period.2 := by
  induction busy generalizing cursor with
  | nil => exact .inl rfl
  | cons period rest ih =>
      unfold firstFree
      by_cases hfits : key cursor + step ≤ key period.1
      · exact .inl (if_pos hfits)
      · rw [if_neg hfits]
        rcases ih (if key cursor < key period.2 then period.2 else cursor) with h | ⟨p, hp, h⟩
        · rw [h]
          by_cases hends : key cursor < key period.2
          · exact .inr ⟨period, List.mem_cons_self, if_pos hends⟩
          · exact .inl (if_neg hends)
        · exact .inr ⟨p, List.mem_cons_of_mem _ hp, h⟩

/-- Over periods in order of their starts the scan returns a free slot. -/
theorem free_firstFree (hsorted : busy.Pairwise fun p q => key p.1 ≤ key q.1) (cursor : α) :
    Free key step busy (firstFree key step busy cursor) := by
  induction busy generalizing cursor with
  | nil => simp [Free]
  | cons period rest ih =>
      obtain ⟨hfirst, hrest⟩ := List.pairwise_cons.mp hsorted
      unfold firstFree
      by_cases hfits : key cursor + step ≤ key period.1
      · -- the slot ends before the first period, so before all of them
        rw [if_pos hfits]
        intro p hp
        refine not_blocks_iff.mpr (.inl ?_)
        rcases List.mem_cons.mp hp with rfl | hp
        · exact hfits
        · exact hfits.trans (hfirst p hp)
      · rw [if_neg hfits]
        intro p hp
        rcases List.mem_cons.mp hp with rfl | hp
        · -- the cursor has passed this period
          refine not_blocks_of_ends (le_trans ?_ (key_le_firstFree rest _))
          by_cases hends : key cursor < key p.2
          · rw [if_pos hends]
          · rw [if_neg hends]
            exact not_lt.mp hends
        · exact ih hrest _ p hp

/-- The scan stays at a free slot. -/
theorem firstFree_of_free (h : Free key step busy cursor) :
    firstFree key step busy cursor = cursor := by
  induction busy with
  | nil => rfl
  | cons period rest ih =>
      have hrest : Free key step rest cursor := fun p hp => h p (List.mem_cons_of_mem _ hp)
      unfold firstFree
      by_cases hfits : key cursor + step ≤ key period.1
      · exact if_pos hfits
      · have hends : ¬ key cursor < key period.2 :=
          not_lt.mpr ((not_blocks_iff.mp (h period List.mem_cons_self)).resolve_left hfits)
        rw [if_neg hfits, if_neg hends]
        exact ih hrest

/-- What the scan tries is where it started or the end of a period. -/
theorem mem_tried (hc : c ∈ tried key step busy cursor) :
    c = cursor ∨ ∃ period ∈ busy, c = period.2 := by
  induction busy generalizing cursor with
  | nil => cases hc
  | cons period rest ih =>
      unfold tried at hc
      rcases List.mem_cons.mp hc with rfl | hc
      · exact .inl rfl
      · by_cases hfits : key cursor + step ≤ key period.1
        · rw [if_pos hfits] at hc
          cases hc
        · rw [if_neg hfits] at hc
          rcases ih hc with h | ⟨p, hp, h⟩
          · by_cases hends : key cursor < key period.2
            · exact .inr ⟨period, List.mem_cons_self, h.trans (if_pos hends)⟩
            · exact .inl (h.trans (if_neg hends))
          · exact .inr ⟨p, List.mem_cons_of_mem _ hp, h⟩

/-- A free slot that the scan tries is the one that it returns. -/
theorem firstFree_of_mem_tried (hc : c ∈ tried key step busy cursor)
    (hfree : Free key step busy c) : firstFree key step busy cursor = c := by
  induction busy generalizing cursor with
  | nil => cases hc
  | cons period rest ih =>
      have hrest : Free key step rest c := fun p hp => hfree p (List.mem_cons_of_mem _ hp)
      unfold tried at hc
      rcases List.mem_cons.mp hc with rfl | hc
      · exact firstFree_of_free hfree
      · unfold firstFree
        by_cases hfits : key cursor + step ≤ key period.1
        · rw [if_pos hfits] at hc
          cases hc
        · rw [if_neg hfits] at hc ⊢
          exact ih hc hrest

theorem Free.of_subset {busy' : List (α × α)} (h : Free key step busy c)
    (hsub : ∀ period ∈ busy', period ∈ busy) : Free key step busy' c :=
  fun period hperiod => h period (hsub period hperiod)

end Iara.Lib.Availability
