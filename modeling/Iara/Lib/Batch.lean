import Mathlib.Data.List.Nodup

/-!
# Batches

A batch is the first part of a sorted list, up to a limit.
-/

namespace Iara.Lib.Batch

/-- What a bounded part of a sorted list leaves out comes after all of a full part. -/
theorem take_of_notMem {ρ : Type*} {R : ρ → ρ → Prop} {sorted : List ρ} {limit : Nat} {r : ρ}
    (hsorted : sorted.Pairwise R) (hmem : r ∈ sorted) (hnot : r ∉ sorted.take limit) :
    (sorted.take limit).length = limit ∧ ∀ r' ∈ sorted.take limit, R r' r := by
  rw [← List.take_append_drop limit sorted] at hmem hsorted
  have hdrop : r ∈ sorted.drop limit := (List.mem_append.1 hmem).resolve_left hnot
  constructor
  · have hpos := List.length_pos_of_mem hdrop
    rw [List.length_drop] at hpos
    rw [List.length_take]
    omega
  · intro r' hr'
    exact (List.pairwise_append.1 hsorted).2.2 r' hr' r hdrop

/-- What a batch takes is no longer among what is left. -/
theorem length_filter_add_le {α : Type*} {xs ys : List α} {p : α → Bool} (hxs : xs.Nodup)
    (hys : ys.Nodup) (hsub : ys ⊆ xs) (hp : ∀ x ∈ xs.filter p, x ∉ ys) :
    (xs.filter p).length + ys.length ≤ xs.length := by
  rw [← List.length_append]
  apply List.Nodup.length_le_of_subset
  · rw [List.nodup_append]
    refine ⟨hxs.filter _, hys, ?_⟩
    intro x hx y hy heq
    exact hp x hx (heq ▸ hy)
  · intro x hx
    rcases List.mem_append.1 hx with hout | hin
    · exact (List.mem_filter.1 hout).1
    · exact hsub hin

end Iara.Lib.Batch
