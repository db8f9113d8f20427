import Iara.Lib.Interleaving

/-!
# Turns of one party

Several acts of one party with none of another in between: what they come to is
a run of the system, whatever the other parties are.
-/

namespace Iara.Lib

namespace Interleaving

variable {σ π α ε : Type*} (p : Interleaving σ π α ε)

/-- The party after a list of its acts, and the shared state. -/
def actAll : σ → π → List α → Option (π × σ)
  | s, l, [] => some (l, s)
  | s, l, a :: as => (p.act s l a).bind fun r => actAll r.2 r.1 as

variable {p}

theorem actAll_cons {s : σ} {l : π} {a : α} {r : π × σ} (h : p.act s l a = some r)
    (as : List α) : p.actAll s l (a :: as) = p.actAll r.2 r.1 as := by
  rw [actAll, h, Option.bind_some]

theorem actAll_append {s : σ} {l : π} {as : List α} {r : π × σ} (h : p.actAll s l as = some r)
    (bs : List α) : p.actAll s l (as ++ bs) = p.actAll r.2 r.1 bs := by
  induction as generalizing s l with
  | nil =>
      cases h
      rfl
  | cons a as ih =>
      rw [actAll, Option.bind_eq_some_iff] at h
      obtain ⟨r', hact, hrest⟩ := h
      rw [List.cons_append, actAll_cons hact]
      exact ih hrest

/-- A turn is a run. -/
theorem run_actAll {c : Config σ π} {i : Nat} {l l' : π} {t : σ} {as : List α}
    (hi : c.parties[i]? = some l) (h : p.actAll c.shared l as = some (l', t)) :
    p.machine.run c (as.map (.party i)) = some ⟨t, c.parties.set i l'⟩ := by
  induction as generalizing c l with
  | nil =>
      cases h
      obtain ⟨hlt, hget⟩ := List.getElem?_eq_some_iff.1 hi
      rw [List.map_nil, Machine.run_nil, ← hget, List.set_getElem_self]
  | cons a as ih =>
      rw [actAll, Option.bind_eq_some_iff] at h
      obtain ⟨r, hact, hrest⟩ := h
      obtain ⟨hstep, hself⟩ := step_of_act hi hact
      rw [List.map_cons, Machine.run_cons, hstep, Option.bind_some, ih hself hrest]
      rw [List.set_set]

end Interleaving

end Iara.Lib
