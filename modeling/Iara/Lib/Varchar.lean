import Iara.Lib.PyLines

/-!
# Text columns of Postgres

What a column stores of a text.  No text may hold a NUL, and a `varchar(n)` cuts a text after `n`
characters where the rest is blank, and refuses any other text that is longer.
-/

namespace Iara.Lib

/-- A text that can be sent to Postgres: it holds no NUL. -/
def isSendable (text : String) : Bool := !text.toList.contains '\x00'

/-- What a `varchar(n)` column stores of a text; `none` where the statement fails. -/
def varchar (n : Nat) (text : String) : Option String :=
  if isSendable text && (text.toList.drop n).all (· == ' ') then some (PyStr.slice text n)
  else none

variable {n : Nat} {text stored : String}

theorem slice_of_length_le (h : text.length ≤ n) : PyStr.slice text n = text := by
  unfold PyStr.slice
  rw [List.take_of_length_le h, String.ofList_toList]

theorem varchar_of_length_le (hsendable : isSendable text = true) (h : text.length ≤ n) :
    varchar n text = some text := by
  have hrest : text.toList.drop n = [] := List.drop_of_length_le h
  unfold varchar
  rw [hsendable, hrest, slice_of_length_le h]
  rfl

theorem varchar_eq_some (h : varchar n text = some stored) :
    isSendable text = true ∧ stored = PyStr.slice text n := by
  unfold varchar at h
  split at h
  next hfits => exact ⟨(Bool.and_eq_true_iff.1 hfits).1, (Option.some.inj h).symm⟩
  next => cases h

/-- What is stored fits. -/
theorem length_of_varchar (h : varchar n text = some stored) : stored.length ≤ n := by
  rw [(varchar_eq_some h).2, PyStr.length_slice]
  exact Nat.min_le_left _ _

theorem isSendable_of_varchar (h : varchar n text = some stored) : isSendable stored = true := by
  obtain ⟨hsendable, rfl⟩ := varchar_eq_some h
  unfold isSendable at hsendable ⊢
  rw [Bool.not_eq_true', List.contains_eq_mem, decide_eq_false_iff_not] at hsendable ⊢
  exact fun hmem => hsendable (PyStr.mem_slice hmem)

/-- A column stores what it has stored once more. -/
theorem varchar_stored (h : varchar n text = some stored) : varchar n stored = some stored :=
  varchar_of_length_le (isSendable_of_varchar h) (length_of_varchar h)

end Iara.Lib
