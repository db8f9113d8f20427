import Iara.Lib.Json

/-!
# Places in a JSON value

`value.At path found`: following the keys and the indices of the path from `value`
comes to `found`.
-/

namespace Iara.Lib

inductive JsonStep where
  | key (name : String)
  | index (i : Nat)
  deriving DecidableEq, Repr

namespace Json

inductive At : Json → List JsonStep → Json → Prop
  | here (value : Json) : At value [] value
  | entry {entries : List (String × Json)} {name : String} {value found : Json}
      {path : List JsonStep} (hentry : (name, value) ∈ entries) (h : At value path found) :
      At (obj entries) (.key name :: path) found
  | item {items : List Json} {i : Nat} {value found : Json} {path : List JsonStep}
      (hitem : items[i]? = some value) (h : At value path found) :
      At (arr items) (.index i :: path) found

@[simp] theorem at_nil {value found : Json} : At value [] found ↔ found = value := by
  constructor
  · intro h
    cases h
    rfl
  · rintro rfl
    exact .here _

@[simp] theorem at_key {value found : Json} {name : String} {path : List JsonStep} :
    At value (.key name :: path) found ↔
      ∃ entries child, value = obj entries ∧ (name, child) ∈ entries ∧ At child path found := by
  constructor
  · intro h
    cases h with
    | entry hentry h => exact ⟨_, _, rfl, hentry, h⟩
  · rintro ⟨entries, child, rfl, hentry, h⟩
    exact .entry hentry h

@[simp] theorem at_index {value found : Json} {i : Nat} {path : List JsonStep} :
    At value (.index i :: path) found ↔
      ∃ items child, value = arr items ∧ items[i]? = some child ∧ At child path found := by
  constructor
  · intro h
    cases h with
    | item hitem h => exact ⟨_, _, rfl, hitem, h⟩
  · rintro ⟨items, child, rfl, hitem, h⟩
    exact .item hitem h

theorem at_append {value found : Json} {path path' : List JsonStep} :
    At value (path ++ path') found ↔ ∃ mid, At value path mid ∧ At mid path' found := by
  induction path generalizing value with
  | nil => simp
  | cons step path ih =>
      constructor
      · intro h
        cases h with
        | entry hentry h =>
            obtain ⟨mid, hmid, h⟩ := ih.1 h
            exact ⟨mid, .entry hentry hmid, h⟩
        | item hitem h =>
            obtain ⟨mid, hmid, h⟩ := ih.1 h
            exact ⟨mid, .item hitem hmid, h⟩
      · rintro ⟨mid, hmid, h⟩
        cases hmid with
        | entry hentry hmid => exact .entry hentry (ih.2 ⟨mid, hmid, h⟩)
        | item hitem hmid => exact .item hitem (ih.2 ⟨mid, hmid, h⟩)

end Json

end Iara.Lib
