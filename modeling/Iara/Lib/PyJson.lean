import Iara.Lib.Json
import Iara.Lib.PyStr

/-!
# JSON values as Python objects

What `json.loads` returns, read the way Python code reads it: `str`, `get` with a
default, and `or`.  Code that raises is in `Except`, with the name of the exception.
-/

namespace Iara.Lib

namespace PyText

variable (text : PyText)

mutual

/-- `repr(value)`. -/
def reprJson : Json → String
  | .null => "None"
  | .bool b => if b then "True" else "False"
  | .num n => toString n
  | .real digits => digits
  | .str s => text.repr s
  | .arr items => "[" ++ PyStr.join ", " (reprItems items) ++ "]"
  | .obj entries => "\x7b" ++ PyStr.join ", " (reprEntries entries) ++ "\x7d"

def reprItems : List Json → List String
  | [] => []
  | item :: items => reprJson item :: reprItems items

def reprEntries : List (String × Json) → List String
  | [] => []
  | (key, value) :: entries => (text.repr key ++ ": " ++ reprJson value) :: reprEntries entries

end

/-- `str(value)`. -/
def str : Json → String
  | .str s => s
  | value => text.reprJson value

@[simp] theorem str_str (s : String) : text.str (.str s) = s := rfl

@[simp] theorem str_null : text.str .null = "None" := by
  simp only [str, reprJson]

/-- How the falsy values read. -/
theorem str_of_falsy {value : Json} (h : value.truthy = false) :
    text.str value ∈ ["None", "False", "0", "0.0", "-0.0", "", "[]", "\x7b\x7d"] := by
  cases value with
  | null => simp [str, reprJson]
  | bool b =>
      cases b with
      | false => simp [str, reprJson]
      | true => cases h
  | num n =>
      have hzero : n = 0 := by simpa [Json.truthy] using h
      have hread : text.str (.num 0) = "0" := by
        simp only [str, reprJson]
        rfl
      simp [hzero, hread]
  | real digits =>
      have hdigits : digits = "0.0" ∨ digits = "-0.0" := by
        simpa [Json.truthy, Decidable.or_iff_not_imp_left] using h
      rcases hdigits with rfl | rfl <;> simp [str, reprJson]
  | str s =>
      have hempty : s = "" := by simpa [Json.truthy] using h
      simp [str, hempty]
  | arr items =>
      have hempty : items = [] := by simpa [Json.truthy] using h
      simp [str, reprJson, reprItems, PyStr.join, hempty]
  | obj entries =>
      have hempty : entries = [] := by simpa [Json.truthy] using h
      simp [str, reprJson, reprEntries, PyStr.join, hempty]

end PyText

namespace Json

/-- `value.get(key, default)`. -/
def getD (value : Json) (key : String) (default : Json) : Json := (value.get key).getD default

/-- `first or second`. -/
def orElse (first second : Json) : Json := if first.truthy then first else second

def isObj : Json → Bool
  | obj _ => true
  | _ => false

/-- The receiver of a `.get`: only a dict has one. -/
def asDict (value : Json) : Except String Json :=
  if value.isObj then .ok value else .error "AttributeError"

theorem asDict_eq_ok {value d : Json} (h : value.asDict = .ok d) :
    value = d ∧ value.isObj = true := by
  unfold asDict at h
  split at h
  next hobj => exact ⟨Except.ok.inj h, hobj⟩
  next => cases h

end Json

/-- A computation that returns has returned at each of its steps. -/
theorem bind_eq_ok {ε α β : Type} {x : Except ε α} {f : α → Except ε β} {b : β}
    (h : (x >>= f) = .ok b) : ∃ a, x = .ok a ∧ f a = .ok b := by
  cases x with
  | error e => cases h
  | ok a => exact ⟨a, rfl, h⟩

end Iara.Lib
