/-!
# JSON values

The values that cross a queue or sit in a JSON column.  An object is the list
of its entries in insertion order, as a Python dict iterates them, and a float is
its `repr`.
-/

namespace Iara.Lib

inductive Json where
  | null
  | bool (b : Bool)
  | num (n : Int)
  | real (digits : String)
  | str (s : String)
  | arr (items : List Json)
  | obj (entries : List (String × Json))
  deriving Repr

namespace Json

mutual

/-- Equality of values, entry by entry. -/
def same : Json → Json → Bool
  | null, null => true
  | bool a, bool b => a == b
  | num a, num b => a == b
  | real a, real b => a == b
  | str a, str b => a == b
  | arr as, arr bs => sameItems as bs
  | obj as, obj bs => sameEntries as bs
  | _, _ => false

def sameItems : List Json → List Json → Bool
  | [], [] => true
  | a :: as, b :: bs => same a b && sameItems as bs
  | _, _ => false

def sameEntries : List (String × Json) → List (String × Json) → Bool
  | [], [] => true
  | (k, a) :: as, (l, b) :: bs => k == l && (same a b && sameEntries as bs)
  | _, _ => false

end

mutual

theorem same_iff : ∀ a b : Json, same a b = true ↔ a = b
  | null, b => by cases b <;> simp [same]
  | bool _, b => by cases b <;> simp [same]
  | num _, b => by cases b <;> simp [same]
  | real _, b => by cases b <;> simp [same]
  | str _, b => by cases b <;> simp [same]
  | arr as, b => by
      cases b with
      | arr bs => rw [same, sameItems_iff as bs, arr.injEq]
      | _ => simp [same]
  | obj as, b => by
      cases b with
      | obj bs => rw [same, sameEntries_iff as bs, obj.injEq]
      | _ => simp [same]

theorem sameItems_iff : ∀ as bs : List Json, sameItems as bs = true ↔ as = bs
  | [], bs => by cases bs <;> simp [sameItems]
  | a :: as, bs => by
      cases bs with
      | nil => simp [sameItems]
      | cons b bs =>
          rw [sameItems, Bool.and_eq_true, same_iff a b, sameItems_iff as bs, List.cons.injEq]

theorem sameEntries_iff : ∀ as bs : List (String × Json), sameEntries as bs = true ↔ as = bs
  | [], bs => by cases bs <;> simp [sameEntries]
  | (k, a) :: as, bs => by
      cases bs with
      | nil => simp [sameEntries]
      | cons e bs =>
          obtain ⟨l, b⟩ := e
          rw [sameEntries, Bool.and_eq_true, Bool.and_eq_true, same_iff a b,
            sameEntries_iff as bs, List.cons.injEq, Prod.mk.injEq, beq_iff_eq, and_assoc]

end

instance : DecidableEq Json := fun a b => decidable_of_iff _ (same_iff a b)

/-- The truth value of a value. -/
def truthy : Json → Bool
  | null => false
  | bool b => b
  | num n => n != 0
  | real digits => digits != "0.0" && digits != "-0.0"
  | str s => s != ""
  | arr items => !items.isEmpty
  | obj entries => !entries.isEmpty

/-- `value.get(key)` on an object; `none` where the key is missing or the value
is no object. -/
def get (key : String) : Json → Option Json
  | obj entries => entries.lookup key
  | _ => none

end Json

end Iara.Lib
