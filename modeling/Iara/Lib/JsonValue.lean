import Iara.Lib.JsonPath
import Mathlib.Data.Rat.Init
import Mathlib.Data.List.Nodup

/-!
# JSON values up to the order of keys

What a value has to be for a Python object (`WellFormed`), and when two values are equal
as JSON (`Equal`): objects in whatever order their keys are, numbers in whatever way they
are written.
-/

namespace Iara.Lib

namespace Json

/-- What holds of a value as soon as it holds of its members holds of every value. -/
theorem induction_members {P : Json → Prop} (null : P null) (bool : ∀ b, P (bool b))
    (num : ∀ n, P (num n)) (real : ∀ digits, P (real digits)) (str : ∀ s, P (str s))
    (arr : ∀ items, (∀ item ∈ items, P item) → P (arr items))
    (obj : ∀ entries, (∀ entry ∈ entries, P entry.2) → P (obj entries)) (value : Json) : P value :=
  @Json.rec P (fun items => ∀ item ∈ items, P item)
    (fun entries => ∀ entry ∈ entries, P entry.2) (fun entry => P entry.2)
    null bool num real str arr obj (List.forall_mem_nil _)
    (fun _ _ hitem hitems => List.forall_mem_cons.2 ⟨hitem, hitems⟩) (List.forall_mem_nil _)
    (fun _ _ hentry hentries => List.forall_mem_cons.2 ⟨hentry, hentries⟩) (fun _ _ h => h) value

/-! ## Python objects -/

/-- The `repr` of a float has a point, an exponent, or is `inf` or `nan`. -/
def IsFloatRepr (digits : String) : Prop :=
  (∀ c ∈ digits.toList, c.isDigit = true ∨ c ∈ ".e+-infa".toList) ∧
    ∃ c ∈ digits.toList, c ∈ ".en".toList

/-- The keys of every object are distinct, and every float is written as one. -/
structure WellFormed (value : Json) : Prop where
  keys : ∀ path entries, At value path (obj entries) → (entries.map Prod.fst).Nodup
  floats : ∀ path digits, At value path (real digits) → IsFloatRepr digits

theorem WellFormed.of_at {value found : Json} {path : List JsonStep} (h : WellFormed value)
    (hfound : At value path found) : WellFormed found :=
  ⟨fun path' entries hentries => h.keys (path ++ path') entries
      (at_append.2 ⟨found, hfound, hentries⟩),
    fun path' digits hdigits => h.floats (path ++ path') digits
      (at_append.2 ⟨found, hfound, hdigits⟩)⟩

theorem WellFormed.item {items : List Json} {item : Json} (h : WellFormed (arr items))
    (hitem : item ∈ items) : WellFormed item := by
  obtain ⟨i, hi⟩ := List.mem_iff_getElem?.1 hitem
  exact h.of_at (.item hi (.here item))

theorem WellFormed.entry {entries : List (String × Json)} {entry : String × Json}
    (h : WellFormed (obj entries)) (hentry : entry ∈ entries) : WellFormed entry.2 :=
  h.of_at (.entry hentry (.here entry.2))

theorem WellFormed.nodup {entries : List (String × Json)} (h : WellFormed (obj entries)) :
    (entries.map Prod.fst).Nodup := h.keys [] entries (.here _)

theorem WellFormed.digits {digits : String} (h : WellFormed (real digits)) :
    IsFloatRepr digits := h.floats [] digits (.here _)

theorem wellFormed_num (n : Int) : WellFormed (num n) :=
  ⟨fun _ _ h => (nomatch h), fun _ _ h => (nomatch h)⟩

theorem wellFormed_str (s : String) : WellFormed (str s) :=
  ⟨fun _ _ h => (nomatch h), fun _ _ h => (nomatch h)⟩

theorem wellFormed_obj {entries : List (String × Json)} (hnodup : (entries.map Prod.fst).Nodup)
    (hentries : ∀ entry ∈ entries, WellFormed entry.2) : WellFormed (obj entries) := by
  constructor
  · intro path found h
    cases h with
    | here => exact hnodup
    | entry hentry h => exact (hentries _ hentry).keys _ _ h
  · intro path digits h
    cases h with
    | entry hentry h => exact (hentries _ hentry).floats _ _ h

theorem WellFormed.of_perm {as bs : List (String × Json)} (h : WellFormed (obj as))
    (hperm : as.Perm bs) : WellFormed (obj bs) :=
  wellFormed_obj ((hperm.map Prod.fst).nodup_iff.1 h.nodup)
    fun _ hentry => h.entry (hperm.symm.subset hentry)

/-! ## Equality -/

/-- The number that a value is; `read` reads the digits of a float. -/
def number (read : String → Rat) : Json → Option Rat
  | num n => some n
  | real digits => some (read digits)
  | _ => none

/-- Two values are equal as JSON. -/
inductive Equal (read : String → Rat) : Json → Json → Prop
  | null : Equal read null null
  | bool (b : Bool) : Equal read (bool b) (bool b)
  | number {a b : Json} {x : Rat} (ha : a.number read = some x) (hb : b.number read = some x) :
      Equal read a b
  | str (s : String) : Equal read (str s) (str s)
  | arr {as bs : List Json} (hlength : as.length = bs.length)
      (hitems : ∀ (i : Nat) (a b : Json), as[i]? = some a → bs[i]? = some b → Equal read a b) :
      Equal read (arr as) (arr bs)
  | obj {as bs : List (String × Json)}
      (hkeys : ∀ key, (as.lookup key).isSome = (bs.lookup key).isSome)
      (hvalues : ∀ key a b, as.lookup key = some a → bs.lookup key = some b → Equal read a b) :
      Equal read (obj as) (obj bs)

variable {read : String → Rat}

theorem mem_of_lookup {entries : List (String × Json)} {key : String} {value : Json}
    (h : entries.lookup key = some value) : (key, value) ∈ entries := by
  obtain ⟨before, after, rfl, -⟩ := List.lookup_eq_some_iff.1 h
  exact List.mem_append_right _ List.mem_cons_self

theorem equal_refl (value : Json) : Equal read value value := by
  induction value using induction_members with
  | null => exact .null
  | bool b => exact .bool b
  | num n => exact .number rfl rfl
  | real digits => exact .number rfl rfl
  | str s => exact .str s
  | arr items ih =>
      refine .arr rfl fun i a b ha hb => ?_
      obtain rfl := Option.some.inj (ha.symm.trans hb)
      exact ih a (List.mem_of_getElem? ha)
  | obj entries ih =>
      refine .obj (fun key => rfl) fun key a b ha hb => ?_
      obtain rfl := Option.some.inj (ha.symm.trans hb)
      exact ih _ (mem_of_lookup ha)

theorem lookup_of_mem {entries : List (String × Json)} {key : String} {value : Json}
    (hnodup : (entries.map Prod.fst).Nodup) (h : (key, value) ∈ entries) :
    entries.lookup key = some value := by
  obtain ⟨before, after, rfl⟩ := List.append_of_mem h
  refine List.lookup_eq_some_iff.2 ⟨before, after, rfl, fun entry hentry => ?_⟩
  rw [List.map_append, List.map_cons, List.nodup_append] at hnodup
  have hne := hnodup.2.2 entry.1 (List.mem_map_of_mem hentry) key List.mem_cons_self
  simpa using hne.symm

/-- The order of entries with distinct keys is no part of an object. -/
theorem lookup_perm {as bs : List (String × Json)} (hnodup : (as.map Prod.fst).Nodup)
    (hperm : as.Perm bs) (key : String) : as.lookup key = bs.lookup key := by
  have hnodup' : (bs.map Prod.fst).Nodup := (hperm.map Prod.fst).nodup_iff.1 hnodup
  apply Option.ext
  intro value
  constructor
  · intro h
    exact lookup_of_mem hnodup' (hperm.subset (mem_of_lookup h))
  · intro h
    exact lookup_of_mem hnodup (hperm.symm.subset (mem_of_lookup h))

theorem equal_of_perm {as bs : List (String × Json)} (hnodup : (as.map Prod.fst).Nodup)
    (hperm : as.Perm bs) : Equal read (obj as) (obj bs) := by
  refine .obj (fun key => by rw [lookup_perm hnodup hperm]) fun key a b ha hb => ?_
  rw [lookup_perm hnodup hperm] at ha
  obtain rfl := Option.some.inj (ha.symm.trans hb)
  exact equal_refl a

theorem equal_cons {as bs : List (String × Json)} {key : String} {a b : Json}
    (hvalue : Equal read a b) (hrest : Equal read (obj as) (obj bs)) :
    Equal read (obj ((key, a) :: as)) (obj ((key, b) :: bs)) := by
  cases hrest with
  | number ha hb => cases ha
  | obj hkeys hvalues =>
      refine .obj (fun name => ?_) fun name a' b' ha hb => ?_
      · rw [List.lookup_cons, List.lookup_cons]
        split
        · rfl
        · exact hkeys name
      · rw [List.lookup_cons] at ha hb
        split at ha
        next hname =>
          rw [hname] at hb
          cases ha
          cases hb
          exact hvalue
        next hname =>
          rw [hname] at hb
          exact hvalues name a' b' ha hb

end Json

end Iara.Lib
