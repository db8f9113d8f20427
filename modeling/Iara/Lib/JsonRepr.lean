import Iara.Lib.JsonValue
import Iara.Lib.PyJson
import Iara.Lib.PyRepr
import Mathlib

/-!
# The `repr` of a JSON value

`repr` loses nothing: values whose texts agree are the same value, with their entries in
the same order.  A text ends where it ends as soon as what follows it is no character of
a number, so the members of a list or a dict are read off one after another.
-/

namespace Iara.Lib

namespace PyText

/-! ## Texts one after another -/

/-- The characters of numbers and of `None`, `True` and `False`. -/
def isAtomChar (c : Char) : Bool := c.isAlphanum || "+-.".toList.contains c

/-- No number goes on here. -/
def Stops (u : List Char) : Prop := ∀ c ∈ u.head?, isAtomChar c = false

theorem stops_cons {c : Char} (h : isAtomChar c = false) (u : List Char) : Stops (c :: u) := by
  intro d hd
  obtain rfl := Option.some.inj hd
  exact h

section Members

variable {α : Type} {P : α → Prop} {f : α → String} {close : Char} {u v : List Char}

/-- The text of `a` ends where it ends, whatever else it is compared with. -/
def Delimits (P : α → Prop) (f : α → String) (a : α) : Prop :=
  ∀ b u v, P b → Stops u → Stops v → (f a).toList ++ u = (f b).toList ++ v → a = b ∧ u = v

/-- The members after the first one, each with its comma, up to the closing bracket. -/
def restText (f : α → String) (close : Char) (u : List Char) : List α → List Char
  | [] => close :: u
  | x :: xs => ',' :: ' ' :: ((f x).toList ++ restText f close u xs)

theorem toList_join (f : α → String) (close : Char) (u : List Char) (x : α) (xs : List α) :
    (PyStr.join ", " ((x :: xs).map f)).toList ++ close :: u =
      (f x).toList ++ restText f close u xs := by
  induction xs generalizing x with
  | nil => rfl
  | cons y ys ih =>
      have hjoin : PyStr.join ", " ((x :: y :: ys).map f) =
          f x ++ ", " ++ PyStr.join ", " ((y :: ys).map f) := rfl
      rw [hjoin, String.toList_append, String.toList_append, List.append_assoc, List.append_assoc,
        ih y]
      rfl

theorem stops_restText (hclose : isAtomChar close = false) (xs : List α) :
    Stops (restText f close u xs) := by
  cases xs with
  | nil => exact stops_cons hclose u
  | cons x xs => exact stops_cons (by decide) _

theorem restText_delimits (hclose : isAtomChar close = false) (hcomma : close ≠ ',')
    {xs ys : List α} (hxs : ∀ x ∈ xs, Delimits P f x) (hys : ∀ y ∈ ys, P y)
    (h : restText f close u xs = restText f close v ys) : xs = ys ∧ u = v := by
  induction xs generalizing ys with
  | nil =>
      cases ys with
      | nil => exact ⟨rfl, (List.cons.inj h).2⟩
      | cons y ys => exact absurd (List.cons.inj h).1 hcomma
  | cons x xs ih =>
      cases ys with
      | nil => exact absurd (List.cons.inj h).1.symm hcomma
      | cons y ys =>
          have hrest := (List.cons.inj (List.cons.inj h).2).2
          obtain ⟨rfl, htail⟩ := hxs x List.mem_cons_self y _ _ (hys y List.mem_cons_self)
            (stops_restText hclose xs) (stops_restText hclose ys) hrest
          obtain ⟨rfl, rfl⟩ := ih (fun x hx => hxs x (List.mem_cons_of_mem _ hx))
            (fun y hy => hys y (List.mem_cons_of_mem _ hy)) htail
          exact ⟨rfl, rfl⟩

/-- The members of a list or a dict can be read off its text. -/
theorem join_delimits (hclose : isAtomChar close = false) (hcomma : close ≠ ',')
    (hopens : ∀ y, P y → ∀ w w', (f y).toList ++ w ≠ close :: w') {xs ys : List α}
    (hxs : ∀ x ∈ xs, P x ∧ Delimits P f x) (hys : ∀ y ∈ ys, P y)
    (h : (PyStr.join ", " (xs.map f)).toList ++ close :: u =
      (PyStr.join ", " (ys.map f)).toList ++ close :: v) : xs = ys ∧ u = v := by
  cases xs with
  | nil =>
      cases ys with
      | nil => exact ⟨rfl, (List.cons.inj h).2⟩
      | cons y ys =>
          rw [toList_join f close v y ys] at h
          exact absurd h.symm (hopens y (hys y List.mem_cons_self) _ _)
  | cons x xs =>
      cases ys with
      | nil =>
          rw [toList_join f close u x xs] at h
          exact absurd h (hopens x (hxs x List.mem_cons_self).1 _ _)
      | cons y ys =>
          rw [toList_join f close u x xs, toList_join f close v y ys] at h
          obtain ⟨rfl, hrest⟩ := (hxs x List.mem_cons_self).2 y _ _ (hys y List.mem_cons_self)
            (stops_restText hclose xs) (stops_restText hclose ys) h
          obtain ⟨rfl, rfl⟩ := restText_delimits hclose hcomma
            (fun x hx => (hxs x (List.mem_cons_of_mem _ hx)).2)
            (fun y hy => hys y (List.mem_cons_of_mem _ hy)) hrest
          exact ⟨rfl, rfl⟩

end Members

/-! ## Numbers and names -/

theorem atoms_delimit {as bs u v : List Char} (has : ∀ c ∈ as, isAtomChar c = true)
    (hbs : ∀ c ∈ bs, isAtomChar c = true) (hu : Stops u) (hv : Stops v) (h : as ++ u = bs ++ v) :
    as = bs ∧ u = v := by
  induction as generalizing bs with
  | nil =>
      cases bs with
      | nil => exact ⟨rfl, h⟩
      | cons b bs =>
          rw [List.nil_append] at h
          have hstop := hu b (by rw [h]; rfl)
          rw [hbs b List.mem_cons_self] at hstop
          cases hstop
  | cons a as ih =>
      cases bs with
      | nil =>
          rw [List.nil_append] at h
          have hstop := hv a (by rw [← h]; rfl)
          rw [has a List.mem_cons_self] at hstop
          cases hstop
      | cons b bs =>
          obtain ⟨rfl, hrest⟩ := List.cons.inj h
          obtain ⟨rfl, rfl⟩ := ih (fun c hc => has c (List.mem_cons_of_mem _ hc))
            (fun c hc => hbs c (List.mem_cons_of_mem _ hc)) hrest
          exact ⟨rfl, rfl⟩

/-- The value that is written as a number or a name. -/
def readAtom (s : String) : Json :=
  if s = "None" then .null
  else if s = "True" then .bool true
  else if s = "False" then .bool false
  else if s.toList.all fun c => c.isDigit || c == '-' then .num (s.toInt?.getD 0)
  else .real s

theorem isDigit_of_mem_repr (n : Nat) : ∀ c ∈ n.repr.toList, c.isDigit = true := by
  intro c hc
  rw [Nat.toList_repr] at hc
  exact Nat.isDigit_of_mem_toDigits (by decide) (by decide) hc

theorem intChar_of_mem (n : Int) :
    ∀ c ∈ (toString n).toList, (c.isDigit || c == '-') = true := by
  intro c hc
  cases n with
  | ofNat n => rw [isDigit_of_mem_repr n c hc, Bool.true_or]
  | negSucc n =>
      have htext : toString (Int.negSucc n) = "-" ++ (n + 1).repr := rfl
      rw [htext, String.toList_append] at hc
      rcases List.mem_append.1 hc with hsign | hdigit
      · rw [List.mem_singleton.1 hsign]; rfl
      · rw [isDigit_of_mem_repr (n + 1) c hdigit, Bool.true_or]

theorem toInt?_toString (n : Int) : (toString n).toInt? = some n := Int.toInt?_repr n

theorem toString_ne {n : Int} {s : String} (c : Char) (hc : c ∈ s.toList)
    (hother : (c.isDigit || c == '-') = false) : toString n ≠ s := by
  rintro rfl
  rw [intChar_of_mem n c hc] at hother
  cases hother

variable (text : PyText)

/-- `a` for a number or a name, else the character that the text starts with. -/
def kind : Json → Char
  | .str _ => '\x27'
  | .arr _ => '['
  | .obj _ => '\x7b'
  | _ => 'a'

theorem readAtom_reprJson {value : Json} (hkind : kind value = 'a') (h : value.WellFormed) :
    readAtom (text.reprJson value) = value := by
  cases value with
  | null => rw [reprJson, readAtom, if_pos rfl]
  | bool b => cases b <;> rw [reprJson] <;> rfl
  | num n =>
      have hall : (toString n).toList.all (fun c => c.isDigit || c == '-') = true :=
        List.all_eq_true.2 (intChar_of_mem n)
      rw [reprJson, readAtom, if_neg (toString_ne 'N' (by decide) rfl),
        if_neg (toString_ne 'T' (by decide) rfl), if_neg (toString_ne 'F' (by decide) rfl),
        if_pos hall, toInt?_toString, Option.getD_some]
  | real digits =>
      obtain ⟨hchars, c, hc, hmark⟩ := h.digits
      have hother : ∀ d, (d.isDigit || ".e+-infa".toList.contains d) = false →
          d ∉ digits.toList := by
        intro d hd hmem
        rcases hchars d hmem with hdigit | hin
        · rw [hdigit] at hd; cases hd
        · rw [List.contains_iff_mem.2 hin, Bool.or_true] at hd; cases hd
      have hne : ∀ s d, d ∈ s.toList → (d.isDigit || ".e+-infa".toList.contains d) = false →
          digits ≠ s := by
        rintro s d hmem hd rfl
        exact hother d hd hmem
      have hall : digits.toList.all (fun c => c.isDigit || c == '-') ≠ true := by
        intro hall
        have hplain := List.all_eq_true.1 hall c hc
        have hcases : c = '.' ∨ c = 'e' ∨ c = 'n' := by simpa using hmark
        rcases hcases with rfl | rfl | rfl <;> cases hplain
      rw [reprJson, readAtom, if_neg (hne _ 'N' (by decide) rfl),
        if_neg (hne _ 'T' (by decide) rfl), if_neg (hne _ 'F' (by decide) rfl), if_neg hall]
  | str s => cases hkind
  | arr items => cases hkind
  | obj entries => cases hkind

theorem isAtomChar_of_mem {value : Json} (hkind : kind value = 'a') (h : value.WellFormed) :
    ∀ c ∈ (text.reprJson value).toList, isAtomChar c = true := by
  cases value with
  | null =>
      rw [reprJson]
      exact List.all_eq_true.1 (rfl : "None".toList.all isAtomChar = true)
  | bool b =>
      cases b
      · rw [reprJson]
        exact List.all_eq_true.1 (rfl : "False".toList.all isAtomChar = true)
      · rw [reprJson]
        exact List.all_eq_true.1 (rfl : "True".toList.all isAtomChar = true)
  | num n =>
      rw [reprJson]
      intro c hc
      have hchar : c.isDigit = true ∨ c = '-' := by simpa using intChar_of_mem n c hc
      rcases hchar with hdigit | rfl
      · simp [isAtomChar, Char.isAlphanum, hdigit]
      · rfl
  | real digits =>
      rw [reprJson]
      intro c hc
      rcases h.digits.1 c hc with hdigit | hin
      · simp [isAtomChar, Char.isAlphanum, hdigit]
      · exact List.all_eq_true.1 (rfl : ".e+-infa".toList.all isAtomChar = true) c hin
  | str s => cases hkind
  | arr items => cases hkind
  | obj entries => cases hkind

theorem reprJson_ne_empty {value : Json} (hkind : kind value = 'a') (h : value.WellFormed) :
    text.reprJson value ≠ "" := by
  cases value with
  | null => rw [reprJson]; decide
  | bool b => cases b <;> rw [reprJson] <;> decide
  | num n =>
      rw [reprJson]
      cases n with
      | ofNat n => exact Nat.repr_ne_empty
      | negSucc n =>
          intro hempty
          have hlist := congrArg String.toList hempty
          rw [show toString (Int.negSucc n) = "-" ++ (n + 1).repr from rfl,
            String.toList_append] at hlist
          cases hlist
  | real digits =>
      rw [reprJson]
      rintro rfl
      obtain ⟨-, c, hc, -⟩ := h.digits
      cases hc
  | str s => cases hkind
  | arr items => cases hkind
  | obj entries => cases hkind

/-- What the text of a value starts with. -/
theorem head_reprJson (hrepr : ∀ s, text.repr s = PyStr.reprStr isPrintable s) {value : Json}
    (h : value.WellFormed) (u : List Char) : ∃ c w, (text.reprJson value).toList ++ u = c :: w ∧
      (if isAtomChar c then 'a' else if c = '\x22' then '\x27' else c) = kind value := by
  have hatom : kind value = 'a' → ∃ c w, (text.reprJson value).toList ++ u = c :: w ∧
      (if isAtomChar c then 'a' else if c = '\x22' then '\x27' else c) = 'a' := by
    intro hkind
    obtain ⟨c, cs, hcs⟩ := List.exists_cons_of_ne_nil
      fun hnil => text.reprJson_ne_empty hkind h (String.toList_inj.1 hnil)
    have hchar := text.isAtomChar_of_mem hkind h c (by rw [hcs]; exact List.mem_cons_self)
    exact ⟨c, cs ++ u, by rw [hcs]; rfl, if_pos hchar⟩
  cases value with
  | null => exact hatom rfl
  | bool b => exact hatom rfl
  | num n => exact hatom rfl
  | real digits => exact hatom rfl
  | str s =>
      refine ⟨_, _, by rw [reprJson, hrepr, PyStr.toList_reprStr], ?_⟩
      rcases PyStr.quoteOf_cases s with hquote | hquote <;> rw [hquote] <;> rfl
  | arr items =>
      refine ⟨'[', (PyStr.join ", " (text.reprItems items)).toList ++ ']' :: u, ?_, rfl⟩
      rw [reprJson, String.toList_append, String.toList_append, List.append_assoc,
        List.append_assoc]
      rfl
  | obj entries =>
      refine ⟨'\x7b', (PyStr.join ", " (text.reprEntries entries)).toList ++ '\x7d' :: u, ?_, rfl⟩
      rw [reprJson, String.toList_append, String.toList_append, List.append_assoc,
        List.append_assoc]
      rfl

/-! ## Lists and dicts -/

theorem reprItems_eq (items : List Json) : text.reprItems items = items.map text.reprJson := by
  induction items with
  | nil => rw [reprItems]; rfl
  | cons item items ih => rw [reprItems, ih]; rfl

def entryText (entry : String × Json) : String :=
  text.repr entry.1 ++ ": " ++ text.reprJson entry.2

theorem reprEntries_eq (entries : List (String × Json)) :
    text.reprEntries entries = entries.map text.entryText := by
  induction entries with
  | nil => rw [reprEntries]; rfl
  | cons entry entries ih => rw [reprEntries, ih]; rfl

theorem toList_reprJson_arr (items : List Json) (u : List Char) :
    (text.reprJson (.arr items)).toList ++ u =
      '[' :: ((PyStr.join ", " (items.map text.reprJson)).toList ++ ']' :: u) := by
  rw [reprJson, reprItems_eq, String.toList_append, String.toList_append, List.append_assoc,
    List.append_assoc]
  rfl

theorem toList_reprJson_obj (entries : List (String × Json)) (u : List Char) :
    (text.reprJson (.obj entries)).toList ++ u =
      '\x7b' :: ((PyStr.join ", " (entries.map text.entryText)).toList ++ '\x7d' :: u) := by
  rw [reprJson, reprEntries_eq, String.toList_append, String.toList_append, List.append_assoc,
    List.append_assoc]
  rfl

theorem toList_entryText (entry : String × Json) (u : List Char) :
    (text.entryText entry).toList ++ u =
      (text.repr entry.1).toList ++ (':' :: ' ' :: ((text.reprJson entry.2).toList ++ u)) := by
  rw [entryText, String.toList_append, String.toList_append, List.append_assoc, List.append_assoc]
  rfl

variable {text}

/-- An item is no end of a list. -/
theorem reprJson_ne_bracket (hrepr : ∀ s, text.repr s = PyStr.reprStr isPrintable s) {item : Json}
    (h : item.WellFormed) (u v : List Char) : (text.reprJson item).toList ++ u ≠ ']' :: v := by
  intro heq
  obtain ⟨c, w, hc, hkind⟩ := text.head_reprJson hrepr h u
  obtain rfl := (List.cons.inj (hc.symm.trans heq)).1
  cases item <;> cases hkind

/-- An entry is no end of a dict. -/
theorem entryText_ne_brace (hrepr : ∀ s, text.repr s = PyStr.reprStr isPrintable s)
    (entry : String × Json) (u v : List Char) :
    (text.entryText entry).toList ++ u ≠ '\x7d' :: v := by
  intro heq
  rw [toList_entryText, hrepr, PyStr.toList_reprStr] at heq
  have hquote := (List.cons.inj heq).1
  rcases PyStr.quoteOf_cases entry.1 with h | h <;> rw [h] at hquote <;> cases hquote

/-- A dict entry ends where its value ends. -/
theorem entry_delimits (hrepr : ∀ s, text.repr s = PyStr.reprStr isPrintable s)
    {entry : String × Json} (h : Delimits Json.WellFormed text.reprJson entry.2) :
    Delimits (fun entry => entry.2.WellFormed) text.entryText entry := by
  intro other u v hother hu hv heq
  rw [toList_entryText, toList_entryText, hrepr, hrepr] at heq
  obtain ⟨hkey, hrest⟩ := PyStr.reprStr_delimits heq
  obtain ⟨hvalue, rfl⟩ :=
    h other.2 u v hother hu hv (List.cons.inj (List.cons.inj hrest).2).2
  exact ⟨Prod.ext hkey hvalue, rfl⟩

/-- The first character of a text tells the kind of the value. -/
theorem kind_eq_of_text (hrepr : ∀ s, text.repr s = PyStr.reprStr isPrintable s) {a b : Json}
    {u v : List Char} (ha : a.WellFormed) (hb : b.WellFormed)
    (h : (text.reprJson a).toList ++ u = (text.reprJson b).toList ++ v) : kind a = kind b := by
  obtain ⟨c, w, hc, hac⟩ := text.head_reprJson hrepr ha u
  obtain ⟨d, w', hd, hbd⟩ := text.head_reprJson hrepr hb v
  obtain rfl := (List.cons.inj (hc.symm.trans (h.trans hd))).1
  exact hac.symm.trans hbd

theorem atom_delimits (hrepr : ∀ s, text.repr s = PyStr.reprStr isPrintable s) {a : Json}
    (ha : kind a = 'a') (hwf : a.WellFormed) : Delimits Json.WellFormed text.reprJson a := by
  intro b u v hb hu hv heq
  have hb' : kind b = 'a' := (kind_eq_of_text hrepr hwf hb heq).symm.trans ha
  obtain ⟨htext, rfl⟩ := atoms_delimit (text.isAtomChar_of_mem ha hwf)
    (text.isAtomChar_of_mem hb' hb) hu hv heq
  have hread := text.readAtom_reprJson ha hwf
  rw [String.toList_inj.1 htext, text.readAtom_reprJson hb' hb] at hread
  exact ⟨hread.symm, rfl⟩

/-- The text of a well-formed value ends where it ends: the other value is of the same kind,
and the members are compared one after another. -/
theorem reprJson_delimits (hrepr : ∀ s, text.repr s = PyStr.reprStr isPrintable s) (value : Json)
    (h : value.WellFormed) : Delimits Json.WellFormed text.reprJson value := by
  induction value using Json.induction_members with
  | null => exact atom_delimits hrepr rfl h
  | bool b => exact atom_delimits hrepr rfl h
  | num n => exact atom_delimits hrepr rfl h
  | real digits => exact atom_delimits hrepr rfl h
  | str s =>
      intro b u v hb hu hv heq
      have hb' := kind_eq_of_text hrepr h hb heq
      cases b with
      | str t =>
          rw [reprJson, reprJson, hrepr, hrepr] at heq
          obtain ⟨rfl, rfl⟩ := PyStr.reprStr_delimits heq
          exact ⟨rfl, rfl⟩
      | _ => cases hb'
  | arr items ih =>
      intro b u v hb hu hv heq
      have hb' := kind_eq_of_text hrepr h hb heq
      cases b with
      | arr others =>
          rw [toList_reprJson_arr, toList_reprJson_arr] at heq
          obtain ⟨rfl, rfl⟩ := join_delimits rfl (by decide)
            (fun _ hother => reprJson_ne_bracket hrepr hother)
            (fun item hitem => ⟨h.item hitem, ih item hitem (h.item hitem)⟩)
            (fun other hother => hb.item hother) (List.cons.inj heq).2
          exact ⟨rfl, rfl⟩
      | _ => cases hb'
  | obj entries ih =>
      intro b u v hb hu hv heq
      have hb' := kind_eq_of_text hrepr h hb heq
      cases b with
      | obj others =>
          rw [toList_reprJson_obj, toList_reprJson_obj] at heq
          obtain ⟨rfl, rfl⟩ := join_delimits rfl (by decide)
            (fun other _ => entryText_ne_brace hrepr other)
            (fun entry hentry =>
              ⟨h.entry hentry, entry_delimits hrepr (ih entry hentry (h.entry hentry))⟩)
            (fun other hother => hb.entry hother) (List.cons.inj heq).2
          exact ⟨rfl, rfl⟩
      | _ => cases hb'

end PyText

end Iara.Lib
