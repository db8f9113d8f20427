import Iara.Lib.JsonScan

/-!
# Reading JSON texts back

Every value whose keys are distinct and whose numbers fit is read back from its text.
-/

namespace Iara.Lib

namespace JsonText

open PyText (Stops stops_cons isAtomChar restText toList_join stops_restText)

/-! ## Values that texts stand for -/

/-- The keys of every object are distinct, and its numbers can be written and read. -/
structure Loadable (floats : PyFloat) (value : Json) : Prop where
  keys : ∀ path entries, Json.At value path (.obj entries) → (entries.map Prod.fst).Nodup
  floats : ∀ path digits, Json.At value path (.real digits) → StableFloat floats.reprOf digits
  ints : ∀ path n, Json.At value path (.num n) → n.natAbs.repr.length ≤ maxStrDigits

variable {floats : PyFloat}

theorem Loadable.of_at {value found : Json} {path : List JsonStep} (h : Loadable floats value)
    (hfound : Json.At value path found) : Loadable floats found where
  keys path' entries hat := h.keys (path ++ path') entries (Json.at_append.2 ⟨found, hfound, hat⟩)
  floats path' digits hat :=
    h.floats (path ++ path') digits (Json.at_append.2 ⟨found, hfound, hat⟩)
  ints path' n hat := h.ints (path ++ path') n (Json.at_append.2 ⟨found, hfound, hat⟩)

theorem Loadable.item {items : List Json} {item : Json} (h : Loadable floats (.arr items))
    (hitem : item ∈ items) : Loadable floats item := by
  obtain ⟨i, hi⟩ := List.mem_iff_getElem?.1 hitem
  exact h.of_at (.item hi (.here item))

theorem Loadable.entry {entries : List (String × Json)} {entry : String × Json}
    (h : Loadable floats (.obj entries)) (hentry : entry ∈ entries) : Loadable floats entry.2 :=
  h.of_at (.entry hentry (.here entry.2))

theorem Loadable.nodup {entries : List (String × Json)} (h : Loadable floats (.obj entries)) :
    (entries.map Prod.fst).Nodup := h.keys [] entries (.here _)

theorem loadable_null : Loadable floats .null := by
  constructor
  · intro path entries h; cases h
  · intro path digits h; cases h
  · intro path n h; cases h

theorem loadable_bool (b : Bool) : Loadable floats (.bool b) := by
  constructor
  · intro path entries h; cases h
  · intro path digits h; cases h
  · intro path n h; cases h

theorem loadable_str (s : String) : Loadable floats (.str s) := by
  constructor
  · intro path entries h; cases h
  · intro path digits h; cases h
  · intro path n h; cases h

theorem loadable_real {digits : String} (h : StableFloat floats.reprOf digits) :
    Loadable floats (.real digits) := by
  constructor
  · intro path entries hat; cases hat
  · intro path digits' hat; cases hat; exact h
  · intro path n hat; cases hat

theorem loadable_num {n : Int} (h : n.natAbs.repr.length ≤ maxStrDigits) :
    Loadable floats (.num n) := by
  constructor
  · intro path entries hat; cases hat
  · intro path digits hat; cases hat
  · intro path n' hat; cases hat; exact h

theorem loadable_arr {items : List Json} (h : ∀ item ∈ items, Loadable floats item) :
    Loadable floats (.arr items) := by
  constructor
  · intro path entries hat
    cases hat with
    | item hitem hat => exact (h _ (List.mem_of_getElem? hitem)).keys _ _ hat
  · intro path digits hat
    cases hat with
    | item hitem hat => exact (h _ (List.mem_of_getElem? hitem)).floats _ _ hat
  · intro path n hat
    cases hat with
    | item hitem hat => exact (h _ (List.mem_of_getElem? hitem)).ints _ _ hat

theorem loadable_obj {entries : List (String × Json)} (hnodup : (entries.map Prod.fst).Nodup)
    (h : ∀ entry ∈ entries, Loadable floats entry.2) : Loadable floats (.obj entries) := by
  constructor
  · intro path found hat
    cases hat with
    | here => exact hnodup
    | entry hentry hat => exact (h _ hentry).keys _ _ hat
  · intro path digits hat
    cases hat with
    | entry hentry hat => exact (h _ hentry).floats _ _ hat
  · intro path n hat
    cases hat with
    | entry hentry hat => exact (h _ hentry).ints _ _ hat

/-- The value at a key, or the default. -/
theorem Loadable.getD {value default : Json} (h : Loadable floats value)
    (hdefault : Loadable floats default) (key : String) :
    Loadable floats (value.getD key default) := by
  unfold Json.getD
  cases hfound : value.get key with
  | none => exact hdefault
  | some found =>
      cases value with
      | obj entries => exact h.entry (Json.mem_of_lookup hfound)
      | _ => cases hfound

theorem Loadable.orElse {first second : Json} (hfirst : Loadable floats first)
    (hsecond : Loadable floats second) : Loadable floats (first.orElse second) := by
  unfold Json.orElse
  split
  · exact hfirst
  · exact hsecond

/-! ## Writing -/

theorem fitItems_eq (items : List Json) : fitItems items = items.all fits := by
  induction items with
  | nil => rw [fitItems]; rfl
  | cons item items ih => rw [fitItems, ih, List.all_cons]

theorem fitEntries_eq (entries : List (String × Json)) :
    fitEntries entries = entries.all fun entry => fits entry.2 := by
  induction entries with
  | nil => rw [fitEntries]; rfl
  | cons entry entries ih => rw [fitEntries, ih, List.all_cons]

theorem fits_of_loadable (value : Json) (h : Loadable floats value) : fits value = true := by
  induction value using Json.induction_members with
  | null => rw [fits] <;> simp
  | bool b => rw [fits] <;> simp
  | num n => rw [fits]; exact decide_eq_true (h.ints [] n (.here _))
  | real digits => rw [fits] <;> simp
  | str s => rw [fits] <;> simp
  | arr items ih =>
      rw [fits, fitItems_eq]
      exact List.all_eq_true.2 fun item hitem => ih item hitem (h.item hitem)
  | obj entries ih =>
      rw [fits, fitEntries_eq]
      exact List.all_eq_true.2 fun entry hentry => ih entry hentry (h.entry hentry)

def entryText (entry : String × Json) : String := quoted entry.1 ++ ": " ++ textOf entry.2

theorem textItems_eq (items : List Json) : textItems items = items.map textOf := by
  induction items with
  | nil => rw [textItems]; rfl
  | cons item items ih => rw [textItems, ih]; rfl

theorem textEntries_eq (entries : List (String × Json)) :
    textEntries entries = entries.map entryText := by
  induction entries with
  | nil => rw [textEntries]; rfl
  | cons entry entries ih => rw [textEntries, ih]; rfl

theorem toList_textOf_arr (items : List Json) (u : List Char) :
    (textOf (.arr items)).toList ++ u =
      '[' :: ((PyStr.join ", " (items.map textOf)).toList ++ ']' :: u) := by
  rw [textOf, textItems_eq, String.toList_append, String.toList_append, List.append_assoc,
    List.append_assoc]
  rfl

theorem toList_textOf_obj (entries : List (String × Json)) (u : List Char) :
    (textOf (.obj entries)).toList ++ u =
      '\x7b' :: ((PyStr.join ", " (entries.map entryText)).toList ++ '\x7d' :: u) := by
  rw [textOf, textEntries_eq, String.toList_append, String.toList_append, List.append_assoc,
    List.append_assoc]
  rfl

theorem toList_entryText (entry : String × Json) (u : List Char) :
    (entryText entry).toList ++ u = '\x22' :: (entry.1.toList.flatMap escapeChar ++
      '\x22' :: ':' :: ' ' :: ((textOf entry.2).toList ++ u)) := by
  rw [entryText, String.toList_append, String.toList_append, List.append_assoc, List.append_assoc,
    toList_quoted]
  rfl

/-! ## Members -/

section Members

variable {α : Type} {scan : List Char → Except String (α × List Char)} {f : α → String}
  {close : Char} {u : List Char}

theorem skipSpace_cons {c : Char} (h : isSpace c = false) (cs : List Char) :
    skipSpace (c :: cs) = c :: cs := by
  unfold skipSpace
  rw [List.dropWhile_cons, h, if_neg Bool.false_ne_true]

/-- The text of `x` starts with a character that is neither a space nor the bracket. -/
def Starts (f : α → String) (close : Char) (x : α) : Prop :=
  ∃ c w, (f x).toList = c :: w ∧ isSpace c = false ∧ c ≠ close

/-- The text of `x` is read back where no more than `bound` characters are left. -/
def Reads (scan : List Char → Except String (α × List Char)) (f : α → String) (bound : Nat)
    (x : α) : Prop :=
  ∀ u, Stops u → ((f x).toList ++ u).length ≤ bound → scan ((f x).toList ++ u) = .ok (x, u)

theorem Starts.skipSpace {x : α} (h : Starts f close x) (u : List Char) :
    skipSpace ((f x).toList ++ u) = (f x).toList ++ u := by
  obtain ⟨c, w, htext, hspace, -⟩ := h
  rw [htext, List.cons_append, skipSpace_cons hspace]

theorem Starts.length_pos {x : α} (h : Starts f close x) : 0 < (f x).toList.length := by
  obtain ⟨c, w, htext, -⟩ := h
  rw [htext]
  exact Nat.succ_pos _

theorem scanMembers_last {fuel : Nat} {cs rest : List Char} {x : α}
    (hscan : scan cs = .ok (x, rest)) (hmark : skipSpace rest = close :: u) :
    scanMembers scan close (fuel + 1) cs = .ok ([x], u) := by
  have hnext : nextMark rest = .ok (close, u) := by rw [nextMark, hmark]
  simp only [scanMembers, hscan, bind, Except.bind, hnext, if_true]

theorem scanMembers_more {fuel : Nat} {cs rest rest' : List Char} {x : α} (hcomma : close ≠ ',')
    (hscan : scan cs = .ok (x, rest)) (hmark : skipSpace rest = ',' :: rest') :
    scanMembers scan close (fuel + 1) cs = (do
      let (xs, rest) ← scanMembers scan close fuel (skipSpace rest')
      .ok (x :: xs, rest)) := by
  have hnext : nextMark rest = .ok (',', rest') := by rw [nextMark, hmark]
  simp only [scanMembers, hscan, bind, Except.bind, hnext, hcomma.symm, if_true, if_false]

/-- How the members come about. -/
theorem scanMembers_inv {fuel : Nat} {cs u : List Char} {xs : List α}
    (h : scanMembers scan close (fuel + 1) cs = .ok (xs, u)) :
    ∃ x rest, scan cs = .ok (x, rest) ∧ ((skipSpace rest = close :: u ∧ xs = [x]) ∨
      ∃ rest' ys, skipSpace rest = ',' :: rest' ∧
        scanMembers scan close fuel (skipSpace rest') = .ok (ys, u) ∧ xs = x :: ys) := by
  rw [scanMembers] at h
  obtain ⟨⟨x, rest⟩, hscan, h⟩ := bind_eq_ok h
  obtain ⟨⟨mark, rest'⟩, hmark, h⟩ := bind_eq_ok h
  have hskip : skipSpace rest = mark :: rest' := by
    unfold nextMark at hmark
    split at hmark
    next => cases hmark
    next heq => cases hmark; exact heq
  refine ⟨x, rest, hscan, ?_⟩
  dsimp only at h
  split at h
  next hclose =>
    cases h
    exact .inl ⟨by rw [hskip, hclose], rfl⟩
  next =>
    split at h
    next hcomma =>
      obtain ⟨⟨ys, v⟩, hmembers, h⟩ := bind_eq_ok h
      cases h
      exact .inr ⟨rest', ys, by rw [hskip, hcomma], hmembers, rfl⟩
    next => cases h

theorem scanMembers_restText (hclose : isAtomChar close = false) (hspace : isSpace close = false)
    (hcomma : close ≠ ',') {bound fuel : Nat} {x : α} {xs : List α}
    (hstarts : ∀ y ∈ x :: xs, Starts f close y) (hreads : ∀ y ∈ x :: xs, Reads scan f bound y)
    (hbound : ((f x).toList ++ restText f close u xs).length ≤ bound)
    (hfuel : ((f x).toList ++ restText f close u xs).length ≤ fuel) :
    scanMembers scan close fuel ((f x).toList ++ restText f close u xs) = .ok (x :: xs, u) := by
  have hread := hreads x List.mem_cons_self _ (stops_restText hclose xs) hbound
  have hpos := (hstarts x List.mem_cons_self).length_pos
  rw [List.length_append] at hbound hfuel
  induction xs generalizing x fuel with
  | nil =>
      cases fuel with
      | zero => omega
      | succ fuel => exact scanMembers_last hread (skipSpace_cons hspace u)
  | cons y ys ih =>
      have hstarts' := List.forall_mem_of_forall_mem_cons hstarts
      have hreads' := List.forall_mem_of_forall_mem_cons hreads
      have htail : (restText f close u (y :: ys)).length =
          (f y).toList.length + (restText f close u ys).length + 2 :=
        congrArg (· + 2) List.length_append
      have hskip : skipSpace (' ' :: ((f y).toList ++ restText f close u ys)) =
          (f y).toList ++ restText f close u ys :=
        (hstarts' y List.mem_cons_self).skipSpace _
      cases fuel with
      | zero => omega
      | succ fuel =>
          rw [scanMembers_more hcomma hread (skipSpace_cons rfl _), hskip,
            ih hstarts' hreads' (by omega) (by omega) (hreads' y List.mem_cons_self _
              (stops_restText hclose ys) (by rw [List.length_append]; omega))
              (hstarts' y List.mem_cons_self).length_pos]
          rfl

theorem scanBracket_join (hclose : isAtomChar close = false) (hspace : isSpace close = false)
    (hcomma : close ≠ ',') {fuel : Nat} {xs : List α} (hstarts : ∀ x ∈ xs, Starts f close x)
    (hreads : ∀ x ∈ xs, Reads scan f fuel x)
    (hfuel : ((PyStr.join ", " (xs.map f)).toList ++ close :: u).length ≤ fuel) :
    scanBracket scan close fuel ((PyStr.join ", " (xs.map f)).toList ++ close :: u) =
      .ok (xs, u) := by
  cases xs with
  | nil =>
      change scanBracket scan close fuel (close :: u) = _
      rw [scanBracket, skipSpace_cons hspace]
      exact if_pos rfl
  | cons x xs =>
      rw [toList_join] at hfuel ⊢
      obtain ⟨c, w, htext, hlead, hne⟩ := hstarts x List.mem_cons_self
      rw [scanBracket, (hstarts x List.mem_cons_self).skipSpace]
      have hmembers := scanMembers_restText hclose hspace hcomma hstarts hreads hfuel hfuel
      rw [htext, List.cons_append] at hmembers ⊢
      exact (if_neg hne).trans hmembers

end Members

/-! ## Names and numbers -/

theorem ne_of_isAtomChar {c d : Char} (hc : isAtomChar c = true) (hd : isAtomChar d = false) :
    c ≠ d := by
  rintro rfl
  rw [hc] at hd
  cases hd

theorem isSpace_of_isAtomChar {c : Char} (hc : isAtomChar c = true) : isSpace c = false := by
  have hall : " \t\n\r".toList.all (fun d => !isAtomChar d) = true := rfl
  cases hspace : isSpace c with
  | false => rfl
  | true =>
      have hother := List.all_eq_true.1 hall c (List.contains_iff_mem.1 hspace)
      rw [hc] at hother
      cases hother

theorem scanAtom_name {name : String} {value : Json} (h : (name, value) ∈ names) (u : List Char) :
    scanAtom floats (name.toList ++ u) = .ok (value, u) := by
  simp only [names, List.mem_cons, Prod.mk.injEq, List.not_mem_nil, or_false] at h
  rcases h with ⟨rfl, rfl⟩ | ⟨rfl, rfl⟩ | ⟨rfl, rfl⟩ | ⟨rfl, rfl⟩ | ⟨rfl, rfl⟩ | ⟨rfl, rfl⟩ <;> rfl

theorem scanAtom_literal {cs u : List Char} {literal : Literal} {value : Json} (hu : Stops u)
    (hscan : scanLiteral cs = .ok (literal, [])) (hvalue : literal.value floats = .ok value) :
    scanAtom floats (cs ++ u) = .ok (value, u) := by
  have happend := scanLiteral_append hu hscan
  unfold scanAtom
  rw [find_names_eq_none happend]
  change scanNumber floats (cs ++ u) = _
  unfold scanNumber
  rw [happend]
  change (do
    let value ← literal.value floats
    _) = _
  rw [hvalue]
  rfl

/-- The literal behind the `repr` of a finite float. -/
theorem exists_literal {digits : String} (h : isFloatLiteral digits.toList = true) :
    ∃ literal, scanLiteral digits.toList = .ok (literal, []) ∧ literal.isFloat = true ∧
      literal.text = digits := by
  unfold isFloatLiteral at h
  split at h
  next literal rest hscan =>
    rw [Bool.and_eq_true, List.isEmpty_iff] at h
    obtain ⟨hfloat, rfl⟩ := h
    have htext := text_append hscan
    rw [List.append_nil] at htext
    exact ⟨literal, hscan, hfloat, String.toList_inj.1 htext⟩
  next => cases h

theorem floatText_of_literal {digits : String} (h : isFloatLiteral digits.toList = true) :
    floatText digits = digits := by
  have hne : ∀ name : String, isFloatLiteral name.toList = false → digits ≠ name := by
    rintro name hname rfl
    rw [h] at hname
    cases hname
  unfold floatText
  rw [if_neg (hne "nan" (by decide)), if_neg (hne "inf" (by decide)),
    if_neg (hne "-inf" (by decide))]

theorem isAtomChar_of_head {c : Char} {w : List Char}
    (h : c.isDigit = true ∨ c = '-' ∧ ∃ d v, w = d :: v ∧ d.isDigit = true) :
    isAtomChar c = true := by
  rcases h with hdigit | ⟨rfl, -⟩
  · simp [isAtomChar, Char.isAlphanum, hdigit]
  · rfl

/-- A number or a name is read back, and starts like one. -/
theorem atom_textOf {value : Json} (hkind : PyText.kind value = 'a') (h : Loadable floats value) :
    (∃ c w, (textOf value).toList = c :: w ∧ isAtomChar c = true) ∧
      ∀ u, Stops u → scanAtom floats ((textOf value).toList ++ u) = .ok (value, u) := by
  have hname : ∀ {name : String} {value : Json}, (name, value) ∈ names →
      (∃ c w, name.toList = c :: w ∧ isAtomChar c = true) ∧
        ∀ u, Stops u → scanAtom floats (name.toList ++ u) = .ok (value, u) := by
    intro name value hmem
    refine ⟨?_, fun u _ => scanAtom_name hmem u⟩
    simp only [names, List.mem_cons, Prod.mk.injEq, List.not_mem_nil, or_false] at hmem
    rcases hmem with ⟨rfl, -⟩ | ⟨rfl, -⟩ | ⟨rfl, -⟩ | ⟨rfl, -⟩ | ⟨rfl, -⟩ | ⟨rfl, -⟩ <;>
      exact ⟨_, _, rfl, rfl⟩
  have hliteral : ∀ {text : String} {literal : Literal} {value : Json},
      scanLiteral text.toList = .ok (literal, []) → literal.value floats = .ok value →
      (∃ c w, text.toList = c :: w ∧ isAtomChar c = true) ∧
        ∀ u, Stops u → scanAtom floats (text.toList ++ u) = .ok (value, u) := by
    intro text literal value hscan hvalue
    obtain ⟨c, w, htext, hhead⟩ := head_scanLiteral hscan
    exact ⟨⟨c, w, htext, isAtomChar_of_head hhead⟩, fun u hu => scanAtom_literal hu hscan hvalue⟩
  cases value with
  | null => rw [textOf]; exact hname (by decide)
  | bool b => cases b <;> rw [textOf] <;> exact hname (by decide)
  | num n =>
      rw [textOf]
      exact hliteral (scanLiteral_toString n) (value_literalOf (h.ints [] n (.here _)))
  | real digits =>
      rw [textOf]
      rcases h.floats [] digits (.here _) with hspecial | ⟨hfloat, hrepr⟩
      · simp only [List.mem_cons, List.not_mem_nil, or_false] at hspecial
        rcases hspecial with rfl | rfl | rfl <;> exact hname (by decide)
      · obtain ⟨literal, hscan, hisFloat, htext⟩ := exists_literal hfloat
        rw [floatText_of_literal hfloat]
        apply hliteral hscan
        unfold Literal.value
        rw [if_pos hisFloat, htext, hrepr]
  | str s => cases hkind
  | arr items => cases hkind
  | obj entries => cases hkind

theorem scanValue_atom {c : Char} (hc : isAtomChar c = true) (fuel : Nat) (cs : List Char) :
    scanValue floats (fuel + 1) (c :: cs) = scanAtom floats (c :: cs) := by
  rw [scanValue, if_neg (ne_of_isAtomChar hc rfl), if_neg (ne_of_isAtomChar hc rfl),
    if_neg (ne_of_isAtomChar hc rfl)]

/-! ## Dicts -/

theorem foldl_setEntry {entries before : List (String × Json)}
    (h : ((before ++ entries).map Prod.fst).Nodup) :
    entries.foldl setEntry before = before ++ entries := by
  induction entries generalizing before with
  | nil => rw [List.foldl_nil, List.append_nil]
  | cons entry entries ih =>
      have hsplit : before ++ entry :: entries = (before ++ [entry]) ++ entries := by
        rw [List.append_assoc, List.singleton_append]
      have hnew : entry.1 ∉ before.map Prod.fst := by
        rw [List.map_append, List.nodup_append] at h
        intro hmem
        exact h.2.2 _ hmem _ (List.mem_map_of_mem List.mem_cons_self) rfl
      rw [List.foldl_cons, setEntry, if_neg hnew, ih (hsplit ▸ h), ← hsplit]

theorem toDict_of_nodup {entries : List (String × Json)} (h : (entries.map Prod.fst).Nodup) :
    toDict entries = entries := foldl_setEntry h

theorem keys_setEntry (entries : List (String × Json)) (entry : String × Json) :
    (setEntry entries entry).map Prod.fst = if entry.1 ∈ entries.map Prod.fst then
      entries.map Prod.fst else entries.map Prod.fst ++ [entry.1] := by
  unfold setEntry
  split
  · rw [List.map_map]
    apply List.map_congr_left
    intro old _
    rw [Function.comp_apply]
    split
    next heq => exact heq.symm
    next => rfl
  · rw [List.map_append, List.map_singleton]

theorem mem_setEntry {entries : List (String × Json)} {entry found : String × Json}
    (h : found ∈ setEntry entries entry) : found ∈ entries ∨ found = entry := by
  unfold setEntry at h
  split at h
  · obtain ⟨old, hold, rfl⟩ := List.mem_map.1 h
    split
    · exact .inr rfl
    · exact .inl hold
  · rcases List.mem_append.1 h with hmem | hmem
    · exact .inl hmem
    · exact .inr (List.mem_singleton.1 hmem)

/-- A dict has each key once, and no entries but those that are written. -/
theorem toDict_spec (entries : List (String × Json)) :
    ((toDict entries).map Prod.fst).Nodup ∧ ∀ entry ∈ toDict entries, entry ∈ entries := by
  have hfold : ∀ before : List (String × Json), (before.map Prod.fst).Nodup →
      ((entries.foldl setEntry before).map Prod.fst).Nodup ∧
        ∀ entry ∈ entries.foldl setEntry before, entry ∈ before ∨ entry ∈ entries := by
    induction entries with
    | nil => exact fun before h => ⟨h, fun entry hentry => .inl hentry⟩
    | cons head entries ih =>
        intro before h
        have hkeys : ((setEntry before head).map Prod.fst).Nodup := by
          rw [keys_setEntry]
          split
          · exact h
          next hnew =>
            exact List.nodup_append.2 ⟨h, List.nodup_singleton _, by
              rintro key hkey _ hmem rfl
              exact hnew (List.mem_singleton.1 hmem ▸ hkey)⟩
        obtain ⟨hnodup, hmem⟩ := ih (setEntry before head) hkeys
        refine ⟨hnodup, fun entry hentry => ?_⟩
        rcases hmem entry hentry with hbefore | htail
        · rcases mem_setEntry hbefore with hold | rfl
          · exact .inl hold
          · exact .inr List.mem_cons_self
        · exact .inr (List.mem_cons_of_mem _ htail)
  obtain ⟨hnodup, hmem⟩ := hfold [] List.nodup_nil
  exact ⟨hnodup, fun entry hentry => (hmem entry hentry).resolve_left List.not_mem_nil⟩

/-! ## The round trip -/

theorem starts_textOf {value : Json} (h : Loadable floats value) : Starts textOf ']' value := by
  by_cases hkind : PyText.kind value = 'a'
  · obtain ⟨⟨c, w, htext, hatom⟩, -⟩ := atom_textOf hkind h
    exact ⟨c, w, htext, isSpace_of_isAtomChar hatom, ne_of_isAtomChar hatom rfl⟩
  · cases value with
    | str s => exact ⟨_, _, by rw [textOf, ← List.append_nil (quoted s).toList, toList_quoted],
        rfl, by decide⟩
    | arr items =>
        exact ⟨_, _, by rw [← List.append_nil (textOf _).toList, toList_textOf_arr], rfl,
          by decide⟩
    | obj entries =>
        exact ⟨_, _, by rw [← List.append_nil (textOf _).toList, toList_textOf_obj], rfl,
          by decide⟩
    | _ => exact absurd rfl hkind

theorem starts_entryText (entry : String × Json) : Starts entryText '\x7d' entry :=
  ⟨_, _, by rw [← List.append_nil (entryText entry).toList, toList_entryText], rfl, by decide⟩

theorem reads_entryText {bound : Nat} {entry : String × Json} (h : Loadable floats entry.2)
    (hvalue : Reads (scanValue floats bound) textOf bound entry.2) :
    Reads (scanEntry (scanValue floats bound) bound) entryText bound entry := by
  intro u hu hbound
  rw [toList_entryText] at hbound ⊢
  rw [List.length_cons] at hbound
  have hlength : ((textOf entry.2).toList ++ u).length ≤ bound := by
    rw [List.length_append, List.length_cons, List.length_cons, List.length_cons] at hbound
    omega
  have hskip : skipSpace (' ' :: ((textOf entry.2).toList ++ u)) = (textOf entry.2).toList ++ u :=
    (starts_textOf h).skipSpace u
  have hmark : nextMark (':' :: ' ' :: ((textOf entry.2).toList ++ u)) =
      .ok (':', ' ' :: ((textOf entry.2).toList ++ u)) := rfl
  simp only [scanEntry, if_true, scanString_escaped (Nat.le_of_succ_le hbound), bind, Except.bind,
    hmark, hskip, hvalue u hu hlength, String.ofList_toList]

/-- The text of a value is read back, whatever follows it. -/
theorem reads_textOf (value : Json) (h : Loadable floats value) (bound : Nat) :
    Reads (scanValue floats bound) textOf bound value := by
  have hatom : ∀ value : Json, PyText.kind value = 'a' → Loadable floats value →
      ∀ bound, Reads (scanValue floats bound) textOf bound value := by
    intro value hkind h bound u hu hbound
    obtain ⟨⟨c, w, htext, hc⟩, hread⟩ := atom_textOf hkind h
    have hscan := hread u hu
    rw [htext, List.cons_append] at hbound hscan ⊢
    cases bound with
    | zero => cases hbound
    | succ bound => rw [scanValue_atom hc, hscan]
  induction value using Json.induction_members generalizing bound with
  | null => exact hatom _ rfl h bound
  | bool b => exact hatom _ rfl h bound
  | num n => exact hatom _ rfl h bound
  | real digits => exact hatom _ rfl h bound
  | str s =>
      intro u hu hbound
      rw [textOf, toList_quoted] at hbound ⊢
      cases bound with
      | zero => cases hbound
      | succ bound =>
          rw [scanValue, if_pos rfl, scanString_escaped (Nat.le_of_succ_le_succ hbound)]
          change Except.ok (Json.str (String.ofList s.toList), u) = _
          rw [String.ofList_toList]
  | arr items ih =>
      intro u hu hbound
      rw [toList_textOf_arr] at hbound ⊢
      cases bound with
      | zero => cases hbound
      | succ bound =>
          rw [scanValue, if_neg (by decide), if_pos rfl,
            scanBracket_join rfl rfl (by decide) (fun item hitem => starts_textOf (h.item hitem))
              (fun item hitem => ih item hitem (h.item hitem) bound)
              (Nat.le_of_succ_le_succ hbound)]
          rfl
  | obj entries ih =>
      intro u hu hbound
      rw [toList_textOf_obj] at hbound ⊢
      cases bound with
      | zero => cases hbound
      | succ bound =>
          rw [scanValue, if_neg (by decide), if_neg (by decide), if_pos rfl,
            scanBracket_join rfl rfl (by decide) (fun entry _ => starts_entryText entry)
              (fun entry hentry => reads_entryText (h.entry hentry)
                (ih entry hentry (h.entry hentry) bound))
              (Nat.le_of_succ_le_succ hbound)]
          change Except.ok (Json.obj (toDict entries), u) = _
          rw [toDict_of_nodup h.nodup]

theorem dumps_of_loadable {value : Json} (h : Loadable floats value) :
    dumps value = .ok (textOf value) := if_pos (fits_of_loadable value h)

/-- What is written is read back as it was. -/
theorem loads_textOf {value : Json} (h : Loadable floats value) :
    loads floats (textOf value) = .ok value := by
  have hskip := (starts_textOf h).skipSpace []
  have hread := reads_textOf value h ((textOf value).toList.length + 1) []
    (fun c hc => by cases hc) (by rw [List.append_nil]; exact Nat.le_succ _)
  rw [List.append_nil] at hskip hread
  unfold loads
  rw [hskip]
  dsimp only
  rw [hread]
  rfl

end JsonText

end Iara.Lib
