import Iara.Lib.PyUuid

/-!
# The `repr` of a string

`repr(s)` as CPython writes it, over the table of printable characters.  What is written
can be read back character by character, so a `repr` ends where it ends: no `repr` of
another string agrees with it and goes on.
-/

namespace Iara.Lib

namespace PyStr

/-- Double quotes are used for a text with single quotes and no double ones. -/
def quoteOf (s : String) : Char :=
  if s.toList.contains '\x27' && !s.toList.contains '\x22' then '\x22' else '\x27'

def escapeChar (isPrintable : Char → Bool) (quote c : Char) : List Char :=
  if c = quote ∨ c = '\x5c' then ['\x5c', c]
  else if c = '\t' then ['\x5c', 't']
  else if c = '\n' then ['\x5c', 'n']
  else if c = '\r' then ['\x5c', 'r']
  else if c.toNat < 0x20 ∨ c.toNat = 0x7f then '\x5c' :: 'x' :: hexDigits 2 c.toNat
  else if c.toNat < 0x7f ∨ isPrintable c = true then [c]
  else if c.toNat ≤ 0xff then '\x5c' :: 'x' :: hexDigits 2 c.toNat
  else if c.toNat ≤ 0xffff then '\x5c' :: 'u' :: hexDigits 4 c.toNat
  else '\x5c' :: 'U' :: hexDigits 8 c.toNat

/-- `repr(s)` -/
def reprStr (isPrintable : Char → Bool) (s : String) : String :=
  String.ofList (quoteOf s ::
    (s.toList.flatMap (escapeChar isPrintable (quoteOf s)) ++ [quoteOf s]))

/-! ## Reading it back -/

def readHex (k : Nat) (cs : List Char) : Option (Char × List Char) :=
  ((cs.take k).mapM hexDigit).map fun ds =>
    (Char.ofNat (ds.foldl (fun n d => 16 * n + d) 0), cs.drop k)

/-- The character after a backslash, and what follows it. -/
def readMark : List Char → Option (Char × List Char)
  | [] => none
  | mark :: cs =>
      if mark = 't' then some ('\t', cs)
      else if mark = 'n' then some ('\n', cs)
      else if mark = 'r' then some ('\r', cs)
      else if mark = 'x' then readHex 2 cs
      else if mark = 'u' then readHex 4 cs
      else if mark = 'U' then readHex 8 cs
      else some (mark, cs)

/-- The character that is written at the start of a text, and what follows it. -/
def readChar : List Char → Option (Char × List Char)
  | [] => none
  | c :: cs => if c = '\x5c' then readMark cs else some (c, cs)

variable {isPrintable : Char → Bool} {quote c d : Char} {u v : List Char}

theorem readHex_hexDigits {k : Nat} (hc : c.toNat < 16 ^ k) (u : List Char) :
    readHex k (hexDigits k c.toNat ++ u) = some (c, u) := by
  obtain ⟨ds, hds, hvalue⟩ := Option.map_eq_some_iff.1 (mapM_hexDigits k c.toNat)
  have htake : (hexDigits k c.toNat ++ u).take k = hexDigits k c.toNat :=
    List.take_left' (length_hexDigits k c.toNat)
  have hdrop : (hexDigits k c.toNat ++ u).drop k = u :=
    List.drop_left' (length_hexDigits k c.toNat)
  unfold readHex
  rw [htake, hdrop, hds, Option.map_some, hvalue, Nat.mod_eq_of_lt hc, Char.ofNat_toNat]

theorem toNat_lt (c : Char) : c.toNat < 16 ^ 8 := by
  rcases c.valid with h | ⟨-, h⟩
  · exact Nat.lt_of_lt_of_le h (by decide)
  · exact Nat.lt_of_lt_of_le h (by decide)

theorem readChar_escapeChar (hquote : quote = '\x27' ∨ quote = '\x22') (c : Char) (u : List Char) :
    readChar (escapeChar isPrintable quote c ++ u) = some (c, u) := by
  have hmark : ∀ c, c = quote ∨ c = '\x5c' → readMark (c :: u) = some (c, u) := by
    rintro c (rfl | rfl)
    · rcases hquote with rfl | rfl <;> rfl
    · rfl
  unfold escapeChar
  split
  next h => exact hmark c h
  next h =>
    have hplain : c ≠ '\x5c' := fun heq => h (.inr heq)
    split
    next htab => rw [htab]; rfl
    next =>
      split
      next hnewline => rw [hnewline]; rfl
      next =>
        split
        next hreturn => rw [hreturn]; rfl
        next =>
          split
          next hcontrol => exact readHex_hexDigits (by omega) u
          next =>
            split
            next => exact if_neg hplain
            next =>
              split
              next hlatin => exact readHex_hexDigits (by omega) u
              next =>
                split
                next hbasic => exact readHex_hexDigits (by omega) u
                next => exact readHex_hexDigits (toNat_lt c) u

theorem escapeChar_delimits (hquote : quote = '\x27' ∨ quote = '\x22')
    (h : escapeChar isPrintable quote c ++ u = escapeChar isPrintable quote d ++ v) :
    c = d ∧ u = v := by
  have hread := @readChar_escapeChar isPrintable quote hquote c u
  rw [h, readChar_escapeChar hquote] at hread
  obtain ⟨rfl, rfl⟩ := Prod.mk.inj (Option.some.inj hread)
  exact ⟨rfl, rfl⟩

/-- An escaped character does not start with the quote. -/
theorem escapeChar_ne_quote (hquote : quote = '\x27' ∨ quote = '\x22') :
    escapeChar isPrintable quote c ++ u ≠ quote :: v := by
  have hbackslash : '\x5c' ≠ quote := by rcases hquote with rfl | rfl <;> decide
  intro h
  unfold escapeChar at h
  split at h
  next => exact hbackslash (List.cons.inj h).1
  next hplain =>
    have hc : c ≠ quote := fun heq => hplain (.inl heq)
    repeat' split at h
    all_goals first
      | exact hbackslash (List.cons.inj h).1
      | exact hc (List.cons.inj h).1

theorem escaped_delimits (hquote : quote = '\x27' ∨ quote = '\x22') {cs ds : List Char}
    (h : cs.flatMap (escapeChar isPrintable quote) ++ quote :: u =
      ds.flatMap (escapeChar isPrintable quote) ++ quote :: v) : cs = ds ∧ u = v := by
  induction cs generalizing ds with
  | nil =>
      cases ds with
      | nil => exact ⟨rfl, (List.cons.inj h).2⟩
      | cons d ds =>
          rw [List.flatMap_nil, List.nil_append, List.flatMap_cons, List.append_assoc] at h
          exact absurd h.symm (escapeChar_ne_quote hquote)
  | cons c cs ih =>
      cases ds with
      | nil =>
          rw [List.flatMap_nil, List.nil_append, List.flatMap_cons, List.append_assoc] at h
          exact absurd h (escapeChar_ne_quote hquote)
      | cons d ds =>
          rw [List.flatMap_cons, List.flatMap_cons, List.append_assoc, List.append_assoc] at h
          obtain ⟨rfl, hrest⟩ := escapeChar_delimits hquote h
          obtain ⟨rfl, rfl⟩ := ih hrest
          exact ⟨rfl, rfl⟩

theorem quoteOf_cases (s : String) : quoteOf s = '\x27' ∨ quoteOf s = '\x22' := by
  unfold quoteOf
  split
  · exact .inr rfl
  · exact .inl rfl

theorem toList_reprStr (isPrintable : Char → Bool) (s : String) (u : List Char) :
    (reprStr isPrintable s).toList ++ u = quoteOf s ::
      (s.toList.flatMap (escapeChar isPrintable (quoteOf s)) ++ quoteOf s :: u) := by
  rw [reprStr, String.toList_ofList, List.cons_append, List.append_assoc, List.singleton_append]

/-- A `repr` ends where it ends. -/
theorem reprStr_delimits {s t : String}
    (h : (reprStr isPrintable s).toList ++ u = (reprStr isPrintable t).toList ++ v) :
    s = t ∧ u = v := by
  rw [toList_reprStr, toList_reprStr] at h
  obtain ⟨hquote, hrest⟩ := List.cons.inj h
  rw [← hquote] at hrest
  obtain ⟨hlist, rfl⟩ := escaped_delimits (quoteOf_cases s) hrest
  exact ⟨String.toList_inj.1 hlist, rfl⟩

example : reprStr (fun _ => false) "it's\ta \"é\"" = "'it\\'s\\ta \"\\xe9\"'" := by
  decide +kernel

end PyStr

end Iara.Lib
