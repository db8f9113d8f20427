import Iara.Lib.JsonText

/-!
# Strings and numbers of JSON texts

A quoted text is read back character by character, and a number ends where it ends as soon
as what follows it is no character of a number.
-/

namespace Iara.Lib

namespace JsonText

open PyText (Stops isAtomChar)

/-! ## Strings -/

theorem readUnit_hexDigits {n : Nat} (hn : n < 16 ^ 4) (u : List Char) :
    readUnit (hexDigits 4 n ++ u) = .ok (n, u) := by
  obtain ⟨ds, hds, hvalue⟩ := Option.map_eq_some_iff.1 (mapM_hexDigits 4 n)
  have htake : (hexDigits 4 n ++ u).take 4 = hexDigits 4 n :=
    List.take_left' (length_hexDigits 4 n)
  have hdrop : (hexDigits 4 n ++ u).drop 4 = u := List.drop_left' (length_hexDigits 4 n)
  have hlength : 4 ≤ (hexDigits 4 n ++ u).length := by
    rw [List.length_append, length_hexDigits]
    omega
  unfold readUnit
  rw [if_pos hlength, htake, hdrop, hds]
  simp only [hvalue, Nat.mod_eq_of_lt hn]

theorem readLow_unicodeEscape {high low : Nat} (hlow : 0xdc00 ≤ low ∧ low ≤ 0xdfff)
    (u : List Char) : readLow high (unicodeEscape low ++ u) =
      .ok (Char.ofNat (0x10000 + (high - 0xd800) * 0x400 + (low - 0xdc00)), u) := by
  have hread := readUnit_hexDigits (n := low) (by omega) u
  simp only [unicodeEscape, List.cons_append, readLow, hread]
  exact if_pos hlow

/-- A character of the basic plane is no surrogate. -/
theorem not_surrogate (c : Char) : ¬(0xd800 ≤ c.toNat ∧ c.toNat ≤ 0xdfff) := by
  rcases c.valid with h | ⟨h, -⟩
  · have hlt : c.toNat < 0xd800 := h
    omega
  · have hlt : 0xdfff < c.toNat := h
    omega

theorem readUnicode_basic {c : Char} (hc : c.toNat ≤ 0xffff) (u : List Char) :
    readUnicode (hexDigits 4 c.toNat ++ u) = .ok (c, u) := by
  have hread := readUnit_hexDigits (n := c.toNat) (by omega) u
  have hplain := not_surrogate c
  unfold readUnicode
  rw [hread]
  change (if _ then _ else if _ then _ else _) = _
  rw [if_neg (by omega), if_neg (by omega), Char.ofNat_toNat]

theorem toNat_le (c : Char) : c.toNat ≤ 0x10ffff := by
  rcases c.valid with h | ⟨-, h⟩
  · have hlt : c.toNat < 0xd800 := h
    omega
  · have hlt : c.toNat < 0x110000 := h
    omega

theorem readUnicode_surrogates {high low : Nat} (hhigh : 0xd800 ≤ high ∧ high ≤ 0xdbff)
    (hlow : 0xdc00 ≤ low ∧ low ≤ 0xdfff) (u : List Char) :
    readUnicode (hexDigits 4 high ++ (unicodeEscape low ++ u)) =
      .ok (Char.ofNat (0x10000 + (high - 0xd800) * 0x400 + (low - 0xdc00)), u) := by
  unfold readUnicode
  rw [readUnit_hexDigits (by omega)]
  change (if _ then _ else _) = _
  rw [if_pos hhigh, readLow_unicodeEscape hlow]

theorem surrogates_eq {n : Nat} (hlow : 0xffff < n) (hhigh : n ≤ 0x10ffff) :
    (0xd800 ≤ highSurrogate n ∧ highSurrogate n ≤ 0xdbff) ∧
      (0xdc00 ≤ lowSurrogate n ∧ lowSurrogate n ≤ 0xdfff) ∧
      0x10000 + (highSurrogate n - 0xd800) * 0x400 + (lowSurrogate n - 0xdc00) = n := by
  unfold highSurrogate lowSurrogate
  omega

theorem readUnicode_pair {c : Char} (hc : 0xffff < c.toNat) (u : List Char) :
    readUnicode (hexDigits 4 (highSurrogate c.toNat) ++
      (unicodeEscape (lowSurrogate c.toNat) ++ u)) = .ok (c, u) := by
  obtain ⟨hhigh, hlow, hvalue⟩ := surrogates_eq hc (toNat_le c)
  rw [readUnicode_surrogates hhigh hlow, hvalue, Char.ofNat_toNat]

/-- Reading a character that is written, and then the rest. -/
theorem scanString_escapeChar (fuel : Nat) (c : Char) (u : List Char) :
    scanString (fuel + 1) (escapeChar c ++ u) = (do
      let (ds, rest) ← scanString fuel u
      .ok (c :: ds, rest)) := by
  have hescape : ∀ mark cs rest, readEscape (mark :: cs) = .ok (c, rest) →
      scanString (fuel + 1) ('\x5c' :: mark :: cs) = (do
        let (ds, rest) ← scanString fuel rest
        .ok (c :: ds, rest)) := by
    intro mark cs rest hread
    rw [scanString, if_neg (by decide), if_pos rfl, hread]
    rfl
  unfold escapeChar
  split
  next h => rcases h with rfl | rfl <;> exact hescape _ u u rfl
  next h =>
    have hquote : c ≠ '\x22' := fun heq => h (.inl heq)
    have hplain : c ≠ '\x5c' := fun heq => h (.inr heq)
    split
    next hnewline => rw [hnewline] at hescape ⊢; exact hescape 'n' u u rfl
    next =>
      split
      next hreturn => rw [hreturn] at hescape ⊢; exact hescape 'r' u u rfl
      next =>
        split
        next htab => rw [htab] at hescape ⊢; exact hescape 't' u u rfl
        next =>
          split
          next hfeed => rw [hfeed] at hescape ⊢; exact hescape 'f' u u rfl
          next =>
            split
            next hback => rw [hback] at hescape ⊢; exact hescape 'b' u u rfl
            next =>
              split
              next hascii =>
                rw [List.singleton_append, scanString, if_neg hquote, if_neg hplain,
                  if_neg (by omega)]
              next =>
                split
                next hbasic =>
                  exact hescape 'u' (hexDigits 4 c.toNat ++ u) u (readUnicode_basic hbasic u)
                next hastral =>
                  rw [List.append_assoc]
                  exact hescape 'u' _ u (readUnicode_pair (by omega) u)

theorem length_escapeChar_pos (c : Char) : 0 < (escapeChar c).length := by
  unfold escapeChar
  repeat' split
  all_goals simp [unicodeEscape]

/-- A quoted text is read back, whatever follows it. -/
theorem scanString_escaped {fuel : Nat} {cs u : List Char}
    (hfuel : (cs.flatMap escapeChar ++ '\x22' :: u).length ≤ fuel) :
    scanString fuel (cs.flatMap escapeChar ++ '\x22' :: u) = .ok (cs, u) := by
  induction cs generalizing fuel with
  | nil =>
      cases fuel with
      | zero => simp at hfuel
      | succ fuel => rw [List.flatMap_nil, List.nil_append, scanString, if_pos rfl]
  | cons c cs ih =>
      rw [List.flatMap_cons, List.append_assoc] at hfuel ⊢
      rw [List.length_append] at hfuel
      have hpos := length_escapeChar_pos c
      cases fuel with
      | zero => omega
      | succ fuel =>
          rw [scanString_escapeChar, ih (by omega)]
          rfl

theorem toList_quoted (s : String) (u : List Char) :
    (quoted s).toList ++ u = '\x22' :: (s.toList.flatMap escapeChar ++ '\x22' :: u) := by
  rw [quoted, String.toList_ofList, List.cons_append, List.append_assoc, List.singleton_append]

/-! ## Numbers -/

theorem takeWhile_append_stops {u : List Char} (hu : Stops u) (cs : List Char) :
    (cs ++ u).takeWhile Char.isDigit = cs.takeWhile Char.isDigit ∧
      (cs ++ u).dropWhile Char.isDigit = cs.dropWhile Char.isDigit ++ u := by
  induction cs with
  | nil =>
      cases u with
      | nil => exact ⟨rfl, rfl⟩
      | cons c u =>
          have hdigit : c.isDigit = false := by
            have hstop := hu c rfl
            unfold isAtomChar Char.isAlphanum at hstop
            simp only [Bool.or_eq_false_iff] at hstop
            exact hstop.1.2
          simp [hdigit]
  | cons c cs ih =>
      cases hdigit : c.isDigit with
      | false => simp [hdigit]
      | true => simp [hdigit, ih.1, ih.2]

variable {cs u : List Char}

theorem scanDigits_append (hu : Stops u) (cs : List Char) :
    scanDigits (cs ++ u) = ((scanDigits cs).1, (scanDigits cs).2 ++ u) := by
  unfold scanDigits
  rw [(takeWhile_append_stops hu cs).1, (takeWhile_append_stops hu cs).2]

theorem ne_of_stops {c d : Char} (h : Stops (c :: u)) (hd : isAtomChar d = true) : c ≠ d := by
  rintro rfl
  rw [h c rfl] at hd
  cases hd

theorem scanFraction_append (hu : Stops u) (cs : List Char) :
    scanFraction (cs ++ u) = ((scanFraction cs).1, (scanFraction cs).2 ++ u) := by
  have hother : ∀ c cs, c ≠ '.' → scanFraction (c :: cs) = ([], c :: cs) := by
    intro c cs hc
    unfold scanFraction
    split
    next heq => exact absurd (List.cons.inj heq).1 hc
    next => rfl
  cases cs with
  | nil =>
      cases u with
      | nil => rfl
      | cons c u => exact hother c u (ne_of_stops hu rfl)
  | cons c cs =>
      by_cases hc : c = '.'
      · subst hc
        rw [List.cons_append, scanFraction, scanFraction, scanDigits_append hu]
        dsimp only
        split <;> rfl
      · rw [List.cons_append, hother c _ hc, hother c _ hc, List.cons_append]

theorem scanPower_append (hu : Stops u) (cs : List Char) :
    scanPower (cs ++ u) = ((scanPower cs).1, (scanPower cs).2 ++ u) := by
  cases cs with
  | nil =>
      cases u with
      | nil => rfl
      | cons c u =>
          have hsign : ¬(c = '+' ∨ c = '-') := by
            rintro (h | h)
            · exact ne_of_stops hu rfl h
            · exact ne_of_stops hu rfl h
          have hscan : scanPower (c :: u) = scanDigits (c :: u) := if_neg hsign
          rw [List.nil_append, hscan]
          exact scanDigits_append hu []
  | cons c cs =>
      rw [List.cons_append, scanPower, scanPower]
      split
      · rw [scanDigits_append hu]
        dsimp only
        split <;> rfl
      · exact scanDigits_append hu (c :: cs)

theorem scanExponent_append (hu : Stops u) (cs : List Char) :
    scanExponent (cs ++ u) = ((scanExponent cs).1, (scanExponent cs).2 ++ u) := by
  cases cs with
  | nil =>
      cases u with
      | nil => rfl
      | cons c u =>
          have hletter : ¬(c = 'e' ∨ c = 'E') := by
            rintro (h | h)
            · exact ne_of_stops hu rfl h
            · exact ne_of_stops hu rfl h
          exact if_neg hletter
  | cons c cs =>
      rw [List.cons_append, scanExponent, scanExponent]
      split
      · rw [scanPower_append hu]
        dsimp only
        split <;> rfl
      · rfl

theorem scanSign_cons_append (c : Char) (cs u : List Char) :
    scanSign (c :: cs ++ u) = ((scanSign (c :: cs)).1, (scanSign (c :: cs)).2 ++ u) := by
  by_cases hc : c = '-'
  · subst hc
    rfl
  · have hother : ∀ cs, scanSign (c :: cs) = (false, c :: cs) := by
      intro cs
      unfold scanSign
      split
      next heq => exact absurd (List.cons.inj heq).1 hc
      next => rfl
    rw [List.cons_append, hother, hother, List.cons_append]

theorem scanWhole_append {whole rest : List Char} (hu : Stops u)
    (h : scanWhole cs = .ok (whole, rest)) : scanWhole (cs ++ u) = .ok (whole, rest ++ u) := by
  cases cs with
  | nil => cases h
  | cons c cs =>
      rw [scanWhole] at h
      rw [List.cons_append, scanWhole]
      split at h
      next hzero =>
        cases h
        rw [if_pos hzero]
      next hzero =>
        rw [if_neg hzero]
        split at h
        next hdigit =>
          have hscan := scanDigits_append hu (c :: cs)
          rw [Except.ok.inj h, List.cons_append] at hscan
          rw [if_pos hdigit, hscan]
        next => cases h

/-- How a literal comes about. -/
theorem scanLiteral_inv {literal : Literal} {rest : List Char}
    (h : scanLiteral cs = .ok (literal, rest)) :
    ∃ afterWhole, scanWhole (scanSign cs).2 = .ok (literal.whole, afterWhole) ∧
      literal =
        ⟨(scanSign cs).1, literal.whole, (scanFraction afterWhole).1,
          (scanExponent (scanFraction afterWhole).2).1⟩ ∧
      rest = (scanExponent (scanFraction afterWhole).2).2 := by
  unfold scanLiteral at h
  obtain ⟨⟨whole, afterWhole⟩, hwhole, h⟩ := bind_eq_ok h
  cases h
  exact ⟨afterWhole, hwhole, rfl, rfl⟩

/-- A number ends where it ends, whatever follows it. -/
theorem scanLiteral_append {literal : Literal} {rest : List Char} (hu : Stops u)
    (h : scanLiteral cs = .ok (literal, rest)) :
    scanLiteral (cs ++ u) = .ok (literal, rest ++ u) := by
  cases cs with
  | nil => cases h
  | cons c cs =>
      obtain ⟨afterWhole, hwhole, hliteral, hrest⟩ := scanLiteral_inv h
      unfold scanLiteral
      rw [scanSign_cons_append]
      dsimp only
      rw [scanWhole_append hu hwhole]
      change Except.ok _ = _
      rw [scanFraction_append hu]
      dsimp only
      rw [scanExponent_append hu, hrest, ← hliteral]

theorem append_scanDigits (cs : List Char) : (scanDigits cs).1 ++ (scanDigits cs).2 = cs :=
  List.takeWhile_append_dropWhile

theorem append_scanFraction (cs : List Char) :
    (scanFraction cs).1 ++ (scanFraction cs).2 = cs := by
  unfold scanFraction
  split
  next cs =>
    dsimp only
    split
    · rfl
    · rw [List.cons_append, append_scanDigits]
  next => rfl

theorem append_scanPower (cs : List Char) : (scanPower cs).1 ++ (scanPower cs).2 = cs := by
  cases cs with
  | nil => rfl
  | cons c cs =>
      rw [scanPower]
      split
      · dsimp only
        split
        · rfl
        · rw [List.cons_append, append_scanDigits]
      · exact append_scanDigits (c :: cs)

theorem append_scanExponent (cs : List Char) :
    (scanExponent cs).1 ++ (scanExponent cs).2 = cs := by
  cases cs with
  | nil => rfl
  | cons c cs =>
      rw [scanExponent]
      split
      · dsimp only
        split
        · rfl
        · rw [List.cons_append, append_scanPower]
      · rfl

theorem append_scanWhole {whole rest : List Char} (h : scanWhole cs = .ok (whole, rest)) :
    whole ++ rest = cs := by
  cases cs with
  | nil => cases h
  | cons c cs =>
      rw [scanWhole] at h
      split at h
      next hzero =>
        cases h
        rw [hzero]
        rfl
      next =>
        split at h
        next =>
          have happend := append_scanDigits (c :: cs)
          rw [Except.ok.inj h] at happend
          exact happend
        next => cases h

theorem append_scanSign (cs : List Char) :
    (if (scanSign cs).1 then ['-'] else []) ++ (scanSign cs).2 = cs := by
  unfold scanSign
  split <;> rfl

/-- The text of a literal is what was scanned. -/
theorem text_append {literal : Literal} {rest : List Char}
    (h : scanLiteral cs = .ok (literal, rest)) : literal.text.toList ++ rest = cs := by
  obtain ⟨afterWhole, hwhole, hliteral, rfl⟩ := scanLiteral_inv h
  have hfraction := append_scanFraction afterWhole
  have hexponent := append_scanExponent (scanFraction afterWhole).2
  have hsign := append_scanSign cs
  rw [← append_scanWhole hwhole] at hsign
  rw [Literal.text, String.toList_ofList, hliteral]
  simp only [List.append_assoc]
  rw [hexponent, hfraction, hsign]

/-! ## Integers -/

theorem digitChar_isDigit {n : Nat} (h : n < 10) : n.digitChar.isDigit = true := by
  have hall : ∀ n < 10, n.digitChar.isDigit = true := by decide
  exact hall n h

/-- Of a positive number no digit is a leading zero. -/
theorem toDigits_head (n : Nat) :
    ∃ c cs, Nat.toDigits 10 n = c :: cs ∧ c.isDigit = true ∧ (c = '0' → n = 0) := by
  induction n using Nat.strong_induction_on with
  | _ n ih =>
      by_cases hlt : n < 10
      · have hzero : ∀ n < 10, n.digitChar = '0' → n = 0 := by decide
        exact ⟨n.digitChar, [], Nat.toDigits_of_lt_base hlt, digitChar_isDigit hlt, hzero n hlt⟩
      · obtain ⟨c, cs, hdigits, hdigit, hzero⟩ := ih (n / 10) (by omega)
        refine ⟨c, cs ++ [(n % 10).digitChar], ?_, hdigit, fun hc => ?_⟩
        · rw [Nat.toDigits_of_base_le (by decide) (by omega), hdigits]
          rfl
        · have hdiv := hzero hc
          omega

theorem isDigit_of_mem_toDigits {n : Nat} {c : Char} (h : c ∈ Nat.toDigits 10 n) :
    c.isDigit = true := Nat.isDigit_of_mem_toDigits (by decide) (by decide) h

theorem scanWhole_toDigits (n : Nat) :
    scanWhole (Nat.toDigits 10 n) = .ok (Nat.toDigits 10 n, []) := by
  obtain ⟨c, cs, hdigits, hdigit, hzero⟩ := toDigits_head n
  have hall : ∀ d ∈ c :: cs, d.isDigit = true := by
    intro d hd
    exact isDigit_of_mem_toDigits (hdigits ▸ hd)
  have hscan : scanDigits (c :: cs) = (c :: cs, []) := by
    unfold scanDigits
    rw [List.takeWhile_eq_self_iff.2 hall, List.dropWhile_eq_nil_iff.2 hall]
  by_cases hc : c = '0'
  · obtain rfl := hzero hc
    rfl
  · rw [hdigits, scanWhole, if_neg hc, if_pos hdigit, hscan]

/-- The literal that an integer is written as. -/
def literalOf (n : Int) : Literal where
  negative := decide (n < 0)
  whole := Nat.toDigits 10 n.natAbs
  fraction := []
  exponent := []

theorem scanLiteral_of_digits {cs : List Char} {negative : Bool} {n : Nat}
    (hsign : scanSign cs = (negative, Nat.toDigits 10 n)) :
    scanLiteral cs = .ok (⟨negative, Nat.toDigits 10 n, [], []⟩, []) := by
  unfold scanLiteral
  rw [hsign]
  dsimp only
  rw [scanWhole_toDigits]
  rfl

theorem scanSign_of_ne {c : Char} (hc : c ≠ '-') (cs : List Char) :
    scanSign (c :: cs) = (false, c :: cs) := by
  unfold scanSign
  split
  next heq => exact absurd (List.cons.inj heq).1 hc
  next => rfl

theorem ne_minus_of_isDigit {c : Char} (h : c.isDigit = true) : c ≠ '-' := by
  rintro rfl
  cases h

theorem scanLiteral_toString (n : Int) :
    scanLiteral (toString n).toList = .ok (literalOf n, []) := by
  unfold literalOf
  cases n with
  | ofNat n =>
      obtain ⟨c, cs, hdigits, hdigit, -⟩ := toDigits_head n
      have htext : (toString (Int.ofNat n)).toList = Nat.toDigits 10 n := Nat.toList_repr
      have hpos : decide (Int.ofNat n < 0) = false := decide_eq_false (by simp)
      have hnat : (Int.ofNat n).natAbs = n := rfl
      rw [htext, hpos, hnat]
      apply scanLiteral_of_digits
      rw [hdigits]
      exact scanSign_of_ne (ne_minus_of_isDigit hdigit) cs
  | negSucc n =>
      have htext : (toString (Int.negSucc n)).toList = '-' :: Nat.toDigits 10 (n + 1) := by
        rw [show toString (Int.negSucc n) = "-" ++ (n + 1).repr from rfl, String.toList_append,
          Nat.toList_repr]
        rfl
      have hneg : decide (Int.negSucc n < 0) = true := decide_eq_true (Int.negSucc_lt_zero n)
      rw [htext, hneg]
      exact scanLiteral_of_digits rfl

theorem value_literalOf {floats : PyFloat} {n : Int} (h : n.natAbs.repr.length ≤ maxStrDigits) :
    (literalOf n).value floats = .ok (.num n) := by
  have hlength : (literalOf n).whole.length ≤ maxStrDigits := by
    rw [← String.length_toList, Nat.toList_repr] at h
    exact h
  unfold Literal.value
  rw [if_neg (show ¬(literalOf n).isFloat = true from Bool.false_ne_true), if_pos hlength]
  unfold literalOf
  dsimp only
  rw [Nat.ofDigitChars_ten_toDigits]
  congr 2
  split
  next hneg =>
    have hlt := of_decide_eq_true hneg
    omega
  next hneg =>
    have hlt : ¬n < 0 := fun h => hneg (decide_eq_true h)
    omega

/-- What a number starts with. -/
theorem head_scanLiteral {cs rest : List Char} {literal : Literal}
    (h : scanLiteral cs = .ok (literal, rest)) :
    ∃ c w, cs = c :: w ∧ (c.isDigit = true ∨ c = '-' ∧ ∃ d v, w = d :: v ∧ d.isDigit = true) := by
  have hwhole : ∀ cs r, scanWhole cs = .ok r → ∃ c w, cs = c :: w ∧ c.isDigit = true := by
    intro cs r hscan
    cases cs with
    | nil => cases hscan
    | cons c cs =>
        rw [scanWhole] at hscan
        split at hscan
        next hzero => exact ⟨c, cs, rfl, by rw [hzero]; rfl⟩
        next =>
          split at hscan
          next hdigit => exact ⟨c, cs, rfl, hdigit⟩
          next => cases hscan
  obtain ⟨afterWhole, hscan, -⟩ := scanLiteral_inv h
  obtain ⟨d, v, hrest, hdigit⟩ := hwhole _ _ hscan
  cases cs with
  | nil => cases hrest
  | cons c cs =>
      by_cases hc : c = '-'
      · subst hc
        exact ⟨'-', cs, rfl, .inr ⟨rfl, d, v, hrest, hdigit⟩⟩
      · rw [scanSign_of_ne hc] at hrest
        obtain ⟨rfl, rfl⟩ := List.cons.inj hrest
        exact ⟨c, cs, rfl, .inl hdigit⟩

/-- No number starts like a name. -/
theorem find_names_eq_none {cs rest : List Char} {literal : Literal}
    (h : scanLiteral cs = .ok (literal, rest)) :
    names.find? (fun name => name.1.toList.isPrefixOf cs) = none := by
  obtain ⟨c, w, rfl, hdigit | ⟨rfl, d, v, rfl, hdigit⟩⟩ := head_scanLiteral h
  · have hne : ∀ d, d.isDigit = false → (d == c) = false := by
      intro d hd
      apply beq_false_of_ne
      rintro rfl
      rw [hdigit] at hd
      cases hd
    simp [names, List.find?, List.isPrefixOf, hne]
  · have hne : ('I' == d) = false := by
      apply beq_false_of_ne
      rintro rfl
      cases hdigit
    simp [names, List.find?, List.isPrefixOf, hne]

end JsonText

end Iara.Lib
