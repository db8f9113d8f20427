import Mathlib.Data.Nat.Basic

/-!
# Bytes

The codecs that Python programs apply to bytes: `base64.b64encode` and
`bytes.decode("utf-8", errors="replace")`.

`length_base64` bounds what an encoded text adds, and `decodeReplace_flatMap` says that a text
that has been encoded is decoded as it was.
-/

namespace Iara.Lib.PyBytes

abbrev Bytes := List UInt8

/-! ## Base64 -/

/-- The letter of six bits. -/
def base64Char (n : Nat) : Char :=
  if n < 26 then Char.ofNat (0x41 + n)
  else if n < 52 then Char.ofNat (0x61 + (n - 26))
  else if n < 62 then Char.ofNat (0x30 + (n - 52))
  else if n = 62 then '+'
  else '/'

/-- Three bytes become four letters; `=` fills the last four. -/
def base64 : Bytes → List Char
  | [] => []
  | [a] => [base64Char (a.toNat / 4), base64Char (a.toNat % 4 * 16), '=', '=']
  | [a, b] =>
      [base64Char (a.toNat / 4), base64Char (a.toNat % 4 * 16 + b.toNat / 16),
        base64Char (b.toNat % 16 * 4), '=']
  | a :: b :: c :: rest =>
      base64Char (a.toNat / 4) :: base64Char (a.toNat % 4 * 16 + b.toNat / 16) ::
        base64Char (b.toNat % 16 * 4 + c.toNat / 64) :: base64Char (c.toNat % 64) ::
        base64 rest

theorem length_base64 (bytes : Bytes) :
    (base64 bytes).length = 4 * ((bytes.length + 2) / 3) := by
  induction bytes using base64.induct with
  | case1 => rfl
  | case2 a => simp [base64]
  | case3 a b => simp [base64]
  | case4 a b c rest ih =>
      simp only [base64, List.length_cons, ih]
      omega

theorem length_base64_le {bytes : Bytes} {bound : Nat} (h : bytes.length ≤ bound) :
    (base64 bytes).length ≤ 4 * ((bound + 2) / 3) := by
  rw [length_base64]
  omega

/-! ## Decoding with replacements -/

def isContinuation (b : UInt8) : Bool := 0x80 ≤ b && b ≤ 0xBF

/-- The second byte of a sequence of three or four bytes: some first bytes leave less room, as
overlong forms, surrogates and what is beyond Unicode are excluded. -/
def secondFits (first second : UInt8) : Bool :=
  if first = 0xE0 then 0xA0 ≤ second && second ≤ 0xBF
  else if first = 0xED then 0x80 ≤ second && second ≤ 0x9F
  else if first = 0xF0 then 0x90 ≤ second && second ≤ 0xBF
  else if first = 0xF4 then 0x80 ≤ second && second ≤ 0x8F
  else isContinuation second

/-- How many bytes one replacement character stands for, where no character can be read: the
longest start of a sequence that could have been continued. -/
def illFormedLength : Bytes → Nat
  | first :: second :: rest =>
      if 0xE0 ≤ first && first ≤ 0xF4 && secondFits first second then
        match rest with
        | third :: _ => if 0xF0 ≤ first && isContinuation third then 3 else 2
        | [] => 2
      else 1
  | _ => 1

def replacementCharacter : Char := Char.ofNat 0xFFFD

/-- Each step reads a byte at least. -/
def decodeAux : Nat → Bytes → List Char
  | 0, _ => []
  | _ + 1, [] => []
  | fuel + 1, b :: bytes =>
      match (b :: bytes).toByteArray.utf8DecodeChar? 0 with
      | some c => c :: decodeAux fuel ((b :: bytes).drop c.utf8Size)
      | none => replacementCharacter :: decodeAux fuel ((b :: bytes).drop
          (illFormedLength (b :: bytes)))

def decodeReplace (bytes : Bytes) : String := String.ofList (decodeAux bytes.length bytes)

theorem decodeAux_flatMap {fuel : Nat} {cs : List Char}
    (h : (cs.flatMap String.utf8EncodeChar).length ≤ fuel) :
    decodeAux fuel (cs.flatMap String.utf8EncodeChar) = cs := by
  induction cs generalizing fuel with
  | nil => cases fuel <;> rfl
  | cons c cs ih =>
      have hlength : (String.utf8EncodeChar c).length = c.utf8Size :=
        String.length_utf8EncodeChar c
      have hpos : 0 < c.utf8Size := c.utf8Size_pos
      have hread : ((c :: cs).flatMap String.utf8EncodeChar).toByteArray.utf8DecodeChar? 0 =
          some c := List.utf8DecodeChar?_utf8Encode_cons
      have hdrop : ((c :: cs).flatMap String.utf8EncodeChar).drop c.utf8Size =
          cs.flatMap String.utf8EncodeChar := by
        rw [List.flatMap_cons, ← hlength, List.drop_left]
      have hne : (c :: cs).flatMap String.utf8EncodeChar ≠ [] := by
        rw [List.flatMap_cons]
        exact List.append_ne_nil_of_left_ne_nil String.utf8EncodeChar_ne_nil _
      rw [List.flatMap_cons, List.length_append] at h
      obtain ⟨fuel, rfl⟩ : ∃ k, fuel = k + 1 := ⟨fuel - 1, by omega⟩
      obtain ⟨b, bytes, hbytes⟩ := List.exists_cons_of_ne_nil hne
      rw [hbytes] at hread hdrop ⊢
      rw [decodeAux, hread]
      simp only
      rw [hdrop, ih (by omega)]

/-- What has been encoded is decoded as it was. -/
theorem decodeReplace_flatMap (cs : List Char) :
    decodeReplace (cs.flatMap String.utf8EncodeChar) = String.ofList cs := by
  unfold decodeReplace
  rw [decodeAux_flatMap (Nat.le_refl _)]

/-- A byte that starts nothing, a truncated character, a surrogate. -/
example : decodeReplace [0x61, 0xFF, 0xE2, 0x82, 0xED, 0xA0, 0x80] =
    String.ofList ('a' :: List.replicate 5 replacementCharacter) := by decide +kernel

end Iara.Lib.PyBytes
