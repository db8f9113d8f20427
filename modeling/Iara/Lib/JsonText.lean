import Iara.Lib.JsonRepr
import Mathlib

/-!
# JSON texts

`json.dumps` with its defaults and `json.loads` of a text.  A text is scanned with fuel;
as much fuel as there are characters is always enough (`scanValue_fuel`).
-/

namespace Iara.Lib

namespace JsonText

/-- `JSONDecodeError`, which is a `ValueError`. -/
def decodeError : String := "JSONDecodeError"

/-- `sys.int_info.default_max_str_digits`. -/
def maxStrDigits : Nat := 4300

/-! ## Writing -/

/-- The code units of a character beyond the basic plane. -/
def highSurrogate (n : Nat) : Nat := 0xd800 + (n - 0x10000) / 0x400

def lowSurrogate (n : Nat) : Nat := 0xdc00 + (n - 0x10000) % 0x400

def unicodeEscape (unit : Nat) : List Char := '\x5c' :: 'u' :: hexDigits 4 unit

/-- A character with `ensure_ascii`. -/
def escapeChar (c : Char) : List Char :=
  if c = '\x22' ∨ c = '\x5c' then ['\x5c', c]
  else if c = '\n' then ['\x5c', 'n']
  else if c = '\r' then ['\x5c', 'r']
  else if c = '\t' then ['\x5c', 't']
  else if c = '\x0c' then ['\x5c', 'f']
  else if c = '\x08' then ['\x5c', 'b']
  else if 0x20 ≤ c.toNat ∧ c.toNat ≤ 0x7e then [c]
  else if c.toNat ≤ 0xffff then unicodeEscape c.toNat
  else unicodeEscape (highSurrogate c.toNat) ++ unicodeEscape (lowSurrogate c.toNat)

def quoted (s : String) : String :=
  String.ofList ('\x22' :: (s.toList.flatMap escapeChar ++ ['\x22']))

/-- The names that stand for values, in the order they are tried. -/
def names : List (String × Json) :=
  [("null", .null), ("true", .bool true), ("false", .bool false), ("NaN", .real "nan"),
    ("Infinity", .real "inf"), ("-Infinity", .real "-inf")]

def floatText (digits : String) : String :=
  if digits = "nan" then "NaN"
  else if digits = "inf" then "Infinity"
  else if digits = "-inf" then "-Infinity"
  else digits

mutual

/-- The text of a value, where no number is too long. -/
def textOf : Json → String
  | .null => "null"
  | .bool b => if b then "true" else "false"
  | .num n => toString n
  | .real digits => floatText digits
  | .str s => quoted s
  | .arr items => "[" ++ PyStr.join ", " (textItems items) ++ "]"
  | .obj entries => "\x7b" ++ PyStr.join ", " (textEntries entries) ++ "\x7d"

def textItems : List Json → List String
  | [] => []
  | item :: items => textOf item :: textItems items

def textEntries : List (String × Json) → List String
  | [] => []
  | (key, value) :: entries => (quoted key ++ ": " ++ textOf value) :: textEntries entries

end

mutual

/-- No integer has more digits than `str` takes. -/
def fits : Json → Bool
  | .num n => decide (n.natAbs.repr.length ≤ maxStrDigits)
  | .arr items => fitItems items
  | .obj entries => fitEntries entries
  | _ => true

def fitItems : List Json → Bool
  | [] => true
  | item :: items => fits item && fitItems items

def fitEntries : List (String × Json) → Bool
  | [] => true
  | (_, value) :: entries => fits value && fitEntries entries

end

/-- `json.dumps(value)`. -/
def dumps (value : Json) : Except String String :=
  if fits value then .ok (textOf value) else .error "ValueError"

/-! ## Scanning -/

def isSpace (c : Char) : Bool := " \t\n\r".toList.contains c

def skipSpace (cs : List Char) : List Char := cs.dropWhile isSpace

/-- The next character that is no space, and what follows it. -/
def nextMark (cs : List Char) : Except String (Char × List Char) :=
  match skipSpace cs with
  | [] => .error decodeError
  | c :: rest => .ok (c, rest)

/-- The four digits after `\u`. -/
def readUnit (cs : List Char) : Except String (Nat × List Char) :=
  if 4 ≤ cs.length then
    match (cs.take 4).mapM hexDigit with
    | some ds => .ok (ds.foldl (fun n d => 16 * n + d) 0, cs.drop 4)
    | none => .error decodeError
  else .error decodeError

/-- The second half of a surrogate pair.  A lone surrogate is no character: a text with
one counts as unreadable. -/
def readLow (high : Nat) : List Char → Except String (Char × List Char)
  | '\x5c' :: 'u' :: cs => do
      let (unit, rest) ← readUnit cs
      if 0xdc00 ≤ unit ∧ unit ≤ 0xdfff then
        .ok (Char.ofNat (0x10000 + (high - 0xd800) * 0x400 + (unit - 0xdc00)), rest)
      else .error decodeError
  | _ => .error decodeError

def readUnicode (cs : List Char) : Except String (Char × List Char) := do
  let (unit, rest) ← readUnit cs
  if 0xd800 ≤ unit ∧ unit ≤ 0xdbff then readLow unit rest
  else if 0xdc00 ≤ unit ∧ unit ≤ 0xdfff then .error decodeError
  else .ok (Char.ofNat unit, rest)

/-- The character after a backslash, and what follows it. -/
def readEscape : List Char → Except String (Char × List Char)
  | [] => .error decodeError
  | mark :: cs =>
      if mark = '\x22' ∨ mark = '\x5c' ∨ mark = '/' then .ok (mark, cs)
      else if mark = 'n' then .ok ('\n', cs)
      else if mark = 'r' then .ok ('\r', cs)
      else if mark = 't' then .ok ('\t', cs)
      else if mark = 'f' then .ok ('\x0c', cs)
      else if mark = 'b' then .ok ('\x08', cs)
      else if mark = 'u' then readUnicode cs
      else .error decodeError

/-- The characters up to the closing quote. -/
def scanString : Nat → List Char → Except String (List Char × List Char)
  | _, [] => .error decodeError
  | 0, _ => .error decodeError
  | fuel + 1, c :: cs =>
      if c = '\x22' then .ok ([], cs)
      else if c = '\x5c' then do
        let (d, rest) ← readEscape cs
        let (ds, rest) ← scanString fuel rest
        .ok (d :: ds, rest)
      else if c.toNat < 0x20 then .error decodeError
      else do
        let (ds, rest) ← scanString fuel cs
        .ok (c :: ds, rest)

/-- A number as it is written. -/
structure Literal where
  negative : Bool
  whole : List Char
  fraction : List Char
  exponent : List Char
  deriving DecidableEq, Repr

def Literal.text (literal : Literal) : String :=
  String.ofList ((if literal.negative then ['-'] else []) ++
    (literal.whole ++ (literal.fraction ++ literal.exponent)))

def Literal.isFloat (literal : Literal) : Bool :=
  !literal.fraction.isEmpty || !literal.exponent.isEmpty

def scanSign : List Char → Bool × List Char
  | '-' :: cs => (true, cs)
  | cs => (false, cs)

def scanDigits (cs : List Char) : List Char × List Char :=
  (cs.takeWhile Char.isDigit, cs.dropWhile Char.isDigit)

/-- No digit follows a leading zero. -/
def scanWhole : List Char → Except String (List Char × List Char)
  | [] => .error decodeError
  | c :: cs =>
      if c = '0' then .ok (['0'], cs)
      else if c.isDigit then .ok (scanDigits (c :: cs))
      else .error decodeError

/-- Nothing, where no digit follows the point. -/
def scanFraction : List Char → List Char × List Char
  | '.' :: cs =>
      let (ds, rest) := scanDigits cs
      if ds.isEmpty then ([], '.' :: cs) else ('.' :: ds, rest)
  | cs => ([], cs)

/-- The sign and the digits of an exponent. -/
def scanPower : List Char → List Char × List Char
  | [] => ([], [])
  | c :: cs =>
      if c = '+' ∨ c = '-' then
        let (ds, rest) := scanDigits cs
        if ds.isEmpty then ([], c :: cs) else (c :: ds, rest)
      else scanDigits (c :: cs)

/-- Nothing, where no digit follows the letter. -/
def scanExponent : List Char → List Char × List Char
  | [] => ([], [])
  | c :: cs =>
      if c = 'e' ∨ c = 'E' then
        let (ds, rest) := scanPower cs
        if ds.isEmpty then ([], c :: cs) else (c :: ds, rest)
      else ([], c :: cs)

def scanLiteral (cs : List Char) : Except String (Literal × List Char) := do
  let (negative, cs) := scanSign cs
  let (whole, cs) ← scanWhole cs
  let (fraction, cs) := scanFraction cs
  let (exponent, cs) := scanExponent cs
  .ok (⟨negative, whole, fraction, exponent⟩, cs)

/-- The text is that of a float and no longer. -/
def isFloatLiteral (cs : List Char) : Bool :=
  match scanLiteral cs with
  | .ok (literal, rest) => literal.isFloat && rest.isEmpty
  | .error _ => false

end JsonText

/-- A `repr` of a float that the scanner reads as that float. -/
def StableFloat (reprOf : String → String) (digits : String) : Prop :=
  digits ∈ ["nan", "inf", "-inf"] ∨
    (JsonText.isFloatLiteral digits.toList = true ∧ reprOf digits = digits)

/-- What is taken from floats: the `repr` of the float that a literal reads as. -/
structure PyFloat where
  reprOf : String → String
  stable : ∀ literal, StableFloat reprOf (reprOf literal)

namespace JsonText

variable (floats : PyFloat)

/-- The value of a number.  Only an integer can have too many digits. -/
def Literal.value (literal : Literal) : Except String Json :=
  if literal.isFloat then .ok (.real (floats.reprOf literal.text))
  else if literal.whole.length ≤ maxStrDigits then
    .ok (.num (if literal.negative then -(Nat.ofDigitChars 10 literal.whole 0 : Int)
      else Nat.ofDigitChars 10 literal.whole 0))
  else .error "ValueError"

def scanNumber (cs : List Char) : Except String (Json × List Char) := do
  let (literal, rest) ← scanLiteral cs
  let value ← literal.value floats
  .ok (value, rest)

def scanAtom (cs : List Char) : Except String (Json × List Char) :=
  match names.find? fun name => name.1.toList.isPrefixOf cs with
  | some (name, value) => .ok (value, cs.drop name.toList.length)
  | none => scanNumber floats cs

section Members

variable {α : Type} (scan : List Char → Except String (α × List Char)) (close : Char)

/-- The members up to the closing bracket, of which there is one at least. -/
def scanMembers : Nat → List Char → Except String (List α × List Char)
  | 0, _ => .error decodeError
  | fuel + 1, cs => do
      let (x, rest) ← scan cs
      let (mark, rest) ← nextMark rest
      if mark = close then .ok ([x], rest)
      else if mark = ',' then do
        let (xs, rest) ← scanMembers fuel (skipSpace rest)
        .ok (x :: xs, rest)
      else .error decodeError

/-- What follows an opening bracket. -/
def scanBracket (fuel : Nat) (cs : List Char) : Except String (List α × List Char) :=
  match skipSpace cs with
  | [] => .error decodeError
  | c :: rest => if c = close then .ok ([], rest) else scanMembers scan close fuel (c :: rest)

/-- A key, a colon and a value. -/
def scanEntry (fuel : Nat) : List Char → Except String ((String × α) × List Char)
  | [] => .error decodeError
  | c :: cs =>
      if c = '\x22' then do
        let (key, rest) ← scanString fuel cs
        let (mark, rest) ← nextMark rest
        if mark = ':' then do
          let (value, rest) ← scan (skipSpace rest)
          .ok ((String.ofList key, value), rest)
        else .error decodeError
      else .error decodeError

end Members

/-- `entries[key] = value`. -/
def setEntry (entries : List (String × Json)) (entry : String × Json) : List (String × Json) :=
  if entry.1 ∈ entries.map Prod.fst then
    entries.map fun old => if old.1 = entry.1 then entry else old
  else entries ++ [entry]

/-- Of a key that is written twice the last value counts, at the first place. -/
def toDict (entries : List (String × Json)) : List (String × Json) := entries.foldl setEntry []

/-- `scan_once`: the value at the start of a text, and what follows it. -/
def scanValue : Nat → List Char → Except String (Json × List Char)
  | _, [] => .error decodeError
  | 0, _ => .error decodeError
  | fuel + 1, c :: cs =>
      if c = '\x22' then do
        let (s, rest) ← scanString fuel cs
        .ok (.str (String.ofList s), rest)
      else if c = '[' then do
        let (items, rest) ← scanBracket (scanValue fuel) ']' fuel cs
        .ok (.arr items, rest)
      else if c = '\x7b' then do
        let (entries, rest) ← scanBracket (scanEntry (scanValue fuel) fuel) '\x7d' fuel cs
        .ok (.obj (toDict entries), rest)
      else scanAtom floats (c :: cs)

/-- `json.loads(text)`.  A text with a byte order mark starts with no value. -/
def loads (text : String) : Except String Json := do
  let cs := skipSpace text.toList
  let (value, rest) ← scanValue floats (cs.length + 1) cs
  if (skipSpace rest).isEmpty then .ok value else .error decodeError

end JsonText

end Iara.Lib
