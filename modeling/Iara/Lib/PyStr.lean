/-!
# Python strings

The `str` operations the modelled code uses.  A Python string is a sequence of
code points, as a Lean `String` is, so slices count characters.

Case mapping and `repr` depend on the Unicode tables; they are fields of
`PyText`, and what is proved holds for every choice of them.
-/

namespace Iara.Lib

structure PyText where
  lower : String → String
  upper : String → String
  repr : String → String

/-- Tables to run with. -/
def plainText : PyText where
  lower s := s
  upper s := s
  repr s := "'" ++ s ++ "'"

namespace PyStr

/-- `str.isspace` on one character. -/
def isSpace (c : Char) : Bool :=
  let n := c.toNat
  (0x09 ≤ n && n ≤ 0x0d) || (0x1c ≤ n && n ≤ 0x20) || n == 0x85 || n == 0xa0 || n == 0x1680 ||
    (0x2000 ≤ n && n ≤ 0x200a) || n == 0x2028 || n == 0x2029 || n == 0x202f || n == 0x205f ||
    n == 0x3000

def trimEnds (p : Char → Bool) (cs : List Char) : List Char :=
  ((cs.dropWhile p).reverse.dropWhile p).reverse

/-- `s.strip()`. -/
def strip (s : String) : String := String.ofList (trimEnds isSpace s.toList)

/-- `s[:n]`. -/
def slice (s : String) (n : Nat) : String := String.ofList (s.toList.take n)

/-- `s[n:]`. -/
def sliceFrom (s : String) (n : Nat) : String := String.ofList (s.toList.drop n)

/-- `s.startswith(start)`. -/
def startsWith (s start : String) : Bool := start.toList.isPrefixOf s.toList

def occursIn (sub : List Char) : List Char → Bool
  | [] => sub.isEmpty
  | c :: cs => sub.isPrefixOf (c :: cs) || occursIn sub cs

/-- `sub in s`. -/
def contains (s sub : String) : Bool := occursIn sub.toList s.toList

def splitAux (p : Char → Bool) : List Char → List Char → List (List Char)
  | acc, [] => [acc.reverse]
  | acc, c :: cs => if p c then acc.reverse :: splitAux p [] cs else splitAux p (c :: acc) cs

/-- `s.split("\n")`. -/
def lines (s : String) : List String := (splitAux (· == '\n') [] s.toList).map String.ofList

/-- The characters `str.splitlines` breaks at; `\r\n` is one break. -/
def isLineBreak (c : Char) : Bool :=
  let n := c.toNat
  (0x0a ≤ n && n ≤ 0x0d) || (0x1c ≤ n && n ≤ 0x1e) || n == 0x85 || n == 0x2028 || n == 0x2029

def splitlinesAux : List Char → List Char → List (List Char)
  | [], [] => []
  | acc, [] => [acc.reverse]
  | acc, '\r' :: '\n' :: cs => acc.reverse :: splitlinesAux [] cs
  | acc, c :: cs =>
      if isLineBreak c then acc.reverse :: splitlinesAux [] cs else splitlinesAux (c :: acc) cs

/-- `s.splitlines()`. -/
def splitlines (s : String) : List String := (splitlinesAux [] s.toList).map String.ofList

/-- `s.split()`: maximal runs of non-whitespace. -/
def words (s : String) : List String :=
  ((splitAux isSpace [] s.toList).filter fun w => !w.isEmpty).map String.ofList

/-- `sep.join(parts)`. -/
def join (sep : String) : List String → String
  | [] => ""
  | [s] => s
  | s :: rest => s ++ sep ++ join sep rest

/-- `s.replace(sub, "")` for a non-empty `sub`, scanning left to right; the
first argument bounds the scan by the length of the text. -/
def removeAllAux (sub : List Char) : Nat → List Char → List Char
  | 0, cs => cs
  | _ + 1, [] => []
  | n + 1, c :: cs =>
      if sub.isPrefixOf (c :: cs) then removeAllAux sub n ((c :: cs).drop sub.length)
      else c :: removeAllAux sub n cs

def removeAll (sub : String) (cs : List Char) : List Char :=
  removeAllAux sub.toList cs.length cs

theorem trimEnds_of_forall {p : Char → Bool} {cs : List Char} (h : ∀ c ∈ cs, p c = false) :
    trimEnds p cs = cs := by
  have hself : ∀ ds : List Char, (∀ d ∈ ds, p d = false) → ds.dropWhile p = ds := by
    intro ds hds
    cases ds with
    | nil => rfl
    | cons d ds => rw [List.dropWhile_cons, hds d List.mem_cons_self, if_neg Bool.false_ne_true]
  unfold trimEnds
  rw [hself cs h, hself cs.reverse (fun c hc => h c (List.mem_reverse.1 hc)), List.reverse_reverse]

theorem removeAllAux_of_notMem {sub : List Char} {x : Char} (hx : x ∈ sub) :
    ∀ (n : Nat) {cs : List Char}, x ∉ cs → removeAllAux sub n cs = cs := by
  intro n
  induction n with
  | zero => intro cs _; rfl
  | succ n ih =>
      intro cs hcs
      cases cs with
      | nil => rfl
      | cons c cs =>
          have hno : ¬ sub.isPrefixOf (c :: cs) = true := by
            intro hprefix
            exact hcs ((List.isPrefixOf_iff_prefix.1 hprefix).subset hx)
          rw [removeAllAux, if_neg hno, ih fun hmem => hcs (List.mem_cons_of_mem c hmem)]

/-- A text without one of the characters of `sub` is left as it is. -/
theorem removeAll_of_notMem {sub : String} {cs : List Char} {x : Char} (hx : x ∈ sub.toList)
    (hcs : x ∉ cs) : removeAll sub cs = cs :=
  removeAllAux_of_notMem hx cs.length hcs

/-- The truth value of a string. -/
def truthy (s : String) : Bool := s != ""

/-- The truth value of a value that may be `None`. -/
def truthyOption : Option String → Bool
  | none => false
  | some s => truthy s

end PyStr

end Iara.Lib
