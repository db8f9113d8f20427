/-!
# Sequence matching

`difflib.SequenceMatcher(None, a, b, autojunk=False).ratio()`: the total length
of the matching blocks, found by taking the longest common run (the leftmost one
among equals) and recursing on both sides of it.
-/

namespace Iara.Lib

namespace Difflib

variable {α : Type _} [DecidableEq α]

def commonRun : List α → List α → Nat
  | a :: as, b :: bs => if a = b then commonRun as bs + 1 else 0
  | _, _ => 0

/-- A common run: where it starts in either list, and its length. -/
structure Match where
  i : Nat
  j : Nat
  size : Nat
  deriving DecidableEq, Repr

def scanRight (as : List α) (i : Nat) : Nat → List α → Match → Match
  | _, [], best => best
  | j, b :: bs, best =>
      let size := commonRun as (b :: bs)
      scanRight as i (j + 1) bs (if best.size < size then ⟨i, j, size⟩ else best)

def scanLeft (b : List α) : Nat → List α → Match → Match
  | _, [], best => best
  | i, c :: cs, best => scanLeft b (i + 1) cs (scanRight (c :: cs) i 0 b best)

/-- `find_longest_match` over the whole of both lists. -/
def findLongestMatch (a b : List α) : Match := scanLeft b 0 a ⟨0, 0, 0⟩

/-- The sum of the sizes of `get_matching_blocks`; the first argument bounds the
depth of the recursion and the length of `a` is enough. -/
def matchedLength : Nat → List α → List α → Nat
  | 0, _, _ => 0
  | depth + 1, a, b =>
      let m := findLongestMatch a b
      if m.size = 0 then 0
      else
        matchedLength depth (a.take m.i) (b.take m.j) + m.size +
          matchedLength depth (a.drop (m.i + m.size)) (b.drop (m.j + m.size))

/-- `ratio() >= percent / 100`; two empty texts have ratio one. -/
def ratioAtLeast (percent : Nat) (a b : List α) : Bool :=
  decide (percent * (a.length + b.length) ≤ 200 * matchedLength a.length a b)

example : ratioAtLeast 75 "abcd".toList "bcde".toList = true := by decide
example : ratioAtLeast 76 "abcd".toList "bcde".toList = false := by decide

end Difflib

end Iara.Lib
