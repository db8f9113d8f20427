import Mathlib.Data.List.Basic

/-!
# Regular expressions with word boundaries

Alternatives of texts and of `\b`, matched as Python's `re` does, by backtracking.  A
place in a text is what is before it and what follows it, since `\b` looks at both.

* `mem_ends`: what the matcher finds is what `Matches` says;
* `search_iff`: a search looks at every place;
* `matches_wholeWord_iff`: a text between two `\b` that begins and ends with word
  characters stands alone.
-/

namespace Iara.Lib

inductive WordRegex where
  | epsilon
  | char (c : Char)
  /-- `\b` -/
  | boundary
  | seq (first second : WordRegex)
  | alt (left right : WordRegex)
  deriving DecidableEq, Repr

namespace WordRegex

def literal : List Char → WordRegex
  | [] => epsilon
  | c :: cs => seq (char c) (literal cs)

def oneOf : WordRegex → List WordRegex → WordRegex
  | r, [] => r
  | r, r' :: rs => alt r (oneOf r' rs)

/-- `\b`, the text and `\b`. -/
def wholeWord (cs : List Char) : WordRegex := seq boundary (seq (literal cs) boundary)

variable (isWord : Char → Bool)

/-- Of the characters around the place one is a word character. -/
def atBoundary (before after : List Char) : Bool :=
  before.getLast?.any isWord != after.head?.any isWord

/-- The places where a match from a place on may end, in the order of the search. -/
def ends : WordRegex → List Char → List Char → List (List Char × List Char)
  | epsilon, before, after => [(before, after)]
  | char _, _, [] => []
  | char c, before, d :: after => if d = c then [(before ++ [d], after)] else []
  | boundary, before, after => if atBoundary isWord before after then [(before, after)] else []
  | seq a b, before, after => (a.ends before after).flatMap fun place => b.ends place.1 place.2
  | alt a b, before, after => a.ends before after ++ b.ends before after

def searchFrom (r : WordRegex) : List Char → List Char → Bool
  | before, [] => !(r.ends isWord before []).isEmpty
  | before, c :: after =>
      !(r.ends isWord before (c :: after)).isEmpty || r.searchFrom (before ++ [c]) after

/-- Whether there is a match anywhere. -/
def search (r : WordRegex) (text : List Char) : Bool := r.searchFrom isWord [] text

/-- The expression matches `w` between `before` and `after`. -/
def Matches : WordRegex → List Char → List Char → List Char → Prop
  | epsilon, _, w, _ => w = []
  | char c, _, w, _ => w = [c]
  | boundary, before, w, after => w = [] ∧ atBoundary isWord before after = true
  | seq a b, before, w, after =>
      ∃ u v, w = u ++ v ∧ a.Matches before u (v ++ after) ∧ b.Matches (before ++ u) v after
  | alt a b, before, w, after => a.Matches before w after ∨ b.Matches before w after

variable {isWord} {r : WordRegex} {before after w text cs : List Char}

/-! ## Matches -/

theorem mem_ends {place : List Char × List Char} :
    place ∈ r.ends isWord before after ↔
      ∃ w, place.1 = before ++ w ∧ after = w ++ place.2 ∧
        r.Matches isWord before w place.2 := by
  induction r generalizing before after place with
  | epsilon =>
      rw [ends, List.mem_singleton]
      constructor
      · rintro rfl
        exact ⟨[], (List.append_nil before).symm, rfl, rfl⟩
      · rintro ⟨w, hbefore, rfl, rfl⟩
        rw [List.append_nil] at hbefore
        exact Prod.ext hbefore rfl
  | char c =>
      cases after with
      | nil =>
          rw [ends]
          constructor
          · intro h
            cases h
          · rintro ⟨w, -, hafter, rfl⟩
            cases hafter
      | cons d after =>
          rw [ends]
          constructor
          · intro h
            split at h
            next hd =>
              obtain rfl := List.mem_singleton.1 h
              exact ⟨[d], rfl, rfl, by rw [hd]; rfl⟩
            next => cases h
          · rintro ⟨w, hbefore, hafter, rfl⟩
            obtain ⟨rfl, hrest⟩ := List.cons.inj hafter
            rw [if_pos rfl, List.mem_singleton]
            exact Prod.ext hbefore hrest.symm
  | boundary =>
      rw [ends]
      constructor
      · intro h
        split at h
        next hbound =>
          obtain rfl := List.mem_singleton.1 h
          exact ⟨[], (List.append_nil before).symm, rfl, rfl, hbound⟩
        next => cases h
      · rintro ⟨w, hbefore, rfl, rfl, hbound⟩
        rw [List.append_nil] at hbefore
        rw [List.nil_append, if_pos hbound, List.mem_singleton]
        exact Prod.ext hbefore rfl
  | seq a b iha ihb =>
      rw [ends, List.mem_flatMap]
      constructor
      · rintro ⟨mid, hmid, hplace⟩
        obtain ⟨u, hmidBefore, rfl, hu⟩ := iha.1 hmid
        obtain ⟨v, hbefore, hafter, hv⟩ := ihb.1 hplace
        rw [hmidBefore] at hbefore hv
        rw [hafter] at hu
        exact ⟨u ++ v, by rw [hbefore, List.append_assoc], by rw [hafter, List.append_assoc],
          u, v, rfl, hu, hv⟩
      · rintro ⟨w, hbefore, hafter, u, v, rfl, hu, hv⟩
        refine ⟨(before ++ u, v ++ place.2), iha.2 ⟨u, rfl, ?_, hu⟩, ihb.2 ⟨v, ?_, rfl, hv⟩⟩
        · rw [hafter, List.append_assoc]
        · rw [hbefore, List.append_assoc]
  | alt a b iha ihb =>
      rw [ends, List.mem_append, iha, ihb]
      constructor
      · rintro (⟨w, hbefore, hafter, hw⟩ | ⟨w, hbefore, hafter, hw⟩)
        · exact ⟨w, hbefore, hafter, .inl hw⟩
        · exact ⟨w, hbefore, hafter, .inr hw⟩
      · rintro ⟨w, hbefore, hafter, hw | hw⟩
        · exact .inl ⟨w, hbefore, hafter, hw⟩
        · exact .inr ⟨w, hbefore, hafter, hw⟩

/-- A match stands at the place. -/
theorem ends_ne_nil_iff :
    (!(r.ends isWord before after).isEmpty) = true ↔
      ∃ w rest, after = w ++ rest ∧ r.Matches isWord before w rest := by
  rw [Bool.not_eq_true', ← Bool.not_eq_true, List.isEmpty_iff]
  constructor
  · intro hne
    obtain ⟨place, hplace⟩ := List.exists_mem_of_ne_nil _ hne
    obtain ⟨w, -, hafter, hw⟩ := mem_ends.1 hplace
    exact ⟨w, place.2, hafter, hw⟩
  · rintro ⟨w, rest, hafter, hw⟩
    exact List.ne_nil_of_mem (mem_ends.2 ⟨w, rfl, hafter, hw⟩ : (before ++ w, rest) ∈ _)

theorem searchFrom_iff :
    r.searchFrom isWord before after = true ↔
      ∃ pre w rest, after = pre ++ (w ++ rest) ∧ r.Matches isWord (before ++ pre) w rest := by
  induction after generalizing before with
  | nil =>
      rw [searchFrom, ends_ne_nil_iff]
      constructor
      · rintro ⟨w, rest, hafter, hw⟩
        exact ⟨[], w, rest, hafter, by rwa [List.append_nil]⟩
      · rintro ⟨pre, w, rest, hafter, hw⟩
        obtain ⟨rfl, hrest⟩ := List.append_eq_nil_iff.1 hafter.symm
        rw [List.append_nil] at hw
        exact ⟨w, rest, hrest.symm, hw⟩
  | cons c after ih =>
      rw [searchFrom, Bool.or_eq_true, ends_ne_nil_iff, ih]
      constructor
      · rintro (⟨w, rest, hafter, hw⟩ | ⟨pre, w, rest, rfl, hw⟩)
        · exact ⟨[], w, rest, hafter, by rwa [List.append_nil]⟩
        · exact ⟨c :: pre, w, rest, rfl, by rwa [List.append_assoc] at hw⟩
      · rintro ⟨pre, w, rest, hafter, hw⟩
        cases pre with
        | nil =>
            rw [List.append_nil] at hw
            exact .inl ⟨w, rest, hafter, hw⟩
        | cons d pre =>
            obtain ⟨rfl, hrest⟩ := List.cons.inj hafter
            exact .inr ⟨pre, w, rest, hrest, by rwa [List.append_assoc]⟩

theorem search_iff :
    r.search isWord text = true ↔
      ∃ pre w rest, text = pre ++ (w ++ rest) ∧ r.Matches isWord pre w rest :=
  searchFrom_iff

/-! ## What the expressions match -/

@[simp] theorem matches_literal_iff :
    (literal cs).Matches isWord before w after ↔ w = cs := by
  induction cs generalizing before w with
  | nil => exact Iff.rfl
  | cons c cs ih =>
      constructor
      · rintro ⟨u, v, rfl, rfl, hv⟩
        rw [ih.1 hv]
        rfl
      · rintro rfl
        exact ⟨[c], cs, rfl, rfl, ih.2 rfl⟩

theorem matches_oneOf_iff {rs : List WordRegex} :
    (oneOf r rs).Matches isWord before w after ↔
      ∃ r' ∈ r :: rs, r'.Matches isWord before w after := by
  induction rs generalizing r with
  | nil => simp [oneOf]
  | cons r' rs ih =>
      rw [oneOf, List.exists_mem_cons_iff, ← ih]
      exact Iff.rfl

theorem matches_wholeWord :
    (wholeWord cs).Matches isWord before w after ↔
      w = cs ∧ atBoundary isWord before (cs ++ after) = true ∧
        atBoundary isWord (before ++ cs) after = true := by
  constructor
  · rintro ⟨u, v, rfl, ⟨rfl, hfirst⟩, u', v', rfl, hcs, rfl, hlast⟩
    obtain rfl := matches_literal_iff.1 hcs
    rw [List.append_nil] at hfirst hlast ⊢
    exact ⟨rfl, hfirst, hlast⟩
  · rintro ⟨rfl, hfirst, hlast⟩
    refine ⟨[], w, rfl, ⟨rfl, hfirst⟩, w, [], (List.append_nil w).symm, ?_, rfl, ?_⟩
    · exact matches_literal_iff.2 rfl
    · rwa [List.append_nil]

/-- What is before the place does not end, and what follows it does not begin, with a word
character. -/
def Apart (isWord : Char → Bool) (before after : List Char) : Prop :=
  (∀ c ∈ before.getLast?, isWord c = false) ∧ ∀ c ∈ after.head?, isWord c = false

/-- The text begins and ends with word characters. -/
def WordEnded (isWord : Char → Bool) (cs : List Char) : Prop :=
  (∃ c ∈ cs.head?, isWord c = true) ∧ ∃ c ∈ cs.getLast?, isWord c = true

theorem any_eq_false_iff {o : Option Char} :
    o.any isWord = false ↔ ∀ c ∈ o, isWord c = false := by
  cases o with
  | none => simp
  | some c => simp

/-- Between two `\b`, a text that begins and ends with word characters stands alone. -/
theorem matches_wholeWord_iff (hcs : WordEnded isWord cs) :
    (wholeWord cs).Matches isWord before w after ↔ w = cs ∧ Apart isWord before after := by
  have hfirst : (cs ++ after).head?.any isWord = true := by
    obtain ⟨c, hc, hword⟩ := hcs.1
    rw [List.head?_append, Option.mem_def.1 hc, Option.some_or, Option.any_some, hword]
  have hlast : (before ++ cs).getLast?.any isWord = true := by
    obtain ⟨c, hc, hword⟩ := hcs.2
    rw [List.getLast?_append, Option.mem_def.1 hc, Option.some_or, Option.any_some, hword]
  rw [matches_wholeWord]
  unfold atBoundary Apart
  rw [hfirst, hlast, ← any_eq_false_iff, ← any_eq_false_iff, Bool.bne_true, Bool.true_bne,
    Bool.not_eq_true', Bool.not_eq_true']

example :
    (wholeWord "pau".toList).search Char.isAlpha "um pau.".toList = true ∧
      (wholeWord "pau".toList).search Char.isAlpha "pausa".toList = false := by decide

end WordRegex

end Iara.Lib
