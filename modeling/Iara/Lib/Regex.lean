/-!
# Regular expressions

The expressions of Python's `re` in which only a single character is repeated, matched
as `re` does: by backtracking, the greedy way first.  `search` asks for a match
anywhere, `sub` replaces the matches from left to right.

`Edited` relates a text to what a replacement makes of it.  A match in the edited text
is followed back to the original piece by piece: `Reflects` is kept by every piece
that cannot touch the replacement, and by runs of characters that pass over it.
-/

namespace Iara.Lib

inductive Regex where
  | epsilon
  /-- A character of a class, `min` times or more, and `max` times at most. -/
  | many (p : Char → Bool) (min : Nat) (max : Option Nat)
  | seq (first second : Regex)
  | alt (left right : Regex)

namespace Regex

/-- One character of a class. -/
def set (p : Char → Bool) : Regex := many p 1 (some 1)

/-- A character of a class, or none. -/
def optional (p : Char → Bool) : Regex := many p 0 (some 1)

def concat : List Regex → Regex
  | [] => epsilon
  | r :: rs => seq r (concat rs)

def oneOf : Regex → List Regex → Regex
  | r, [] => r
  | r, r' :: rs => alt r (oneOf r' rs)

/-- The small letter that `re.IGNORECASE` takes for the character in a class of ASCII
characters. -/
def foldCase (c : Char) : Char :=
  if c = '\u0130' ∨ c = '\u0131' then 'i'
  else if c = '\u017f' then 's'
  else if c = '\u212a' then 'k'
  else c.toLower

/-- A class of ASCII characters under `re.IGNORECASE`. -/
def ignoreCase (p : Char → Bool) (c : Char) : Bool := p (foldCase c)

def literal (text : String) : Regex := concat (text.toList.map fun d => set (· == d))

/-- ASCII text under `re.IGNORECASE`. -/
def literalIgnoreCase (text : String) : Regex :=
  concat (text.toList.map fun d => set (ignoreCase (· == foldCase d)))

/-- The words of an expression. -/
def Accepts : Regex → List Char → Prop
  | epsilon, w => w = []
  | many p min max, w => (∀ c ∈ w, p c = true) ∧ min ≤ w.length ∧ ∀ m ∈ max, w.length ≤ m
  | seq a b, w => ∃ u v, w = u ++ v ∧ a.Accepts u ∧ b.Accepts v
  | alt a b, w => a.Accepts w ∨ b.Accepts w

/-- What a run of a class may leave of a text, the longest run first. -/
def runs (p : Char → Bool) : Nat → Option Nat → List Char → List (List Char)
  | min, _, [] => if min = 0 then [[]] else []
  | min, max, c :: cs =>
      (if p c = true ∧ max ≠ some 0 then runs p (min - 1) (max.map (· - 1)) cs else []) ++
        if min = 0 then [c :: cs] else []

/-- What a match at the start of a text may leave of it, in the order of the search. -/
def rests : Regex → List Char → List (List Char)
  | epsilon, s => [s]
  | many p min max, s => runs p min max s
  | seq a b, s => (a.rests s).flatMap b.rests
  | alt a b, s => a.rests s ++ b.rests s

/-- Whether there is a match anywhere. -/
def search (r : Regex) : List Char → Bool
  | [] => !(r.rests []).isEmpty
  | c :: cs => !(r.rests (c :: cs)).isEmpty || r.search cs

/-- The length of a shortest word. -/
def minLength : Regex → Nat
  | epsilon => 0
  | many _ min _ => min
  | seq a b => a.minLength + b.minLength
  | alt a b => Nat.min a.minLength b.minLength

/-- No word has the character. -/
def excludes (x : Char) : Regex → Bool
  | epsilon => true
  | many p _ _ => !p x
  | seq a b => a.excludes x && b.excludes x
  | alt a b => a.excludes x && b.excludes x

/-! ## Matches -/

theorem mem_runs {p : Char → Bool} {rest : List Char} :
    ∀ {min : Nat} {max : Option Nat} {s : List Char}, rest ∈ runs p min max s ↔
      ∃ w, s = w ++ rest ∧ (∀ c ∈ w, p c = true) ∧ min ≤ w.length ∧ ∀ m ∈ max, w.length ≤ m := by
  intro min max s
  induction s generalizing min max with
  | nil =>
      unfold runs
      constructor
      · intro h
        split at h
        next hmin =>
          obtain rfl := List.mem_singleton.1 h
          exact ⟨[], rfl, by simp, by simp [hmin], by simp⟩
        next => cases h
      · rintro ⟨w, hw, -, hmin, -⟩
        obtain ⟨rfl, rfl⟩ := List.append_eq_nil_iff.1 hw.symm
        rw [if_pos (Nat.le_zero.1 hmin)]
        exact List.mem_singleton_self _
  | cons c cs ih =>
      rw [runs, List.mem_append]
      constructor
      · rintro (h | h)
        · split at h
          next hc =>
            obtain ⟨w, rfl, hw, hmin, hmax⟩ := ih.1 h
            refine ⟨c :: w, rfl, ?_, by rw [List.length_cons]; omega, ?_⟩
            · intro d hd
              rcases List.mem_cons.1 hd with rfl | hd
              · exact hc.1
              · exact hw d hd
            · rintro m rfl
              have hle := hmax (m - 1) rfl
              have hne : m ≠ 0 := by
                rintro rfl
                exact hc.2 rfl
              rw [List.length_cons]
              omega
          next => cases h
        · split at h
          next hmin =>
            obtain rfl := List.mem_singleton.1 h
            exact ⟨[], rfl, by simp, by simp [hmin], by simp⟩
          next => cases h
      · rintro ⟨w, hw, hp, hmin, hmax⟩
        cases w with
        | nil =>
            right
            rw [if_pos (Nat.le_zero.1 hmin)]
            exact List.mem_singleton.2 hw.symm
        | cons d w =>
            left
            obtain ⟨rfl, rfl⟩ := List.cons.inj hw
            have hne : max ≠ some 0 := by
              rintro rfl
              exact absurd (hmax 0 rfl) (by simp)
            rw [if_pos ⟨hp c List.mem_cons_self, hne⟩]
            refine ih.2 ⟨w, rfl, fun d hd => hp d (List.mem_cons_of_mem c hd), ?_, ?_⟩
            · rw [List.length_cons] at hmin
              omega
            · intro m hm
              cases max with
              | none => cases hm
              | some m' =>
                  obtain rfl : m' - 1 = m := Option.some.inj hm
                  have hle := hmax m' rfl
                  rw [List.length_cons] at hle
                  omega

theorem mem_rests {r : Regex} {s rest : List Char} :
    rest ∈ r.rests s ↔ ∃ w, s = w ++ rest ∧ r.Accepts w := by
  induction r generalizing s rest with
  | epsilon =>
      rw [rests, List.mem_singleton]
      constructor
      · rintro rfl
        exact ⟨[], rfl, rfl⟩
      · rintro ⟨w, rfl, rfl⟩
        rfl
  | many p min max => exact mem_runs
  | seq a b iha ihb =>
      rw [rests, List.mem_flatMap]
      constructor
      · rintro ⟨mid, hmid, hrest⟩
        obtain ⟨u, rfl, hu⟩ := iha.1 hmid
        obtain ⟨v, rfl, hv⟩ := ihb.1 hrest
        exact ⟨u ++ v, (List.append_assoc u v rest).symm, u, v, rfl, hu, hv⟩
      · rintro ⟨w, rfl, u, v, rfl, hu, hv⟩
        exact ⟨v ++ rest, iha.2 ⟨u, List.append_assoc u v rest, hu⟩, ihb.2 ⟨v, rfl, hv⟩⟩
  | alt a b iha ihb =>
      rw [rests, List.mem_append, iha, ihb]
      constructor
      · rintro (⟨w, hs, hw⟩ | ⟨w, hs, hw⟩)
        · exact ⟨w, hs, .inl hw⟩
        · exact ⟨w, hs, .inr hw⟩
      · rintro ⟨w, hs, hw | hw⟩
        · exact .inl ⟨w, hs, hw⟩
        · exact .inr ⟨w, hs, hw⟩

/-- A match stands at the start of the text, and `K` holds of what follows it. -/
def Leads (r : Regex) (K : List Char → Prop) (s : List Char) : Prop :=
  ∃ w rest, s = w ++ rest ∧ r.Accepts w ∧ K rest

/-- A match stands at the start of the text. -/
def Starts (r : Regex) : List Char → Prop := r.Leads fun _ => True

variable {r : Regex} {K : List Char → Prop}

@[simp] theorem leads_epsilon (K : List Char → Prop) : epsilon.Leads K = K := by
  funext s
  refine propext ⟨?_, fun h => ⟨[], s, rfl, rfl, h⟩⟩
  rintro ⟨w, rest, rfl, rfl, h⟩
  exact h

@[simp] theorem leads_seq (a b : Regex) (K : List Char → Prop) :
    (seq a b).Leads K = a.Leads (b.Leads K) := by
  funext s
  refine propext ⟨?_, ?_⟩
  · rintro ⟨w, rest, rfl, ⟨u, v, rfl, hu, hv⟩, h⟩
    exact ⟨u, v ++ rest, List.append_assoc u v rest, hu, v, rest, rfl, hv, h⟩
  · rintro ⟨u, mid, rfl, hu, v, rest, rfl, hv, h⟩
    exact ⟨u ++ v, rest, (List.append_assoc u v rest).symm, ⟨u, v, rfl, hu, hv⟩, h⟩

theorem starts_iff_rests {s : List Char} : r.Starts s ↔ r.rests s ≠ [] := by
  constructor
  · rintro ⟨w, rest, hs, hw, -⟩
    exact List.ne_nil_of_mem (mem_rests.2 ⟨w, hs, hw⟩)
  · intro hne
    obtain ⟨rest, hrest⟩ := List.exists_mem_of_ne_nil _ hne
    obtain ⟨w, hs, hw⟩ := mem_rests.1 hrest
    exact ⟨w, rest, hs, hw, trivial⟩

theorem search_cons (c : Char) (cs : List Char) :
    r.search (c :: cs) = true ↔ r.Starts (c :: cs) ∨ r.search cs = true := by
  rw [search, Bool.or_eq_true, Bool.not_eq_true', starts_iff_rests, Ne, ← List.isEmpty_iff,
    Bool.not_eq_true]

theorem search_iff {s : List Char} :
    r.search s = true ↔ ∃ pre post, s = pre ++ post ∧ r.Starts post := by
  induction s with
  | nil =>
      rw [search, Bool.not_eq_true', ← Bool.not_eq_true, List.isEmpty_iff, ← Ne,
        ← starts_iff_rests]
      constructor
      · intro h
        exact ⟨[], [], rfl, h⟩
      · rintro ⟨pre, post, hs, h⟩
        obtain ⟨rfl, rfl⟩ := List.append_eq_nil_iff.1 hs.symm
        exact h
  | cons c cs ih =>
      rw [search_cons, ih]
      constructor
      · rintro (h | ⟨pre, post, rfl, h⟩)
        · exact ⟨[], c :: cs, rfl, h⟩
        · exact ⟨c :: pre, post, rfl, h⟩
      · rintro ⟨pre, post, hs, h⟩
        cases pre with
        | nil =>
            obtain rfl : c :: cs = post := hs
            exact .inl h
        | cons d pre => exact .inr ⟨pre, post, (List.cons.inj hs).2, h⟩

theorem minLength_le {w : List Char} (h : r.Accepts w) : r.minLength ≤ w.length := by
  induction r generalizing w with
  | epsilon => exact Nat.zero_le _
  | many p min max => exact h.2.1
  | seq a b iha ihb =>
      obtain ⟨u, v, rfl, hu, hv⟩ := h
      have ha := iha hu
      have hb := ihb hv
      rw [minLength, List.length_append]
      omega
  | alt a b iha ihb =>
      rw [minLength]
      rcases h with h | h
      · exact Nat.le_trans (Nat.min_le_left _ _) (iha h)
      · exact Nat.le_trans (Nat.min_le_right _ _) (ihb h)

theorem notMem_of_excludes {x : Char} (hx : r.excludes x = true) {w : List Char}
    (h : r.Accepts w) : x ∉ w := by
  induction r generalizing w with
  | epsilon =>
      obtain rfl : w = [] := h
      exact List.not_mem_nil
  | many p min max =>
      intro hmem
      rw [excludes, h.1 x hmem] at hx
      cases hx
  | seq a b iha ihb =>
      obtain ⟨u, v, rfl, hu, hv⟩ := h
      rw [excludes, Bool.and_eq_true] at hx
      rw [List.mem_append, not_or]
      exact ⟨iha hx.1 hu, ihb hx.2 hv⟩
  | alt a b iha ihb =>
      rw [excludes, Bool.and_eq_true] at hx
      rcases h with h | h
      · exact iha hx.1 h
      · exact ihb hx.2 h

/-- A text shorter than every word has no match. -/
theorem search_eq_false_of_length {s : List Char} (h : s.length < r.minLength) :
    r.search s = false := by
  refine Bool.eq_false_iff.2 fun hsearch => ?_
  obtain ⟨pre, post, rfl, w, rest, rfl, hw, -⟩ := search_iff.1 hsearch
  have hle := minLength_le hw
  simp only [List.length_append] at h
  omega

end Regex

/-! ## Replacement -/

/-- An expression that matches no empty text, as it is compiled for `sub`. -/
structure Pattern where
  regex : Regex
  consumes : 0 < regex.minLength := by decide

namespace Pattern

open Regex

variable (p : Pattern)

def search (s : List Char) : Bool := p.regex.search s

/-- `sub`; the first argument bounds the scan by the length of the text. -/
def subAux (new : List Char) : Nat → List Char → List Char
  | 0, s => s
  | _ + 1, [] => []
  | n + 1, c :: cs =>
      match (p.regex.rests (c :: cs)).head? with
      | some rest => new ++ subAux new n rest
      | none => c :: subAux new n cs

/-- `pattern.sub(new, s)`. -/
def sub (new s : List Char) : List Char := p.subAux new s.length s

theorem ne_nil_of_accepts {p : Pattern} {w : List Char} (h : p.regex.Accepts w) : w ≠ [] := by
  rintro rfl
  exact absurd p.consumes (Nat.not_lt.2 (minLength_le h))

end Pattern

/-- The text `t` is `s` with some words replaced by `new`: `cut` holds of each of them,
and `keep` of what follows from every character that was kept. -/
inductive Edited (keep cut : List Char → Prop) (new : List Char) : List Char → List Char → Prop
  | nil : Edited keep cut new [] []
  | keep {c : Char} {s t : List Char} (hkeep : keep (c :: s)) (h : Edited keep cut new s t) :
      Edited keep cut new (c :: s) (c :: t)
  | cut {w s t : List Char} (hcut : cut w) (h : Edited keep cut new s t) :
      Edited keep cut new (w ++ s) (new ++ t)

namespace Pattern

open Regex

variable {p : Pattern}

theorem edited_subAux (new : List Char) : ∀ (n : Nat) (s : List Char), s.length ≤ n →
    Edited (fun post => ¬ p.regex.Starts post) p.regex.Accepts new s (p.subAux new n s) := by
  intro n
  induction n with
  | zero =>
      intro s hs
      obtain rfl : s = [] := List.eq_nil_of_length_eq_zero (Nat.le_zero.1 hs)
      exact .nil
  | succ n ih =>
      intro s hs
      cases s with
      | nil => exact .nil
      | cons c cs =>
          rw [subAux]
          cases hhead : (p.regex.rests (c :: cs)).head? with
          | some rest =>
              obtain ⟨w, hw, haccepts⟩ := mem_rests.1 (List.mem_of_mem_head? hhead)
              have hlength : rest.length ≤ n := by
                have hpos := List.length_pos_iff.2 (ne_nil_of_accepts haccepts)
                rw [hw, List.length_append] at hs
                omega
              rw [hw]
              exact .cut haccepts (ih rest hlength)
          | none =>
              have hstarts : ¬ p.regex.Starts (c :: cs) := by
                rw [starts_iff_rests, List.head?_eq_none_iff.1 hhead]
                exact fun h => h rfl
              exact .keep hstarts (ih cs (Nat.le_of_succ_le_succ hs))

theorem edited_sub (new s : List Char) :
    Edited (fun post => ¬ p.regex.Starts post) p.regex.Accepts new s (p.sub new s) :=
  edited_subAux new s.length s (Nat.le_refl _)

theorem subAux_of_search (new : List Char) : ∀ (n : Nat) (s : List Char),
    p.search s = false → p.subAux new n s = s := by
  intro n
  induction n with
  | zero => intro s _; rfl
  | succ n ih =>
      intro s hs
      cases s with
      | nil => rfl
      | cons c cs =>
          have hno : ¬ (p.regex.Starts (c :: cs) ∨ p.regex.search cs = true) := by
            rw [← search_cons, Bool.not_eq_true]
            exact hs
          rw [not_or, Bool.not_eq_true] at hno
          have hrests : p.regex.rests (c :: cs) = [] := by
            refine Decidable.byContradiction fun hne => hno.1 ?_
            exact starts_iff_rests.2 hne
          rw [subAux, hrests]
          simp only [List.head?_nil]
          rw [ih cs hno.2]

/-- Without a match nothing is replaced. -/
theorem sub_of_search {new s : List Char} (h : p.search s = false) : p.sub new s = s :=
  subAux_of_search new s.length s h

example : ({ regex := .many Char.isDigit 2 none } : Pattern).sub ['#'] "a1b23c456".toList =
    "a1b#c#".toList := by decide

end Pattern

namespace Edited

open Regex

variable {keep cut : List Char → Prop} {new : List Char} {K : List Char → Prop} {r : Regex}

/-- What holds of an edited text held of the original. -/
def Reflects (keep cut : List Char → Prop) (new : List Char) (K : List Char → Prop) : Prop :=
  ∀ s t, Edited keep cut new s t → K t → K s

/-- `K` holds of no text that begins inside the replacement. -/
def Sealed (new : List Char) (K : List Char → Prop) : Prop :=
  ∀ u v t, new = u ++ v → v ≠ [] → ¬ K (v ++ t)

theorem keep_of_mem {s t : List Char} (h : Edited keep cut new s t) {x : Char} {new' : List Char}
    (hnew : new = x :: new') : ∀ {w rest : List Char}, t = w ++ rest → x ∉ w →
      ∃ rest', s = w ++ rest' ∧ Edited keep cut new rest' rest := by
  induction h with
  | nil =>
      intro w rest ht _
      obtain ⟨rfl, rfl⟩ := List.append_eq_nil_iff.1 ht.symm
      exact ⟨[], rfl, .nil⟩
  | @keep c s t hkeep h ih =>
      intro w rest ht hx
      cases w with
      | nil =>
          obtain rfl : c :: t = rest := ht
          exact ⟨c :: s, rfl, .keep hkeep h⟩
      | cons d w =>
          obtain ⟨rfl, ht'⟩ := List.cons.inj ht
          obtain ⟨rest', rfl, hrest⟩ := ih ht' fun hmem => hx (List.mem_cons_of_mem c hmem)
          exact ⟨rest', rfl, hrest⟩
  | @cut u s t hcut h ih =>
      intro w rest ht hx
      cases w with
      | nil =>
          obtain rfl : new ++ t = rest := ht
          exact ⟨u ++ s, rfl, .cut hcut h⟩
      | cons d w =>
          rw [hnew] at ht
          obtain ⟨rfl, -⟩ := List.cons.inj ht
          exact absurd List.mem_cons_self hx

/-- A piece that cannot touch the first character of the replacement stands in the
original as well. -/
theorem reflects_leads {x : Char} {new' : List Char} (hnew : new = x :: new')
    (hx : r.excludes x = true) (hK : Reflects keep cut new K) :
    Reflects keep cut new (r.Leads K) := by
  rintro s t h ⟨w, rest, ht, hw, hrest⟩
  obtain ⟨rest', hs, hedited⟩ := h.keep_of_mem hnew ht (notMem_of_excludes hx hw)
  exact ⟨w, rest', hs, hw, hK rest' rest hedited hrest⟩

/-- A run of characters passes over a replacement, and then over the word it stands
for. -/
theorem reflects_leads_many {p : Char → Bool} {min : Nat} (hmin : min ≤ 1)
    (hcut : ∀ w, cut w → w ≠ [] ∧ ∀ c ∈ w, p c = true) (hsealed : Sealed new K)
    (hK : Reflects keep cut new K) :
    Reflects keep cut new ((many p min none).Leads K) := by
  have hrun : ∀ {s t : List Char}, Edited keep cut new s t → ∀ w rest, t = w ++ rest →
      (∀ c ∈ w, p c = true) → K rest →
      ∃ w' rest', s = w' ++ rest' ∧ (∀ c ∈ w', p c = true) ∧ K rest' ∧ (w ≠ [] → w' ≠ []) := by
    intro s t h
    induction h with
    | nil =>
        intro w rest ht _ hrest
        obtain ⟨rfl, rfl⟩ := List.append_eq_nil_iff.1 ht.symm
        exact ⟨[], [], rfl, by simp, hrest, fun h => h⟩
    | @keep c s t hkeep h ih =>
        intro w rest ht hw hrest
        cases w with
        | nil =>
            obtain rfl : c :: t = rest := ht
            exact ⟨[], c :: s, rfl, by simp, hK _ _ (.keep hkeep h) hrest, fun h => h⟩
        | cons d w =>
            obtain ⟨rfl, ht'⟩ := List.cons.inj ht
            obtain ⟨w', rest', rfl, hw', hrest', -⟩ :=
              ih w rest ht' (fun d hd => hw d (List.mem_cons_of_mem c hd)) hrest
            refine ⟨c :: w', rest', rfl, ?_, hrest', by simp⟩
            intro d hd
            rcases List.mem_cons.1 hd with rfl | hd
            · exact hw d List.mem_cons_self
            · exact hw' d hd
    | @cut u s t hu h ih =>
        intro w rest ht hw hrest
        obtain ⟨hne, hp⟩ := hcut u hu
        rcases List.append_eq_append_iff.1 ht with ⟨w₂, rfl, ht'⟩ | ⟨v, hv, rfl⟩
        · obtain ⟨w', rest', rfl, hw', hrest', -⟩ :=
            ih w₂ rest ht' (fun d hd => hw d (List.mem_append_right new hd)) hrest
          refine ⟨u ++ w', rest', (List.append_assoc u w' rest').symm, ?_, hrest', ?_⟩
          · intro d hd
            rcases List.mem_append.1 hd with hd | hd
            · exact hp d hd
            · exact hw' d hd
          · intro _ hnil
            exact hne (List.append_eq_nil_iff.1 hnil).1
        · cases v with
          | nil =>
              -- the run ends where the replacement does
              refine ⟨u, s, rfl, hp, hK s t h hrest, fun _ => hne⟩
          | cons d v => exact absurd hrest (hsealed w (d :: v) t hv (List.cons_ne_nil d v))
  rintro s t h ⟨w, rest, ht, ⟨hw, hlength, -⟩, hrest⟩
  obtain ⟨w', rest', hs, hw', hrest', hne⟩ := hrun h w rest ht hw hrest
  refine ⟨w', rest', hs, ⟨hw', ?_, by simp⟩, hrest'⟩
  cases w with
  | nil => exact Nat.le_trans hlength (Nat.zero_le _)
  | cons d w => exact Nat.le_trans hmin (List.length_pos_iff.2 (hne (List.cons_ne_nil d w)))

/-- A word that does not have the last character of the replacement would end inside. -/
theorem sealed_leads {core : List Char} {y : Char} (hnew : new = core ++ [y])
    (hy : r.excludes y = true) (hcore : r.search core = false) : Sealed new (r.Leads K) := by
  rintro u v t huv hv ⟨w, rest, hw, haccepts, -⟩
  obtain ⟨v', y', hv'⟩ := (List.eq_nil_or_concat v).resolve_left hv
  rw [List.concat_eq_append] at hv'
  rw [hnew, hv', ← List.append_assoc] at huv
  obtain ⟨hcore', hy'⟩ := List.append_inj' huv rfl
  obtain rfl : y = y' := (List.cons.inj hy').1
  subst hv'
  have hnotMem := notMem_of_excludes hy haccepts
  rw [List.append_assoc] at hw
  have hstarts : r.Starts v' := by
    rcases List.append_eq_append_iff.1 hw with ⟨w', rfl, hw'⟩ | ⟨v'', rfl, hv''⟩
    · cases w' with
      | nil => exact ⟨v', [], (List.append_nil v').symm, by simpa using haccepts, trivial⟩
      | cons d w' =>
          obtain ⟨rfl, -⟩ := List.cons.inj hw'
          exact absurd (List.mem_append_right v' List.mem_cons_self) hnotMem
    · exact ⟨w, v'', rfl, haccepts, trivial⟩
  have hsearch : r.search core = true := search_iff.2 ⟨u, v', hcore', hstarts⟩
  rw [hcore] at hsearch
  cases hsearch

/-- An edit makes no match, where the original had none at what was kept. -/
theorem search_eq_false {s t : List Char} (h : Edited keep cut new s t)
    (hpos : 0 < r.minLength) (hkeep : ∀ post, post <:+ s → keep post → ¬ r.Starts post)
    (hsealed : Sealed new r.Starts) (hreflects : Reflects keep cut new r.Starts) :
    r.search t = false := by
  have hno : ∀ pre post, t = pre ++ post → ¬ r.Starts post := by
    induction h with
    | nil =>
        rintro pre post ht ⟨w, rest, rfl, hw, -⟩
        have hnil := (List.append_eq_nil_iff.1 ht.symm).2
        obtain ⟨rfl, -⟩ := List.append_eq_nil_iff.1 hnil
        exact absurd hpos (Nat.not_lt.2 (minLength_le hw))
    | @keep c s t hc h ih =>
        intro pre post ht
        cases pre with
        | nil =>
            obtain rfl : c :: t = post := ht
            intro hstarts
            exact hkeep (c :: s) (List.suffix_refl _) hc (hreflects _ _ (.keep hc h) hstarts)
        | cons d pre =>
            have hkeep' : ∀ post, post <:+ s → keep post → ¬ r.Starts post := fun post hpost =>
              hkeep post (hpost.trans (List.suffix_cons c s))
            exact ih hkeep' pre post (List.cons.inj ht).2
    | @cut u s t hu h ih =>
        have hkeep' : ∀ post, post <:+ s → keep post → ¬ r.Starts post := fun post hpost =>
          hkeep post (hpost.trans (List.suffix_append u s))
        intro pre post ht
        rcases List.append_eq_append_iff.1 ht with ⟨pre', rfl, ht'⟩ | ⟨v, hv, rfl⟩
        · exact ih hkeep' pre' post ht'
        · cases v with
          | nil => exact ih hkeep' [] _ rfl
          | cons d v => exact hsealed pre (d :: v) t hv (List.cons_ne_nil d v)
  refine Bool.eq_false_iff.2 fun hsearch => ?_
  obtain ⟨pre, post, ht, hstarts⟩ := search_iff.1 hsearch
  exact hno pre post ht hstarts

end Edited

namespace Pattern

open Regex Edited

variable {p q : Pattern} {new : List Char}

/-- Replacing the matches of `q` leaves no match of `p`, if `p` is `q` or had none. -/
theorem search_sub (hsealed : Sealed new p.regex.Starts)
    (hreflects : Reflects (fun post => ¬ q.regex.Starts post) q.regex.Accepts new p.regex.Starts)
    {s : List Char} (hbefore : q = p ∨ p.search s = false) : p.search (q.sub new s) = false := by
  refine (edited_sub new s).search_eq_false p.consumes ?_ hsealed hreflects
  intro post hpost hkeep hstarts
  rcases hbefore with rfl | hsearch
  · exact hkeep hstarts
  · obtain ⟨pre, rfl⟩ := hpost
    have hmatch := search_iff.2 ⟨pre, post, rfl, hstarts⟩
    rw [← search, hsearch] at hmatch
    cases hmatch

theorem search_foldl_of_keeps {patterns : List Pattern}
    (hkeeps : ∀ q ∈ patterns, ∀ s, p.search s = false → p.search (q.sub new s) = false) :
    ∀ {s : List Char}, p.search s = false →
      p.search (patterns.foldl (fun result q => q.sub new result) s) = false := by
  induction patterns with
  | nil => intro s hs; exact hs
  | cons q patterns ih =>
      intro s hs
      rw [List.foldl_cons]
      exact ih (fun q' hq' => hkeeps q' (List.mem_cons_of_mem q hq'))
        (hkeeps q List.mem_cons_self s hs)

/-- After one replacement for each pattern none of them matches, if each replacement
removes its own matches and makes none of the patterns before. -/
theorem search_foldl {patterns : List Pattern}
    (hclears : ∀ p ∈ patterns, ∀ s, p.search (p.sub new s) = false)
    (hkeeps : patterns.Pairwise fun p q =>
      ∀ s, p.search s = false → p.search (q.sub new s) = false) :
    ∀ s, ∀ p ∈ patterns,
      p.search (patterns.foldl (fun result q => q.sub new result) s) = false := by
  induction patterns with
  | nil => intro s p hp; cases hp
  | cons q patterns ih =>
      obtain ⟨hq, htail⟩ := List.pairwise_cons.1 hkeeps
      intro s p hp
      rw [List.foldl_cons]
      rcases List.mem_cons.1 hp with rfl | hp
      · exact search_foldl_of_keeps hq (hclears p List.mem_cons_self s)
      · exact ih (fun p' hp' => hclears p' (List.mem_cons_of_mem q hp')) htail _ p hp

/-- Where none of the patterns matches, nothing is replaced. -/
theorem foldl_of_search {patterns : List Pattern} {s : List Char}
    (h : ∀ p ∈ patterns, p.search s = false) :
    patterns.foldl (fun result q => q.sub new result) s = s := by
  induction patterns with
  | nil => rfl
  | cons q patterns ih =>
      rw [List.foldl_cons, sub_of_search (h q List.mem_cons_self)]
      exact ih fun p hp => h p (List.mem_cons_of_mem q hp)

end Pattern

end Iara.Lib
