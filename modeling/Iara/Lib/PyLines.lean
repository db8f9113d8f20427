import Iara.Lib.PyStr
import Mathlib.Data.List.Infix

/-!
# Lines and case

What a search finds in a text, line by line, and how `str.lower` acts on the
lines.  Nothing is assumed of the case tables but that white space stands for
itself and separates what is around it, and that ASCII is mapped as ASCII.
-/

namespace Iara.Lib

/-- `str.lower` across white space and on ASCII. -/
structure PyText.LowersWords (text : PyText) : Prop where
  space : ∀ (before after : List Char) (c : Char), PyStr.isSpace c = true →
    text.lower (String.ofList (before ++ c :: after)) =
      String.ofList ((text.lower (String.ofList before)).toList ++
        c :: (text.lower (String.ofList after)).toList)
  ascii : ∀ cs : List Char, (∀ c ∈ cs, c.toNat < 128) →
    text.lower (String.ofList cs) = String.ofList (cs.map Char.toLower)

/-- The tables of ASCII text, to run with. -/
def asciiText : PyText where
  lower s := String.ofList (s.toList.map Char.toLower)
  upper s := String.ofList (s.toList.map Char.toUpper)
  repr s := "'" ++ s ++ "'"

theorem toLower_of_isSpace {c : Char} (h : PyStr.isSpace c = true) : c.toLower = c := by
  have hupper : ¬ (65 ≤ c.toNat ∧ c.toNat ≤ 90) := by
    intro hrange
    simp only [PyStr.isSpace, Bool.or_eq_true, Bool.and_eq_true, decide_eq_true_eq,
      beq_iff_eq] at h
    omega
  exact dif_neg fun hletter => hupper ⟨hletter.1, hletter.2⟩

theorem asciiText_lowersWords : asciiText.LowersWords where
  space before after c hc := by
    simp [asciiText, toLower_of_isSpace hc]
  ascii cs _ := by simp [asciiText]

namespace PyStr

/-! ## Search -/

theorem occursIn_iff {sub cs : List Char} : occursIn sub cs = true ↔ sub <:+: cs := by
  induction cs with
  | nil => simp [occursIn, List.isEmpty_iff]
  | cons c cs ih =>
      rw [occursIn, Bool.or_eq_true, List.isPrefixOf_iff_prefix, ih, List.infix_cons_iff]

theorem contains_iff {s sub : String} : contains s sub = true ↔ sub.toList <:+: s.toList :=
  occursIn_iff

/-- A text without the separator lies on one side of it. -/
theorem infix_separated_iff {sub before after : List Char} {c : Char} (hc : c ∉ sub)
    (hne : sub ≠ []) : sub <:+: before ++ c :: after ↔ sub <:+: before ∨ sub <:+: after := by
  constructor
  · intro h
    rcases List.infix_append_iff_ne_nil.mp h with hleft | hright | ⟨l₁, l₂, -, hne₂, rfl, -, hstart⟩
    · exact .inl hleft
    · rcases List.infix_cons_iff.mp hright with hstart | hright
      · cases sub with
        | nil => exact absurd rfl hne
        | cons d sub =>
            obtain rfl := (List.cons_prefix_cons.mp hstart).1
            exact absurd List.mem_cons_self hc
      · exact .inr hright
    · -- the part right of the cut would start with the separator
      cases l₂ with
      | nil => exact absurd rfl hne₂
      | cons d l₂ =>
          obtain rfl := (List.cons_prefix_cons.mp hstart).1
          exact absurd (List.mem_append_right _ List.mem_cons_self) hc
  · rintro (h | h)
    · exact List.infix_append_of_infix_left h
    · exact List.infix_append_of_infix_right (h.trans (List.infix_cons List.infix_rfl))

/-! ## Lines -/

theorem join_newline_cons (line : String) (rest : List String) (hne : rest ≠ []) :
    (join "\n" (line :: rest)).toList = line.toList ++ '\n' :: (join "\n" rest).toList := by
  obtain ⟨next, more, rfl⟩ := List.exists_cons_of_ne_nil hne
  simp [join]

theorem splitAux_ne_nil (p : Char → Bool) (acc cs : List Char) : splitAux p acc cs ≠ [] := by
  induction cs generalizing acc with
  | nil => simp [splitAux]
  | cons c cs ih =>
      unfold splitAux
      split
      · simp
      · exact ih _

/-- `"\n".join(s.split("\n"))`. -/
theorem join_splitAux (acc cs : List Char) :
    (join "\n" ((splitAux (· == '\n') acc cs).map String.ofList)).toList = acc.reverse ++ cs := by
  induction cs generalizing acc with
  | nil => simp [splitAux, join]
  | cons c cs ih =>
      unfold splitAux
      by_cases hc : c = '\n'
      · subst hc
        rw [if_pos (by decide), List.map_cons,
          join_newline_cons _ _ (by simpa using splitAux_ne_nil _ _ _), ih]
        simp
      · rw [if_neg (by simpa using hc), ih]
        simp

theorem join_lines (s : String) : join "\n" (lines s) = s := by
  apply String.toList_inj.mp
  exact join_splitAux [] s.toList

/-! ## What is cut off a text -/

theorem mem_trimEnds {p : Char → Bool} {cs : List Char} {c : Char} (h : c ∈ trimEnds p cs) :
    c ∈ cs := by
  unfold trimEnds at h
  have hright := (List.dropWhile_suffix p).subset (List.mem_reverse.1 h)
  exact (List.dropWhile_suffix p).subset (List.mem_reverse.1 hright)

theorem mem_strip {s : String} {c : Char} (h : c ∈ (strip s).toList) : c ∈ s.toList := by
  unfold strip at h
  rw [String.toList_ofList] at h
  exact mem_trimEnds h

theorem mem_slice {s : String} {n : Nat} {c : Char} (h : c ∈ (slice s n).toList) :
    c ∈ s.toList := by
  unfold slice at h
  rw [String.toList_ofList] at h
  exact List.mem_of_mem_take h

theorem mem_sliceFrom {s : String} {n : Nat} {c : Char} (h : c ∈ (sliceFrom s n).toList) :
    c ∈ s.toList := by
  unfold sliceFrom at h
  rw [String.toList_ofList] at h
  exact List.mem_of_mem_drop h

theorem length_slice (s : String) (n : Nat) : (slice s n).length = min n s.length := by
  unfold slice
  rw [String.length_ofList, List.length_take, String.length_toList]

theorem isLineBreak_of_mem_splitlinesAux {acc cs line : List Char}
    (hacc : ∀ c ∈ acc, isLineBreak c = false) (h : line ∈ splitlinesAux acc cs) :
    ∀ c ∈ line, isLineBreak c = false := by
  have hreverse : ∀ c ∈ acc.reverse, isLineBreak c = false := by
    intro c hc
    exact hacc c (List.mem_reverse.1 hc)
  induction acc, cs using splitlinesAux.induct with
  | case1 => cases h
  | case2 acc hne =>
      rw [splitlinesAux] at h
      · rw [List.mem_singleton.1 h]
        exact hreverse
      · exact hne
  | case3 acc cs ih =>
      rw [splitlinesAux] at h
      rcases List.mem_cons.1 h with rfl | h
      · exact hreverse
      · exact ih (List.forall_mem_nil _) h (List.forall_mem_nil _)
  | case4 acc c cs hnot hbreak ih =>
      rw [splitlinesAux, if_pos hbreak] at h
      · rcases List.mem_cons.1 h with rfl | h
        · exact hreverse
        · exact ih (List.forall_mem_nil _) h (List.forall_mem_nil _)
      · exact hnot
  | case5 acc c cs hnot hbreak ih =>
      rw [splitlinesAux, if_neg hbreak] at h
      · have hkept : ∀ d ∈ c :: acc, isLineBreak d = false :=
          List.forall_mem_cons.2 ⟨by simpa using hbreak, hacc⟩
        exact ih hkept h fun d hd => hkept d (List.mem_reverse.1 hd)
      · exact hnot

/-- No line of `splitlines` has a line break. -/
theorem isLineBreak_of_mem_splitlines {s line : String} (h : line ∈ splitlines s) :
    ∀ c ∈ line.toList, isLineBreak c = false := by
  obtain ⟨cs, hcs, rfl⟩ := List.mem_map.1 h
  rw [String.toList_ofList]
  exact isLineBreak_of_mem_splitlinesAux (List.forall_mem_nil _) hcs

variable {text : PyText} {sub : List Char}

theorem lower_join_cons (hlower : text.LowersWords) (line : String) (rest : List String)
    (hne : rest ≠ []) :
    (text.lower (join "\n" (line :: rest))).toList =
      (text.lower line).toList ++ '\n' :: (text.lower (join "\n" rest)).toList := by
  have hjoin : join "\n" (line :: rest) =
      String.ofList (line.toList ++ '\n' :: (join "\n" rest).toList) := by
    apply String.toList_inj.mp
    rw [join_newline_cons _ _ hne, String.toList_ofList]
  rw [hjoin, hlower.space _ _ _ (by decide), String.toList_ofList, String.ofList_toList,
    String.ofList_toList]

/-- A text without a line break is found in a joined text where it is found in
one of the lines. -/
theorem infix_lower_join_iff (hlower : text.LowersWords) (hbreak : '\n' ∉ sub) (hne : sub ≠ [])
    (parts : List String) :
    sub <:+: (text.lower (join "\n" parts)).toList ↔
      ∃ line ∈ parts, sub <:+: (text.lower line).toList := by
  induction parts with
  | nil =>
      have hempty : (text.lower (join "\n" [])).toList = [] := by
        have hnil := hlower.ascii [] (by simp)
        simpa [join] using congrArg String.toList hnil
      rw [hempty]
      simpa using hne
  | cons line rest ih =>
      by_cases hrest : rest = []
      · simp [hrest, join]
      · rw [lower_join_cons hlower line rest hrest, infix_separated_iff hbreak hne, ih]
        simp only [List.mem_cons, exists_eq_or_imp]

/-! ## Stripping -/

theorem lower_space_cons (hlower : text.LowersWords) {c : Char} (hc : isSpace c = true)
    (cs : List Char) :
    (text.lower (String.ofList (c :: cs))).toList =
      c :: (text.lower (String.ofList cs)).toList := by
  have h := hlower.space [] cs c hc
  rw [hlower.ascii [] (by simp)] at h
  simpa using congrArg String.toList h

theorem lower_concat_space (hlower : text.LowersWords) {c : Char} (hc : isSpace c = true)
    (cs : List Char) :
    (text.lower (String.ofList (cs ++ [c]))).toList =
      (text.lower (String.ofList cs)).toList ++ [c] := by
  have h := hlower.space cs [] c hc
  rw [hlower.ascii [] (by simp)] at h
  simpa using congrArg String.toList h

theorem lower_dropWhile_isInfix (hlower : text.LowersWords) (cs : List Char) :
    (text.lower (String.ofList (cs.dropWhile isSpace))).toList <:+:
      (text.lower (String.ofList cs)).toList := by
  induction cs with
  | nil => exact List.infix_rfl
  | cons c cs ih =>
      rw [List.dropWhile_cons]
      by_cases hc : isSpace c = true
      · rw [if_pos hc, lower_space_cons hlower hc]
        exact ih.trans (List.infix_cons List.infix_rfl)
      · rw [if_neg hc]

theorem lower_rdropWhile_isInfix (hlower : text.LowersWords) (cs : List Char) :
    (text.lower (String.ofList (cs.reverse.dropWhile isSpace).reverse)).toList <:+:
      (text.lower (String.ofList cs)).toList := by
  induction cs using List.reverseRecOn with
  | nil => exact List.infix_rfl
  | append_singleton cs c ih =>
      rw [List.reverse_concat, List.dropWhile_cons]
      by_cases hc : isSpace c = true
      · rw [if_pos hc, lower_concat_space hlower hc]
        exact List.infix_append_of_infix_left ih
      · rw [if_neg hc, ← List.reverse_concat, List.reverse_reverse]

/-- What a stripped text contains, the text contains. -/
theorem lower_strip_infix (hlower : text.LowersWords) (s : String) :
    (text.lower (strip s)).toList <:+: (text.lower s).toList := by
  have h := (lower_rdropWhile_isInfix hlower (s.toList.dropWhile isSpace)).trans
    (lower_dropWhile_isInfix hlower s.toList)
  rwa [String.ofList_toList] at h

end PyStr

end Iara.Lib
