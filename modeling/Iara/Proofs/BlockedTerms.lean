import Iara.Security.ContentFilter

/-!
# Blocked terms

An entry of one word is matched as a whole term; an entry of several words is matched
as it is, also inside longer words.  `\b` looks for an edge of a word, so what it does
around an entry of one word that begins or ends with another character is left open.
-/

namespace Iara.Security

open Iara.Lib

/-- The entry has several words. -/
def IsPhrase (entry : String) : Prop := PyStr.contains entry " " = true

instance (entry : String) : Decidable (IsPhrase entry) := inferInstanceAs (Decidable (_ = _))

def Occurs (entry text : String) : Prop := entry.toList <:+: text.toList

/-- The entry occurs at a place where no word character stands before or after it. -/
def OccursWhole (tables : NormalizationTables) (entry text : String) : Prop :=
  ∃ before after, text.toList = before ++ (entry.toList ++ after) ∧
    WordRegex.Apart tables.isWord before after

/-- The entry begins and ends with word characters. -/
def IsWordEnded (tables : NormalizationTables) (entry : String) : Prop :=
  WordRegex.WordEnded tables.isWord entry.toList

/-- A phrase occurs in the text, or a word-ended entry of one word stands alone in it. -/
def Names (tables : NormalizationTables) (entry text : String) : Prop :=
  IsPhrase entry ∧ Occurs entry text ∨
    ¬ IsPhrase entry ∧ IsWordEnded tables entry ∧ OccursWhole tables entry text

/-- An entry of one word that begins or ends with another character occurs in the text. -/
def NamesOddly (tables : NormalizationTables) (entry text : String) : Prop :=
  ¬ IsPhrase entry ∧ ¬ IsWordEnded tables entry ∧ Occurs entry text

variable {tables : NormalizationTables} {entry text : String}

/-- For every entry but the odd ones, the part finds what the entry names. -/
theorem search_part_cases :
    (Names tables entry text → (part entry).search tables.isWord text.toList = true) ∧
      ((part entry).search tables.isWord text.toList = true →
        Names tables entry text ∨ NamesOddly tables entry text) := by
  by_cases hphrase : IsPhrase entry
  · rw [search_part_of_phrase hphrase]
    constructor
    · rintro (⟨-, hoccurs⟩ | ⟨hnot, -⟩)
      · exact hoccurs
      · exact absurd hphrase hnot
    · exact fun hoccurs => .inl (.inl ⟨hphrase, hoccurs⟩)
  · have hword : PyStr.contains entry " " = false := Bool.eq_false_iff.2 hphrase
    by_cases hended : IsWordEnded tables entry
    · rw [search_part_of_word hword hended]
      constructor
      · rintro (⟨hnot, -⟩ | ⟨-, -, hwhole⟩)
        · exact absurd hnot hphrase
        · exact hwhole
      · exact fun hwhole => .inl (.inr ⟨hphrase, hended, hwhole⟩)
    · constructor
      · rintro (⟨hnot, -⟩ | ⟨-, hnot, -⟩)
        · exact absurd hnot hphrase
        · exact absurd hnot hended
      · exact fun hsearch => .inr ⟨hphrase, hended, infix_of_search_part hsearch⟩

/-- A text is blocked wherever its normal form has a phrase of the blocklist, or a
word-ended entry of one word that stands alone; and only there, up to the odd entries. -/
theorem blocked_spec (tables : NormalizationTables) (file : Option String) (text : String) :
    ((∃ entry ∈ loadEntries tables file, Names tables entry (normalize tables text)) →
        (ContentFilter.load tables file).containsBlockedContent tables text = true) ∧
      ((ContentFilter.load tables file).containsBlockedContent tables text = true →
        ∃ entry ∈ loadEntries tables file, Names tables entry (normalize tables text) ∨
          NamesOddly tables entry (normalize tables text)) := by
  rw [containsBlockedContent_iff]
  constructor
  · rintro ⟨entry, hentry, hnames⟩
    exact ⟨entry, hentry, search_part_cases.1 hnames⟩
  · rintro ⟨entry, hentry, hsearch⟩
    exact ⟨entry, hentry, search_part_cases.2 hsearch⟩

/-- The phrase "te mato" is found in "te matou", where a word character follows it. -/
theorem phrase_inside_word :
    (ContentFilter.load asciiNormalization (some "# insultos\nte mato\n")).containsBlockedContent
        asciiNormalization "Ele te matou" = true ∧
      ¬ ∃ entry ∈ loadEntries asciiNormalization (some "# insultos\nte mato\n"),
        OccursWhole asciiNormalization entry (normalize asciiNormalization "Ele te matou") := by
  have hentries : loadEntries asciiNormalization (some "# insultos\nte mato\n") = ["te mato"] := by
    decide +kernel
  have hnormal : normalize asciiNormalization "Ele te matou" = "ele te matou" := by
    decide +kernel
  -- wherever the phrase occurs, a word character follows
  have hfollowed : ∀ i ≤ 12, ("ele te matou".toList.drop i).take 7 = "te mato".toList →
      ("ele te matou".toList.drop (i + 7)).head?.any asciiNormalization.isWord = true := by
    decide +kernel
  refine ⟨by decide +kernel, ?_⟩
  rw [hentries, hnormal]
  rintro ⟨entry, hentry, before, after, htext, -, hafter⟩
  obtain rfl := List.mem_singleton.1 hentry
  have hlength : before.length ≤ 12 := by
    have hlen := congrArg List.length htext
    rw [List.length_append, show "ele te matou".toList.length = 12 from by decide] at hlen
    omega
  have hword := hfollowed before.length hlength
  rw [← List.drop_drop, htext, List.drop_left,
    show 7 = "te mato".toList.length from by decide, List.take_left, List.drop_left] at hword
  rw [WordRegex.any_eq_false_iff.2 hafter] at hword
  exact Bool.false_ne_true (hword rfl)

end Iara.Security
