import Iara.Lib.PyStr
import Iara.Lib.Regex
import Iara.Lib.WordRegex

/-!
# The content filter

`content_filter.py`: a file of blocked terms, read into one regular expression, and the
search for it in a text.  Both sides are normalized the same way; what is proved holds
for every choice of the Unicode tables.
-/

namespace Iara.Security

open Iara.Lib

/-- `unicodedata.normalize("NFD", s)`, the category `Mn`, `str.lower` and `\w`. -/
structure NormalizationTables where
  nfd : String → String
  isMn : Char → Bool
  lower : String → String
  isWord : Char → Bool
  nfd_empty : nfd "" = ""
  lower_empty : lower "" = ""

/-- Tables of ASCII alone, to run with. -/
def asciiNormalization : NormalizationTables where
  nfd s := s
  isMn _ := false
  lower s := String.ofList (s.toList.map Char.toLower)
  isWord c := c.isAlphanum || c == '_'
  nfd_empty := rfl
  lower_empty := rfl

/-- `\s+` -/
def whitespace : Pattern where
  regex := .many PyStr.isSpace 1 none

variable (tables : NormalizationTables)

/-- `_normalize` -/
def normalize (text : String) : String :=
  let stripped := String.ofList ((tables.nfd text).toList.filter fun c => !tables.isMn c)
  PyStr.strip (String.ofList (whitespace.sub [' '] (tables.lower stripped).toList))

/-- The entry of a line; comments and lines of white space have none. -/
def entryOf (rawLine : String) : Option String :=
  let line := PyStr.strip rawLine
  if !PyStr.truthy line || PyStr.startsWith line "#" then none
  else
    let normalized := normalize tables line
    if PyStr.truthy normalized then some normalized else none

/-- `_load_entries`; a file that does not exist is `none`. -/
def loadEntries : Option String → List String
  | none => []
  | some content => (PyStr.splitlines content).filterMap (entryOf tables)

/-- An entry of one word gets a `\b` on either side. -/
def part (entry : String) : WordRegex :=
  if PyStr.contains entry " " then .literal entry.toList else .wholeWord entry.toList

/-- `_compile_pattern` -/
def compilePattern : List String → Option WordRegex
  | [] => none
  | entry :: entries => some (.oneOf (part entry) (entries.map part))

structure ContentFilter where
  pattern : Option WordRegex

namespace ContentFilter

/-- `_load`, at the start and at every `reload`. -/
def load (file : Option String) : ContentFilter where
  pattern := compilePattern (loadEntries tables file)

def containsBlockedContent (filter : ContentFilter) (text : String) : Bool :=
  match PyStr.truthy text, filter.pattern with
  | true, some pattern => pattern.search tables.isWord (normalize tables text).toList
  | _, _ => false

end ContentFilter

/-! ## What is loaded and compiled -/

variable {tables} {entries : List String} {entry : String} {file : Option String}

theorem normalize_empty : normalize tables "" = "" := by
  unfold normalize
  rw [tables.nfd_empty, String.toList_empty, List.filter_nil, String.ofList_nil]
  show PyStr.strip (String.ofList (whitespace.sub [' '] (tables.lower "").toList)) = ""
  rw [tables.lower_empty]
  rfl

theorem ne_empty_of_mem_loadEntries (h : entry ∈ loadEntries tables file) : entry ≠ "" := by
  cases file with
  | none => cases h
  | some content =>
      obtain ⟨rawLine, -, hentry⟩ := List.mem_filterMap.1 h
      unfold entryOf at hentry
      simp only at hentry
      split at hentry
      next => cases hentry
      next =>
        split at hentry
        next htruthy =>
          obtain rfl := Option.some.inj hentry
          simpa [PyStr.truthy] using htruthy
        next => cases hentry

/-- The compiled pattern finds what the part of one of the entries finds. -/
theorem compilePattern_search_iff {isWord : Char → Bool} {text : List Char} :
    (∃ pattern ∈ compilePattern entries, pattern.search isWord text = true) ↔
      ∃ entry ∈ entries, (part entry).search isWord text = true := by
  cases entries with
  | nil => simp [compilePattern]
  | cons entry entries =>
      simp only [compilePattern, Option.mem_def, Option.some.injEq, exists_eq_left']
      rw [WordRegex.search_iff]
      constructor
      · rintro ⟨pre, w, rest, htext, hmatch⟩
        obtain ⟨r, hr, hw⟩ := WordRegex.matches_oneOf_iff.1 hmatch
        rw [← List.map_cons] at hr
        obtain ⟨entry', hentry, rfl⟩ := List.mem_map.1 hr
        exact ⟨entry', hentry, WordRegex.search_iff.2 ⟨pre, w, rest, htext, hw⟩⟩
      · rintro ⟨entry', hentry, hsearch⟩
        obtain ⟨pre, w, rest, htext, hw⟩ := WordRegex.search_iff.1 hsearch
        refine ⟨pre, w, rest, htext, WordRegex.matches_oneOf_iff.2 ⟨part entry', ?_, hw⟩⟩
        rw [← List.map_cons]
        exact List.mem_map_of_mem hentry

/-! ## What a part finds -/

/-- An entry of several words is found wherever it occurs. -/
theorem search_part_of_phrase {isWord : Char → Bool} {text : List Char}
    (hphrase : PyStr.contains entry " " = true) :
    (part entry).search isWord text = true ↔ entry.toList <:+: text := by
  unfold part
  rw [if_pos hphrase, WordRegex.search_iff]
  constructor
  · rintro ⟨pre, w, rest, rfl, hw⟩
    obtain rfl := WordRegex.matches_literal_iff.1 hw
    exact ⟨pre, rest, List.append_assoc pre _ rest⟩
  · rintro ⟨pre, rest, rfl⟩
    exact ⟨pre, entry.toList, rest, List.append_assoc pre _ rest,
      WordRegex.matches_literal_iff.2 rfl⟩

/-- An entry of one word that begins and ends with word characters is found where it
stands alone. -/
theorem search_part_of_word {isWord : Char → Bool} {text : List Char}
    (hphrase : PyStr.contains entry " " = false)
    (hended : WordRegex.WordEnded isWord entry.toList) :
    (part entry).search isWord text = true ↔
      ∃ before after, text = before ++ (entry.toList ++ after) ∧
        WordRegex.Apart isWord before after := by
  unfold part
  rw [if_neg (ne_true_of_eq_false hphrase), WordRegex.search_iff]
  constructor
  · rintro ⟨pre, w, rest, htext, hw⟩
    obtain ⟨rfl, hapart⟩ := (WordRegex.matches_wholeWord_iff hended).1 hw
    exact ⟨pre, rest, htext, hapart⟩
  · rintro ⟨pre, rest, htext, hapart⟩
    exact ⟨pre, entry.toList, rest, htext,
      (WordRegex.matches_wholeWord_iff hended).2 ⟨rfl, hapart⟩⟩

/-- Where a part is found, its entry occurs. -/
theorem infix_of_search_part {isWord : Char → Bool} {text : List Char}
    (h : (part entry).search isWord text = true) : entry.toList <:+: text := by
  cases hphrase : PyStr.contains entry " " with
  | true => exact (search_part_of_phrase hphrase).1 h
  | false =>
      unfold part at h
      rw [if_neg (ne_true_of_eq_false hphrase), WordRegex.search_iff] at h
      obtain ⟨pre, w, rest, rfl, hw⟩ := h
      obtain ⟨rfl, -⟩ := WordRegex.matches_wholeWord.1 hw
      exact ⟨pre, rest, List.append_assoc pre _ rest⟩

/-- A text is blocked exactly where the part of one of the entries is found in it. -/
theorem containsBlockedContent_iff {text : String} :
    (ContentFilter.load tables file).containsBlockedContent tables text = true ↔
      ∃ entry ∈ loadEntries tables file,
        (part entry).search tables.isWord (normalize tables text).toList = true := by
  rw [← compilePattern_search_iff]
  unfold ContentFilter.containsBlockedContent ContentFilter.load
  simp only
  cases htruthy : PyStr.truthy text with
  | true => cases compilePattern (loadEntries tables file) <;> simp
  | false =>
      have hempty : text = "" := by simpa [PyStr.truthy] using htruthy
      rw [hempty, normalize_empty, compilePattern_search_iff]
      constructor
      · intro h
        cases h
      · rintro ⟨entry, hentry, hsearch⟩
        have hnil : entry.toList = [] := by
          simpa using infix_of_search_part hsearch
        exact absurd (String.toList_eq_nil_iff.1 hnil) (ne_empty_of_mem_loadEntries hentry)

end Iara.Security
