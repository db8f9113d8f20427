import Iara.Lib.JsonPath
import Iara.Security.Redaction

/-!
# Redacted values

No pattern matches what `redact_string` returns.  Five of the six patterns match no
bracket and nothing as short as the placeholder, so no replacement makes a match of
them; the one of URLs runs across placeholders, and across the URLs and blobs they
stand for.
-/

namespace Iara.Security

open Iara.Lib Iara.Lib.Regex Iara.Lib.Edited

/-! ## The placeholder -/

abbrev placeholder : List Char := redactedPlaceholder.toList

def placeholderCore : List Char := "[REDACTED".toList

theorem placeholder_eq_cons : placeholder = '[' :: "REDACTED]".toList := by decide

theorem placeholder_eq_append : placeholder = placeholderCore ++ [']'] := by decide

/-- A piece that has no bracket, and of which the placeholder holds no word. -/
structure Solid (r : Regex) : Prop where
  opening : r.excludes '[' = true
  closing : r.excludes ']' = true
  core : r.search placeholderCore = false

variable {keep cut : List Char → Prop} {K : List Char → Prop} {r : Regex}

theorem Solid.reflects (h : Solid r) (hK : Reflects keep cut placeholder K) :
    Reflects keep cut placeholder (r.Leads K) :=
  reflects_leads placeholder_eq_cons h.opening hK

theorem Solid.sealed (h : Solid r) : Sealed placeholder (r.Leads K) :=
  sealed_leads placeholder_eq_append h.closing h.core

theorem solid_of_length (hopening : r.excludes '[' = true) (hclosing : r.excludes ']' = true)
    (hlength : placeholderCore.length < r.minLength) : Solid r :=
  ⟨hopening, hclosing, search_eq_false_of_length hlength⟩

/-! ## The patterns -/

variable {tables : UnicodeTables}

theorem isDecimal_opening (tables : UnicodeTables) : tables.isDecimal '[' = false :=
  tables.isDecimal_ascii '[' (by decide)

theorem isDecimal_closing (tables : UnicodeTables) : tables.isDecimal ']' = false :=
  tables.isDecimal_ascii ']' (by decide)

theorem solid_anthropicKey : Solid anthropicKey.regex :=
  solid_of_length (by decide) (by decide) (by decide)

theorem solid_bearerToken : Solid bearerToken.regex :=
  solid_of_length (by decide) (by decide) (by decide)

theorem solid_brazilianPhone : Solid (brazilianPhone tables).regex := by
  refine solid_of_length ?_ ?_ (by decide : 9 < 12)
  · simp only [brazilianPhone, Regex.concat, Regex.optional, excludes, isDecimal_opening]
    decide
  · simp only [brazilianPhone, Regex.concat, Regex.optional, excludes, isDecimal_closing]
    decide

theorem solid_brazilianCpf : Solid (brazilianCpf tables).regex := by
  refine solid_of_length ?_ ?_ (by decide : 9 < 11)
  · simp only [brazilianCpf, Regex.concat, Regex.optional, excludes, isDecimal_opening]
    decide
  · simp only [brazilianCpf, Regex.concat, Regex.optional, excludes, isDecimal_closing]
    decide

theorem solid_base64Blob : Solid base64Blob.regex :=
  solid_of_length (by decide) (by decide) (by decide)

theorem solid_urlScheme : Solid urlScheme := ⟨by decide, by decide, by decide⟩

theorem solid_urlSecret : Solid urlSecret := ⟨by decide, by decide, by decide⟩

theorem solid_questionMark : Solid (Regex.set (· == '?')) := ⟨by decide, by decide, by decide⟩

/-! ## Runs over the placeholder -/

/-- The characters of `str.isspace`. -/
def spaces : List Char :=
  [0x09, 0x0a, 0x0b, 0x0c, 0x0d, 0x1c, 0x1d, 0x1e, 0x1f, 0x20, 0x85, 0xa0, 0x1680, 0x2000, 0x2001,
    0x2002, 0x2003, 0x2004, 0x2005, 0x2006, 0x2007, 0x2008, 0x2009, 0x200a, 0x2028, 0x2029, 0x202f,
    0x205f, 0x3000].map Char.ofNat

theorem mem_spaces {c : Char} (h : PyStr.isSpace c = true) : c ∈ spaces := by
  refine List.mem_map.2 ⟨c.toNat, ?_, Char.ofNat_toNat c⟩
  simp only [PyStr.isSpace, Bool.or_eq_true, Bool.and_eq_true, decide_eq_true_eq, beq_iff_eq] at h
  simp only [List.mem_cons, List.not_mem_nil, or_false]
  omega

/-- What a pattern without whitespace matches is passed over by a run of a URL. -/
theorem notSpace_of_accepts {p : Pattern} (hspaces : spaces.all p.regex.excludes = true)
    {w : List Char} (h : p.regex.Accepts w) : w ≠ [] ∧ ∀ c ∈ w, notSpace c = true := by
  refine ⟨Pattern.ne_nil_of_accepts h, ?_⟩
  intro c hc
  cases hspace : PyStr.isSpace c with
  | false => simp [notSpace, hspace]
  | true =>
      have hexcludes := List.all_eq_true.1 hspaces c (mem_spaces hspace)
      exact absurd hc (notMem_of_excludes hexcludes h)

theorem notSpace_signedUrl {w : List Char} (h : signedUrl.regex.Accepts w) :
    w ≠ [] ∧ ∀ c ∈ w, notSpace c = true :=
  notSpace_of_accepts (by decide) h

theorem notSpace_base64Blob {w : List Char} (h : base64Blob.regex.Accepts w) :
    w ≠ [] ∧ ∀ c ∈ w, notSpace c = true :=
  notSpace_of_accepts (by decide) h

/-- A URL in an edited text was one in the original, where what was replaced has no
whitespace. -/
theorem reflects_signedUrl (hcut : ∀ w, cut w → w ≠ [] ∧ ∀ c ∈ w, notSpace c = true) :
    Reflects keep cut placeholder signedUrl.regex.Starts := by
  have htail : Reflects keep cut placeholder ((many notSpace 0 none).Leads fun _ => True) := by
    intro s t h htail
    exact ⟨[], s, rfl, ⟨by simp, Nat.zero_le _, by simp⟩, trivial⟩
  have hsecret := solid_urlSecret.reflects htail
  have hrun := reflects_leads_many (Nat.zero_le 1) hcut solid_urlSecret.sealed hsecret
  have hmark := solid_questionMark.reflects hrun
  have hhost := reflects_leads_many (Nat.le_refl 1) hcut solid_questionMark.sealed hmark
  have hscheme := solid_urlScheme.reflects hhost
  simpa only [signedUrl, Regex.concat, Starts, leads_seq, leads_epsilon] using hscheme

theorem sealed_signedUrl : Sealed placeholder signedUrl.regex.Starts := by
  simp only [signedUrl, Regex.concat, Starts, leads_seq, leads_epsilon]
  exact solid_urlScheme.sealed

/-! ## Strings -/

theorem search_sub_of_solid {p q : Pattern} (h : Solid p.regex) (s : List Char)
    (hbefore : q = p ∨ p.search s = false) : p.search (q.sub placeholder s) = false :=
  Pattern.search_sub h.sealed (h.reflects fun _ _ _ _ => trivial) hbefore

/-- The URLs come before the blobs, and after the others. -/
theorem search_sub_signedUrl {q : Pattern} (hq : q = signedUrl ∨ q = base64Blob) (s : List Char)
    (hbefore : q = signedUrl ∨ signedUrl.search s = false) :
    signedUrl.search (q.sub placeholder s) = false := by
  refine Pattern.search_sub sealed_signedUrl (reflects_signedUrl ?_) hbefore
  rcases hq with rfl | rfl
  · exact fun w hw => notSpace_signedUrl hw
  · exact fun w hw => notSpace_base64Blob hw

theorem solid_of_mem {p : Pattern} (hp : p ∈ sensitiveValuePatterns tables)
    (hne : p ≠ signedUrl) : Solid p.regex := by
  simp only [sensitiveValuePatterns, List.mem_cons, List.not_mem_nil, or_false] at hp
  rcases hp with rfl | rfl | rfl | rfl | rfl | rfl
  · exact solid_anthropicKey
  · exact solid_bearerToken
  · exact solid_brazilianPhone
  · exact solid_brazilianCpf
  · exact absurd rfl hne
  · exact solid_base64Blob

theorem clears_of_mem {p : Pattern} (hp : p ∈ sensitiveValuePatterns tables) (s : List Char) :
    p.search (p.sub placeholder s) = false := by
  by_cases hurl : p = signedUrl
  · subst hurl
    exact search_sub_signedUrl (.inl rfl) s (.inl rfl)
  · exact search_sub_of_solid (solid_of_mem hp hurl) s (.inl rfl)

theorem pairwise_keeps (tables : UnicodeTables) :
    (sensitiveValuePatterns tables).Pairwise fun p q =>
      ∀ s, p.search s = false → p.search (q.sub placeholder s) = false := by
  refine .cons (fun q _ s hs => search_sub_of_solid solid_anthropicKey s (.inr hs)) ?_
  refine .cons (fun q _ s hs => search_sub_of_solid solid_bearerToken s (.inr hs)) ?_
  refine .cons (fun q _ s hs => search_sub_of_solid solid_brazilianPhone s (.inr hs)) ?_
  refine .cons (fun q _ s hs => search_sub_of_solid solid_brazilianCpf s (.inr hs)) ?_
  refine .cons (fun q hq s hs => ?_) (List.pairwise_singleton _ _)
  exact search_sub_signedUrl (.inr (List.mem_singleton.1 hq)) s (.inr hs)

/-- No pattern matches the string. -/
def Clean (tables : UnicodeTables) (value : String) : Prop :=
  ∀ p ∈ sensitiveValuePatterns tables, p.search value.toList = false

theorem containsSensitivePattern_eq_false {value : String} :
    containsSensitivePattern tables value = false ↔ Clean tables value := by
  unfold containsSensitivePattern Clean
  rw [List.any_eq_false]
  simp only [Bool.not_eq_true]

theorem clean_redactString (value : String) : Clean tables (redactString tables value) := by
  intro p hp
  rw [redactString, String.toList_ofList]
  exact Pattern.search_foldl (fun p hp => clears_of_mem hp) (pairwise_keeps tables) _ p hp

theorem redactString_of_clean {value : String} (h : Clean tables value) :
    redactString tables value = value := by
  rw [redactString, Pattern.foldl_of_search h, String.ofList_toList]

theorem clean_placeholder : Clean tables redactedPlaceholder := by
  intro p hp
  by_cases hurl : p = signedUrl
  · subst hurl
    decide
  · have hsolid := solid_of_mem hp hurl
    refine Bool.eq_false_iff.2 fun hsearch => ?_
    obtain ⟨pre, post, hpost, hstarts⟩ := search_iff.1 hsearch
    have hne : post ≠ [] := by
      rintro rfl
      obtain ⟨w, rest, hw, haccepts, -⟩ := hstarts
      exact Pattern.ne_nil_of_accepts haccepts (List.append_eq_nil_iff.1 hw.symm).1
    refine hsolid.sealed (K := fun _ => True) pre post [] hpost hne ?_
    rw [List.append_nil]
    exact hstarts

/-! ## Values -/

/-- What is put in the place of a string. -/
theorem redactValue_str (value : String) (depth : Nat) :
    redactValue tables (.str value) depth = .str (redactString tables value) := by
  rw [redactValue]
  cases hcontains : containsSensitivePattern tables value with
  | true => rw [if_pos rfl]
  | false =>
      rw [if_neg Bool.false_ne_true,
        redactString_of_clean (containsSensitivePattern_eq_false.1 hcontains)]

/-- Every string of a redacted value is clean, by induction on where it stands. -/
theorem clean_of_at : ∀ (path : List JsonStep) {value : Json} {depth : Nat} {s : String},
    (redactValue tables value depth).At path (.str s) → Clean tables s := by
  intro path
  induction path with
  | nil =>
      intro value depth s h
      obtain ⟨s', rfl, -⟩ := redactValue_eq_str.1 (Json.at_nil.1 h).symm
      rw [Json.at_nil, redactValue_str] at h
      rw [Json.str.inj h]
      exact clean_redactString s'
  | cons step path ih =>
      intro value depth s h
      cases step with
      | index i =>
          obtain ⟨items, child, -, -, h⟩ := at_index_redactValue.1 h
          exact ih h
      | key name =>
          obtain ⟨entries, -, ⟨-, -, h⟩ | ⟨-, child, -, ⟨-, h⟩ | ⟨-, h⟩⟩⟩ := at_key_redactValue.1 h
          · cases h
          · cases h
            exact clean_placeholder
          · exact ih h

mutual

theorem redactValue_idem : ∀ (value : Json) (depth : Nat),
    redactValue tables (redactValue tables value depth) depth = redactValue tables value depth
  | .null, _ => by simp only [redactValue]
  | .bool _, _ => by simp only [redactValue]
  | .num _, _ => by simp only [redactValue]
  | .real _, _ => by simp only [redactValue]
  | .str s, depth => by
      rw [redactValue_str, redactValue_str, redactString_of_clean (clean_redactString s)]
  | .arr items, depth => by
      rw [redactValue_arr, redactValue_arr, redactList_idem items depth]
  | .obj entries, depth => by
      rw [redactValue_obj, redactValue_obj, redactDict, redactDict]
      split
      · rfl
      · rw [redactEntries_idem entries depth]

theorem redactEntries_idem : ∀ (entries : List (String × Json)) (depth : Nat),
    redactEntries tables (redactEntries tables entries depth) depth =
      redactEntries tables entries depth
  | [], _ => by simp only [redactEntries]
  | (key, value) :: entries, depth => by
      rw [redactEntries, redactEntries, redactEntries_idem entries depth]
      cases hkey : isSensitiveField tables key with
      | true => simp only [if_true]
      | false =>
          simp only [Bool.false_eq_true, if_false]
          rw [redactValue_idem value (depth + 1)]

theorem redactList_idem : ∀ (items : List Json) (depth : Nat),
    redactList tables (redactList tables items depth) depth = redactList tables items depth
  | [], _ => by simp only [redactList]
  | item :: items, depth => by
      rw [redactList, redactList, redactValue_idem item (depth + 1), redactList_idem items depth]

end

theorem redactDict_idem (data : List (String × Json)) (depth : Nat) :
    redactDict tables (redactDict tables data depth) depth = redactDict tables data depth := by
  have h := @redactValue_idem tables (.obj data) depth
  rw [redactValue_obj, redactValue_obj] at h
  exact Json.obj.inj h

/-- For every choice of the Unicode tables, what `redact_string` returns matches no
pattern and is its own redaction, and so it is with every string of what
`redact_dict` returns and with the dict as a whole. -/
theorem redacted_clean_idempotent (tables : UnicodeTables) :
    (∀ value : String,
      (∀ p ∈ sensitiveValuePatterns tables,
        p.search (redactString tables value).toList = false) ∧
      redactString tables (redactString tables value) = redactString tables value) ∧
    ∀ (data : List (String × Json)) (depth : Nat),
      (∀ path s, (Json.obj (redactDict tables data depth)).At path (.str s) →
        ∀ p ∈ sensitiveValuePatterns tables, p.search s.toList = false) ∧
      redactDict tables (redactDict tables data depth) depth = redactDict tables data depth := by
  constructor
  · intro value
    have hclean := @clean_redactString tables value
    exact ⟨hclean, redactString_of_clean hclean⟩
  · intro data depth
    refine ⟨?_, redactDict_idem data depth⟩
    intro path s h
    rw [← redactValue_obj] at h
    exact clean_of_at path h

end Iara.Security
