import Iara.Proofs.ValueRedaction

/-!
# Redacted fields

`_is_sensitive_field` compares the key in small letters with names of which one,
`pinData`, has a capital: it is never found.
-/

namespace Iara.Security

open Iara.Lib

/-- The key is a listed name up to letter case, with `-` and a blank read as `_`. -/
def Listed (tables : UnicodeTables) (key : String) : Prop :=
  ∃ name ∈ sensitiveFieldNames, normalizeField tables key = tables.lower name

/-- No key on the way is listed. -/
def Unlisted (tables : UnicodeTables) (path : List JsonStep) : Prop :=
  ∀ name, .key name ∈ path → ¬ Listed tables name

/-- The input has an entry there, neither below a listed key nor below the depth cut. -/
def Visible (tables : UnicodeTables) (data : List (String × Json)) (path : List JsonStep)
    (key : String) (value : Json) : Prop :=
  (Json.obj data).At (path ++ [.key key]) value ∧ path.length ≤ 10 ∧ Unlisted tables path

/-- The entry that stands for a dict below the depth cut. -/
structure DepthMarker (tables : UnicodeTables) (data : List (String × Json))
    (path : List JsonStep) (key : String) (value : Json) : Prop where
  key_eq : key = "[REDACTED_DEEP]"
  value_eq : value = .bool true
  deep : 10 < path.length
  dict : ∃ entries, (Json.obj data).At path (.obj entries)
  unlisted : Unlisted tables path

/-- In the output each listed key has the placeholder, and each entry is there for a
visible one of the input. -/
def FieldsRedacted (tables : UnicodeTables) (data : List (String × Json)) : Prop :=
  ∀ path key found, (Json.obj (redactDict tables data 0)).At (path ++ [.key key]) found →
    (Listed tables key → found = .str redactedPlaceholder) ∧
    ((∃ value, Visible tables data path key value) ∨ DepthMarker tables data path key found)

/-- Every visible `pinData` is a string that is redacted as a whole for its value. -/
def PinDataCovered (tables : UnicodeTables) (data : List (String × Json)) : Prop :=
  ∀ path key value, Visible tables data path key value →
    normalizeField tables key = "pindata" →
      ∃ s, value = .str s ∧ redactString tables s = redactedPlaceholder

/-! ## Names -/

variable {tables : UnicodeTables}

theorem lower_of_ascii {s s' : String} (hascii : s.toList.all (fun c => c.toNat < 128) = true)
    (hlower : s.toList.map Char.toLower = s'.toList) : tables.lower s = s' := by
  have hlt : ∀ c ∈ s.toList, c.toNat < 128 := by
    intro c hc
    exact of_decide_eq_true (List.all_eq_true.1 hascii c hc)
  rw [tables.lower_ascii s hlt, hlower, String.ofList_toList]

theorem replaceChar_of_notMem {old new : Char} {s : String} (h : old ∉ s.toList) :
    replaceChar old new s = s := by
  have hself : ∀ c ∈ s.toList, (if c = old then new else c) = id c := by
    intro c hc
    have hne : c ≠ old := by
      rintro rfl
      exact h hc
    rw [if_neg hne, id]
  rw [replaceChar, List.map_congr_left hself, List.map_id, String.ofList_toList]

theorem normalizeField_of_ascii {s s' : String}
    (hascii : s.toList.all (fun c => c.toNat < 128) = true)
    (hlower : s.toList.map Char.toLower = s'.toList) (hdash : '-' ∉ s'.toList)
    (hblank : ' ' ∉ s'.toList) : normalizeField tables s = s' := by
  rw [normalizeField, lower_of_ascii hascii hlower, replaceChar_of_notMem hdash,
    replaceChar_of_notMem hblank]

theorem lower_pinData : tables.lower "pinData" = "pindata" :=
  lower_of_ascii (by decide) (by decide)

/-- Every other name is in small letters. -/
theorem lower_name {name : String} (hmem : name ∈ sensitiveFieldNames)
    (hne : name ≠ "pinData") : tables.lower name = name := by
  have hnames : sensitiveFieldNames.all (fun name => name = "pinData" ||
      (name.toList.all (fun c => c.toNat < 128) &&
        name.toList.map Char.toLower = name.toList)) = true := by decide
  have hname := List.all_eq_true.1 hnames name hmem
  rw [Bool.or_eq_true, Bool.and_eq_true, decide_eq_true_eq, decide_eq_true_eq] at hname
  obtain ⟨hascii, hlower⟩ := hname.resolve_left hne
  exact lower_of_ascii hascii hlower

theorem isUpper_normalizeField {key : String} :
    ∀ c ∈ (normalizeField tables key).toList, c.isUpper = false := by
  have hreplace : ∀ (old : Char) (s : String), (∀ c ∈ s.toList, c.isUpper = false) →
      ∀ c ∈ (replaceChar old '_' s).toList, c.isUpper = false := by
    intro old s hs c hc
    rw [replaceChar, String.toList_ofList] at hc
    obtain ⟨d, hd, rfl⟩ := List.mem_map.1 hc
    split
    · decide
    · exact hs d hd
  exact hreplace ' ' _ (hreplace '-' _ (tables.isUpper_lower key))

/-- The code finds every listed key but `pinData`. -/
theorem listed_iff {key : String} : Listed tables key ↔
    isSensitiveField tables key = true ∨ normalizeField tables key = "pindata" := by
  unfold isSensitiveField
  rw [List.contains_iff_mem]
  constructor
  · rintro ⟨name, hname, heq⟩
    by_cases hpin : name = "pinData"
    · rw [hpin, lower_pinData] at heq
      exact .inr heq
    · rw [lower_name hname hpin] at heq
      exact .inl (heq ▸ hname)
  · rintro (hmem | heq)
    · refine ⟨normalizeField tables key, hmem, (lower_name hmem ?_).symm⟩
      intro hpin
      have hupper := @isUpper_normalizeField tables key 'D'
      rw [hpin] at hupper
      exact absurd (hupper (by decide)) (by decide)
    · exact ⟨"pinData", by decide, heq.trans lower_pinData.symm⟩

theorem not_listed_deep : ¬ Listed tables "[REDACTED_DEEP]" := by
  have hnormal : normalizeField tables "[REDACTED_DEEP]" = "[redacted_deep]" :=
    normalizeField_of_ascii (by decide) (by decide) (by decide) (by decide)
  rw [listed_iff, isSensitiveField, hnormal]
  decide

/-! ## Entries of the output -/

/-- The redaction of a value at the depth goes on along the path. -/
def Passes (tables : UnicodeTables) : Nat → List JsonStep → Prop
  | _, [] => True
  | depth, .index _ :: path => Passes tables (depth + 1) path
  | depth, .key name :: path =>
      depth ≤ 10 ∧ isSensitiveField tables name = false ∧ Passes tables (depth + 1) path

theorem not_at_str {s : String} {step : JsonStep} {path : List JsonStep} {found : Json} :
    ¬ (Json.str s).At (path ++ [step]) found := by
  intro h
  cases path <;> cases h

theorem not_at_bool {b : Bool} {step : JsonStep} {path : List JsonStep} {found : Json} :
    ¬ (Json.bool b).At (path ++ [step]) found := by
  intro h
  cases path <;> cases h

/-- An entry of the output is one of the input, or marks the cut. -/
theorem entry_of_at : ∀ (path : List JsonStep) {value found : Json} {depth : Nat} {key : String},
    (redactValue tables value depth).At (path ++ [.key key]) found →
      Passes tables depth path ∧
      ((∃ child, value.At (path ++ [.key key]) child ∧ depth + path.length ≤ 10 ∧
          (isSensitiveField tables key = true ∧ found = .str redactedPlaceholder ∨
            isSensitiveField tables key = false ∧
              found = redactValue tables child (depth + path.length + 1))) ∨
        key = "[REDACTED_DEEP]" ∧ found = .bool true ∧ 10 < depth + path.length ∧
          ∃ entries, value.At path (.obj entries)) := by
  intro path
  induction path with
  | nil =>
      intro value found depth key h
      obtain ⟨entries, rfl, ⟨hdeep, hkey, hat⟩ | ⟨hdepth, child, hchild, hfound⟩⟩ :=
        at_key_redactValue.1 h
      · rw [Json.at_nil] at hat
        exact ⟨trivial, .inr ⟨hkey, hat, hdeep, entries, .here _⟩⟩
      · simp only [Json.at_nil] at hfound
        exact ⟨trivial, .inl ⟨child, .entry hchild (.here child), hdepth, hfound⟩⟩
  | cons step path ih =>
      intro value found depth key h
      have hlength : depth + (step :: path).length = depth + 1 + path.length := by
        rw [List.length_cons]
        omega
      rw [hlength]
      cases step with
      | index i =>
          obtain ⟨items, child, rfl, hchild, hat⟩ := at_index_redactValue.1 h
          obtain ⟨hpasses, hentry⟩ := ih hat
          refine ⟨hpasses, ?_⟩
          rcases hentry with ⟨found', hat', hdepth, hfound⟩ | ⟨hkey, hfound, hdeep, entries, hat'⟩
          · exact .inl ⟨found', .item hchild hat', hdepth, hfound⟩
          · exact .inr ⟨hkey, hfound, hdeep, entries, .item hchild hat'⟩
      | key name =>
          obtain ⟨entries, rfl, ⟨-, -, hat⟩ | ⟨hname, child, hchild, hfound⟩⟩ :=
            at_key_redactValue.1 h
          · exact absurd hat not_at_bool
          · rcases hfound with ⟨-, hat⟩ | ⟨hsensitive, hat⟩
            · exact absurd hat not_at_str
            · obtain ⟨hpasses, hentry⟩ := ih hat
              refine ⟨⟨hname, hsensitive, hpasses⟩, ?_⟩
              rcases hentry with
                ⟨found', hat', hdepth, hfound⟩ | ⟨hkey, hfound, hdeep, entries', hat'⟩
              · exact .inl ⟨found', .entry hchild hat', hdepth, hfound⟩
              · exact .inr ⟨hkey, hfound, hdeep, entries', .entry hchild hat'⟩

/-- An entry that the redaction comes to, and does not redact by its key. -/
theorem at_of_entry : ∀ (path : List JsonStep) {value child : Json} {depth : Nat} {key : String},
    value.At (path ++ [.key key]) child → depth + path.length ≤ 10 → Passes tables depth path →
    isSensitiveField tables key = false →
      (redactValue tables value depth).At (path ++ [.key key])
        (redactValue tables child (depth + path.length + 1)) := by
  intro path
  induction path with
  | nil =>
      intro value child depth key hat hdepth _ hkey
      obtain ⟨entries, found, rfl, hentry, hfound⟩ := Json.at_key.1 hat
      rw [Json.at_nil] at hfound
      refine at_key_redactValue.2 ⟨entries, rfl, .inr ⟨hdepth, found, hentry, .inr ⟨hkey, ?_⟩⟩⟩
      rw [Json.at_nil, hfound]
      rfl
  | cons step path ih =>
      intro value child depth key hat hdepth hpasses hkey
      have hlength : depth + (step :: path).length = depth + 1 + path.length := by
        rw [List.length_cons]
        omega
      rw [hlength] at hdepth ⊢
      cases step with
      | index i =>
          obtain ⟨items, found, rfl, hitem, hfound⟩ := Json.at_index.1 hat
          exact at_index_redactValue.2 ⟨items, found, rfl, hitem, ih hfound hdepth hpasses hkey⟩
      | key name =>
          obtain ⟨hname, hsensitive, hpasses⟩ := hpasses
          obtain ⟨entries, found, rfl, hentry, hfound⟩ := Json.at_key.1 hat
          exact at_key_redactValue.2 ⟨entries, rfl, .inr ⟨hname, found, hentry,
            .inr ⟨hsensitive, ih hfound hdepth hpasses hkey⟩⟩⟩

/-! ## Listed keys on the way -/

theorem unlisted_concat {path : List JsonStep} {step : JsonStep} (h : Unlisted tables path)
    (hstep : ∀ name, step = .key name → ¬ Listed tables name) :
    Unlisted tables (path ++ [step]) := by
  intro name hmem
  rcases List.mem_append.1 hmem with hmem | hmem
  · exact h name hmem
  · exact hstep name (List.mem_singleton.1 hmem).symm

theorem passes_of_unlisted : ∀ {path : List JsonStep} {depth : Nat}, Unlisted tables path →
    depth + path.length ≤ 10 → Passes tables depth path := by
  intro path
  induction path with
  | nil => intro depth _ _; trivial
  | cons step path ih =>
      intro depth h hdepth
      rw [List.length_cons] at hdepth
      have htail : Passes tables (depth + 1) path :=
        ih (fun name hmem => h name (List.mem_cons_of_mem step hmem)) (by omega)
      cases step with
      | index i => exact htail
      | key name =>
          have hname : isSensitiveField tables name = false := by
            refine Bool.eq_false_iff.2 fun hsensitive => ?_
            exact h name List.mem_cons_self (listed_iff.2 (.inl hsensitive))
          exact ⟨by omega, hname, htail⟩

/-- The first listed key on a way that the redaction passes would be a visible
`pinData`, and what is below it no string. -/
theorem unlisted_of_passes {data : List (String × Json)} (h : PinDataCovered tables data) :
    ∀ (path pre : List JsonStep) {value : Json} {entries : List (String × Json)},
      (Json.obj data).At pre value → Unlisted tables pre → Passes tables pre.length path →
      value.At path (.obj entries) → Unlisted tables (pre ++ path) := by
  intro path
  induction path with
  | nil =>
      intro pre value entries _ hpre _ _
      rw [List.append_nil]
      exact hpre
  | cons step path ih =>
      intro pre value entries hat hpre hpasses hbelow
      have hlength : (pre ++ [step]).length = pre.length + 1 := by simp
      have happend : pre ++ step :: path = (pre ++ [step]) ++ path := by simp
      rw [happend]
      cases step with
      | index i =>
          obtain ⟨items, child, rfl, hitem, hbelow⟩ := Json.at_index.1 hbelow
          have hchild : (Json.obj data).At (pre ++ [.index i]) child :=
            Json.at_append.2 ⟨_, hat, .item hitem (.here child)⟩
          refine ih _ hchild (unlisted_concat hpre nofun) ?_ hbelow
          rw [hlength]
          exact hpasses
      | key name =>
          obtain ⟨hname, hsensitive, hpasses⟩ := hpasses
          obtain ⟨entries', child, rfl, hentry, hbelow⟩ := Json.at_key.1 hbelow
          have hchild : (Json.obj data).At (pre ++ [.key name]) child :=
            Json.at_append.2 ⟨_, hat, .entry hentry (.here child)⟩
          have hunlisted : ¬ Listed tables name := by
            rw [listed_iff, hsensitive]
            rintro (htrue | hpin)
            · cases htrue
            · obtain ⟨s, rfl, -⟩ := h pre name child ⟨hchild, hname, hpre⟩ hpin
              cases path <;> cases hbelow
          have hpre' : Unlisted tables (pre ++ [.key name]) := by
            refine unlisted_concat hpre ?_
            intro name' heq
            rw [← JsonStep.key.inj heq]
            exact hunlisted
          refine ih _ hchild hpre' ?_ hbelow
          rw [hlength]
          exact hpasses

/-- The fields of a dict are redacted as they are listed exactly if each `pinData` in
it is a string that is redacted for its value. -/
theorem fieldsRedacted_iff (tables : UnicodeTables) (data : List (String × Json)) :
    FieldsRedacted tables data ↔ PinDataCovered tables data := by
  constructor
  · rintro h path key child ⟨hat, hdepth, hunlisted⟩ hpin
    have hlisted : Listed tables key := listed_iff.2 (.inr hpin)
    have hkey : isSensitiveField tables key = false := by
      rw [isSensitiveField, hpin]
      decide
    have hdepth' : 0 + path.length ≤ 10 := by omega
    have hout := at_of_entry path hat hdepth' (passes_of_unlisted hunlisted hdepth') hkey
    rw [redactValue_obj] at hout
    have hfound := (h path key _ hout).1 hlisted
    obtain ⟨s, rfl, -⟩ := redactValue_eq_str.1 hfound
    rw [redactValue_str] at hfound
    exact ⟨s, rfl, Json.str.inj hfound⟩
  · intro h path key found hout
    rw [← redactValue_obj] at hout
    obtain ⟨hpasses, hentry⟩ := entry_of_at path hout
    rw [Nat.zero_add] at hentry
    have hunlisted : ∀ {entries : List (String × Json)},
        (Json.obj data).At path (.obj entries) → Unlisted tables path := by
      intro entries hat
      exact unlisted_of_passes h path [] (.here _) (by intro name hmem; cases hmem) hpasses hat
    rcases hentry with ⟨child, hat, hdepth, hfound⟩ | ⟨hkey, hfound, hdeep, entries, hat⟩
    · obtain ⟨dict, hdict, hchild⟩ := Json.at_append.1 hat
      obtain ⟨entries, -, rfl, -, -⟩ := Json.at_key.1 hchild
      have hvisible : Visible tables data path key child := ⟨hat, hdepth, hunlisted hdict⟩
      refine ⟨?_, .inl ⟨child, hvisible⟩⟩
      intro hlisted
      rcases hfound with ⟨-, hfound⟩ | ⟨hsensitive, hfound⟩
      · exact hfound
      · rw [listed_iff, hsensitive] at hlisted
        obtain ⟨s, rfl, hredacted⟩ := h path key child hvisible (hlisted.resolve_left nofun)
        rw [hfound, redactValue_str, hredacted]
    · refine ⟨?_, .inr ⟨hkey, hfound, hdeep, ⟨entries, hat⟩, hunlisted hat⟩⟩
      intro hlisted
      rw [hkey] at hlisted
      exact absurd hlisted not_listed_deep

/-- The execution data of a workflow is logged under its own name. -/
theorem pinData_not_redacted :
    ¬ FieldsRedacted asciiTables [("pinData", .obj [("Webhook", .arr [])])] := by
  have hnormal : normalizeField asciiTables "pinData" = "pindata" :=
    normalizeField_of_ascii (by decide) (by decide) (by decide) (by decide)
  have hkey : isSensitiveField asciiTables "pinData" = false := by
    rw [isSensitiveField, hnormal]
    decide
  have hat : (Json.obj [("pinData", .obj [("Webhook", .arr [])])]).At ([] ++ [.key "pinData"])
      (.obj [("Webhook", .arr [])]) := .entry List.mem_cons_self (.here _)
  have hdepth : 0 + ([] : List JsonStep).length ≤ 10 := Nat.zero_le 10
  intro h
  have hout := at_of_entry [] hat hdepth trivial hkey
  rw [redactValue_obj] at hout
  have hfound := (h [] "pinData" _ hout).1 (listed_iff.2 (.inr hnormal))
  rw [redactValue_obj] at hfound
  cases hfound

end Iara.Security
