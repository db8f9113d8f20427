import Iara.Lib.JsonPath
import Iara.Lib.PyStr
import Iara.Lib.Regex

/-!
# Redaction

`redaction.py`: fields by their name, strings by the patterns of their value, through
dicts and lists of any depth.  Of the Unicode tables the part on ASCII is known; what
is proved holds for every choice of the rest.
-/

namespace Iara.Security

open Iara.Lib Iara.Lib.Regex

/-- `str.lower`, and the digits that `\d` matches. -/
structure UnicodeTables where
  lower : String → String
  isDecimal : Char → Bool
  lower_ascii : ∀ s : String, (∀ c ∈ s.toList, c.toNat < 128) →
    lower s = String.ofList (s.toList.map Char.toLower)
  /-- No capital letter is left. -/
  isUpper_lower : ∀ s : String, ∀ c ∈ (lower s).toList, c.isUpper = false
  isDecimal_ascii : ∀ c : Char, c.toNat < 128 → isDecimal c = c.isDigit

theorem isUpper_toLower (c : Char) : c.toLower.isUpper = false := by
  refine decide_eq_false ?_
  unfold Char.toLower
  split
  next h =>
    have hle := UInt32.le_iff_toNat_le.1 h.1
    have hge := UInt32.le_iff_toNat_le.1 h.2
    simp only [ge_iff_le, UInt32.le_iff_toNat_le, UInt32.toNat_add, not_and, Nat.not_le]
    have hA : 'A'.val.toNat = 65 := rfl
    have hZ : 'Z'.val.toNat = 90 := rfl
    have hdiff : ('a'.val - 'A'.val).toNat = 32 := rfl
    omega
  next h => exact h

/-- Tables of ASCII alone, to run with. -/
def asciiTables : UnicodeTables where
  lower s := String.ofList (s.toList.map Char.toLower)
  isDecimal := Char.isDigit
  lower_ascii _ _ := rfl
  isUpper_lower s c hc := by
    rw [String.toList_ofList] at hc
    obtain ⟨d, -, rfl⟩ := List.mem_map.1 hc
    exact isUpper_toLower d
  isDecimal_ascii _ _ := rfl

/-! ## Sensitive fields -/

def sensitiveFieldNames : List String :=
  ["token", "api_key", "api_token", "secret", "password", "credential", "auth_token",
    "access_token", "refresh_token", "id_token", "bearer", "x_auth_token", "authorization",
    "x_api_key",
    "raw_body", "raw_payload", "raw_content", "pin_data", "pinData", "base64", "raw_base64",
    "_raw_base64", "_raw_url",
    "phone", "phone_number", "raw_phone", "contact_phone", "email", "cpf", "cnpj", "rg",
    "account_id", "real_account_id",
    "headers", "cookie", "cookies", "x_forwarded_for",
    "_private_content", "private_note", "private_content", "private_message",
    "attachment_url", "download_url", "temp_url", "temporary_url", "media_url", "file_url",
    "audio_url", "image_url", "raw_attachment"]

/-- `s.replace(old, new)` of one character. -/
def replaceChar (old new : Char) (s : String) : String :=
  String.ofList (s.toList.map fun c => if c = old then new else c)

variable (tables : UnicodeTables)

def normalizeField (key : String) : String :=
  replaceChar ' ' '_' (replaceChar '-' '_' (tables.lower key))

def isSensitiveField (key : String) : Bool :=
  sensitiveFieldNames.contains (normalizeField tables key)

/-! ## Sensitive values -/

/-- `sk-ant-[a-zA-Z0-9\-_]{20,}` -/
def anthropicKey : Pattern where
  regex := .concat [.literalIgnoreCase "sk-ant-",
    .many (ignoreCase fun c => c.isAlphanum || c == '-' || c == '_') 20 none]

/-- `Bearer\s+[a-zA-Z0-9\-_\.]{20,}` -/
def bearerToken : Pattern where
  regex := .concat [.literalIgnoreCase "Bearer", .many PyStr.isSpace 1 none,
    .many (ignoreCase fun c => c.isAlphanum || c == '-' || c == '_' || c == '.') 20 none]

/-- `\+?55\s*\(?[1-9]{2}\)?\s*9?\d{4}[\s\-]?\d{4}` -/
def brazilianPhone : Pattern where
  regex := .concat [.optional (· == '+'), .literal "55", .many PyStr.isSpace 0 none,
    .optional (· == '('), .many (fun c => '1' ≤ c && c ≤ '9') 2 (some 2), .optional (· == ')'),
    .many PyStr.isSpace 0 none, .optional (· == '9'), .many tables.isDecimal 4 (some 4),
    .optional (fun c => PyStr.isSpace c || c == '-'), .many tables.isDecimal 4 (some 4)]
  consumes := (by decide : 0 < 12)

/-- `\d{3}[\.\s]?\d{3}[\.\s]?\d{3}[\-\s]?\d{2}` -/
def brazilianCpf : Pattern where
  regex := .concat [.many tables.isDecimal 3 (some 3),
    .optional (fun c => c == '.' || PyStr.isSpace c), .many tables.isDecimal 3 (some 3),
    .optional (fun c => c == '.' || PyStr.isSpace c), .many tables.isDecimal 3 (some 3),
    .optional (fun c => c == '-' || PyStr.isSpace c), .many tables.isDecimal 2 (some 2)]
  consumes := (by decide : 0 < 11)

def notSpace (c : Char) : Bool := !PyStr.isSpace c

/-- `(?:token|key|signature|auth)` -/
def urlSecret : Regex :=
  .oneOf (.literalIgnoreCase "token")
    [.literalIgnoreCase "key", .literalIgnoreCase "signature", .literalIgnoreCase "auth"]

/-- `https?://` -/
def urlScheme : Regex :=
  .concat [.literalIgnoreCase "http", .optional (ignoreCase (· == 's')), .literal "://"]

/-- `https?://[^\s]+\?[^\s]*(?:token|key|signature|auth)[^\s]*` -/
def signedUrl : Pattern where
  regex := .concat [urlScheme, .many notSpace 1 none, .set (· == '?'), .many notSpace 0 none,
    urlSecret, .many notSpace 0 none]
  consumes := (by decide : 0 < 12)

/-- `[A-Za-z0-9+/]{100,}={0,2}` -/
def base64Blob : Pattern where
  regex := .concat [.many (fun c => c.isAlphanum || c == '+' || c == '/') 100 none,
    .many (· == '=') 0 (some 2)]
  consumes := (by decide : 0 < 100)

def sensitiveValuePatterns : List Pattern :=
  [anthropicKey, bearerToken, brazilianPhone tables, brazilianCpf tables, signedUrl, base64Blob]

def redactedPlaceholder : String := "[REDACTED]"

def containsSensitivePattern (value : String) : Bool :=
  (sensitiveValuePatterns tables).any fun pattern => pattern.search value.toList

def redactString (value : String) : String :=
  String.ofList ((sensitiveValuePatterns tables).foldl
    (fun result pattern => pattern.sub redactedPlaceholder.toList result) value.toList)

/-! ## Dicts and lists -/

def redactedDeep : List (String × Json) := [("[REDACTED_DEEP]", .bool true)]

mutual

/-- What is put in the place of a value, by its type. -/
def redactValue : Json → Nat → Json
  | .obj entries, depth => .obj (if 10 < depth then redactedDeep else redactEntries entries depth)
  | .arr items, depth => .arr (redactList items depth)
  | .str s, _ => .str (if containsSensitivePattern tables s then redactString tables s else s)
  | value, _ => value

def redactEntries : List (String × Json) → Nat → List (String × Json)
  | [], _ => []
  | (key, value) :: entries, depth =>
      (key, if isSensitiveField tables key then .str redactedPlaceholder
        else redactValue value (depth + 1)) :: redactEntries entries depth

def redactList : List Json → Nat → List Json
  | [], _ => []
  | item :: items, depth => redactValue item (depth + 1) :: redactList items depth

end

def redactDict (data : List (String × Json)) (depth : Nat) : List (String × Json) :=
  if 10 < depth then redactedDeep else redactEntries tables data depth

variable {tables}

@[simp] theorem redactValue_obj (entries : List (String × Json)) (depth : Nat) :
    redactValue tables (.obj entries) depth = .obj (redactDict tables entries depth) := by
  rw [redactValue, redactDict]

@[simp] theorem redactValue_arr (items : List Json) (depth : Nat) :
    redactValue tables (.arr items) depth = .arr (redactList tables items depth) := by
  rw [redactValue]

theorem redactValue_eq_obj {value : Json} {depth : Nat} {entries : List (String × Json)} :
    redactValue tables value depth = .obj entries ↔
      ∃ entries', value = .obj entries' ∧ entries = redactDict tables entries' depth := by
  cases value with
  | obj entries' => simp [eq_comm]
  | _ => simp [redactValue]

theorem redactValue_eq_arr {value : Json} {depth : Nat} {items : List Json} :
    redactValue tables value depth = .arr items ↔
      ∃ items', value = .arr items' ∧ items = redactList tables items' depth := by
  cases value with
  | arr items' => simp [eq_comm]
  | _ => simp [redactValue]

theorem redactValue_eq_str {value : Json} {depth : Nat} {s : String} :
    redactValue tables value depth = .str s ↔
      ∃ s', value = .str s' ∧
        s = if containsSensitivePattern tables s' then redactString tables s' else s' := by
  cases value with
  | str s' =>
      rw [redactValue, Json.str.injEq, @eq_comm _ _ s]
      simp
  | _ => simp [redactValue]

/-- What becomes of an entry. -/
theorem mem_redactEntries {entries : List (String × Json)} {depth : Nat} {key : String}
    {found : Json} : (key, found) ∈ redactEntries tables entries depth ↔
      ∃ value, (key, value) ∈ entries ∧
        (isSensitiveField tables key = true ∧ found = .str redactedPlaceholder ∨
          isSensitiveField tables key = false ∧ found = redactValue tables value (depth + 1)) := by
  induction entries with
  | nil => simp [redactEntries]
  | cons entry entries ih =>
      obtain ⟨key', value'⟩ := entry
      rw [redactEntries, List.mem_cons, ih]
      constructor
      · rintro (heq | ⟨value, hentry, hfound⟩)
        · obtain ⟨hkey, hfound⟩ := Prod.mk.inj heq
          rw [hkey]
          refine ⟨value', List.mem_cons_self, ?_⟩
          cases hsensitive : isSensitiveField tables key' with
          | true => exact .inl ⟨rfl, by rw [hfound, if_pos hsensitive]⟩
          | false => exact .inr ⟨rfl, by rw [hfound, hsensitive, if_neg Bool.false_ne_true]⟩
        · exact ⟨value, List.mem_cons_of_mem _ hentry, hfound⟩
      · rintro ⟨value, hentry, hfound⟩
        rcases List.mem_cons.1 hentry with heq | hentry
        · obtain ⟨hkey, hvalue⟩ := Prod.mk.inj heq
          left
          rcases hfound with ⟨hsensitive, hfound⟩ | ⟨hsensitive, hfound⟩
          · rw [← hkey, hfound, if_pos hsensitive]
          · rw [← hkey, hfound, hsensitive, if_neg Bool.false_ne_true, hvalue]
        · exact .inr ⟨value, hentry, hfound⟩

theorem getElem_redactList {items : List Json} {depth i : Nat} :
    (redactList tables items depth)[i]? =
      items[i]?.map fun item => redactValue tables item (depth + 1) := by
  induction items generalizing i with
  | nil => simp [redactList]
  | cons item items ih =>
      rw [redactList]
      cases i with
      | zero => rw [List.getElem?_cons_zero, List.getElem?_cons_zero, Option.map_some]
      | succ i => rw [List.getElem?_cons_succ, List.getElem?_cons_succ, ih]

/-- What stands behind a key of a redacted value. -/
theorem at_key_redactValue {value found : Json} {depth : Nat} {key : String}
    {path : List JsonStep} : (redactValue tables value depth).At (.key key :: path) found ↔
      ∃ entries, value = .obj entries ∧
        (10 < depth ∧ key = "[REDACTED_DEEP]" ∧ (Json.bool true).At path found ∨
          depth ≤ 10 ∧ ∃ child, (key, child) ∈ entries ∧
            (isSensitiveField tables key = true ∧ (Json.str redactedPlaceholder).At path found ∨
              isSensitiveField tables key = false ∧
                (redactValue tables child (depth + 1)).At path found)) := by
  rw [Json.at_key]
  constructor
  · rintro ⟨redacted, found', hredacted, hentry, hat⟩
    obtain ⟨entries, hvalue, rfl⟩ := redactValue_eq_obj.1 hredacted
    refine ⟨entries, hvalue, ?_⟩
    unfold redactDict at hentry
    split at hentry
    next hdeep =>
      obtain ⟨hkey, hfound⟩ := Prod.mk.inj (List.mem_singleton.1 hentry)
      exact .inl ⟨hdeep, hkey, hfound ▸ hat⟩
    next hdeep =>
      obtain ⟨child, hchild, hfound⟩ := mem_redactEntries.1 hentry
      refine .inr ⟨Nat.not_lt.1 hdeep, child, hchild, ?_⟩
      rcases hfound with ⟨hsensitive, hfound⟩ | ⟨hsensitive, hfound⟩
      · exact .inl ⟨hsensitive, hfound ▸ hat⟩
      · exact .inr ⟨hsensitive, hfound ▸ hat⟩
  · rintro ⟨entries, hvalue, ⟨hdeep, hkey, hat⟩ | ⟨hdepth, child, hchild, hfound⟩⟩
    · refine ⟨redactedDeep, .bool true, ?_, ?_, hat⟩
      · rw [hvalue, redactValue_obj, redactDict, if_pos hdeep]
      · rw [hkey]
        exact List.mem_singleton_self _
    · have hredacted : redactValue tables value depth =
          .obj (redactEntries tables entries depth) := by
        rw [hvalue, redactValue_obj, redactDict, if_neg (Nat.not_lt.2 hdepth)]
      rcases hfound with ⟨hsensitive, hat⟩ | ⟨hsensitive, hat⟩
      · exact ⟨_, _, hredacted,
          mem_redactEntries.2 ⟨child, hchild, .inl ⟨hsensitive, rfl⟩⟩, hat⟩
      · exact ⟨_, _, hredacted,
          mem_redactEntries.2 ⟨child, hchild, .inr ⟨hsensitive, rfl⟩⟩, hat⟩

theorem at_index_redactValue {value found : Json} {depth i : Nat} {path : List JsonStep} :
    (redactValue tables value depth).At (.index i :: path) found ↔
      ∃ items child, value = .arr items ∧ items[i]? = some child ∧
        (redactValue tables child (depth + 1)).At path found := by
  rw [Json.at_index]
  constructor
  · rintro ⟨redacted, found', hredacted, hitem, hat⟩
    obtain ⟨items, hvalue, rfl⟩ := redactValue_eq_arr.1 hredacted
    rw [getElem_redactList, Option.map_eq_some_iff] at hitem
    obtain ⟨child, hchild, rfl⟩ := hitem
    exact ⟨items, child, hvalue, hchild, hat⟩
  · rintro ⟨items, child, hvalue, hchild, hat⟩
    refine ⟨redactList tables items depth, _, ?_, ?_, hat⟩
    · rw [hvalue, redactValue_arr]
    · rw [getElem_redactList, hchild, Option.map_some]

end Iara.Security
