import Iara.Eligibility.Decision
import Iara.Lib.PyJson

/-!
# The webhook normalizer

`ChatwootEventNormalizer.normalize` on a JSON payload of any shape.  Of the event it
builds, the fields that the checks and the job are made from; what it raises is an
exception by its name.
-/

namespace Iara.Eligibility

open Iara.Lib

def MessageType.ofValue (value : String) : Option MessageType :=
  [MessageType.incoming, .outgoing, .activity, .template].find? fun t => t.value = value

def SenderType.ofValue (value : String) : Option SenderType :=
  [SenderType.contact, .agentBot, .user, .system].find? fun t => t.value = value

structure ChatwootEventNormalizer where
  /-- `hashlib.sha256(value.encode()).hexdigest()`. -/
  sha256 : String → String
  text : PyText
  /-- The values that pydantic takes for an `int`. -/
  isInt : Json → Bool
  tenant : TenantContext

/-! ## Containers -/

def emptyDict : Json := .obj []

/-- `payload.get(key, {}) or {}`. -/
def nested (payload : Json) (key : String) : Json :=
  (payload.getD key emptyDict).orElse emptyDict

/-- The nested message object or, without one, the payload. -/
def messageRaw (payload : Json) : Json := (payload.getD "message" emptyDict).orElse payload

def isPrivateNote (message : Json) : Bool := (message.getD "private" (.bool false)).truthy

/-- `message_raw.get("content") or raw_payload.get("content")`. -/
def rawContent (payload : Json) : Json :=
  ((messageRaw payload).getD "content" .null).orElse (payload.getD "content" .null)

/-- The first argument of `str` in the conversation's id. -/
def rawConversationId (payload : Json) : Json :=
  (nested payload "conversation").getD "id" (payload.getD "conversation_id" (.str "unknown"))

/-- `raw_payload.get("event") or raw_payload.get("event_type", "")`. -/
def rawEventType (payload : Json) : Json :=
  (payload.getD "event" .null).orElse (payload.getD "event_type" (.str ""))

/-- The payload's own id. -/
def rawEventId (payload : Json) : Json := payload.getD "id" .null

namespace ChatwootEventNormalizer

variable (normalizer : ChatwootEventNormalizer)

def makeIdempotencyKey (eventId : String) : String :=
  normalizer.sha256 (normalizer.tenant.tenantKey ++ ":" ++ eventId)

/-! ## Fields -/

def messageType (payload : Json) : Option MessageType :=
  match (messageRaw payload).getD "message_type" (payload.getD "message_type" .null) with
  | .null => none
  | value => MessageType.ofValue (normalizer.text.str value)

def senderType (payload : Json) : Except String (Option SenderType) := do
  let message := messageRaw payload
  let sender ← ((message.getD "sender" .null).orElse
    ((payload.getD "sender" .null).orElse emptyDict)).asDict
  let value := (sender.getD "type" .null).orElse (message.getD "sender_type" .null)
  return if value.truthy then SenderType.ofValue (normalizer.text.str value) else none

/-- `str(raw_payload.get("id") or str(uuid.uuid4()))`. -/
def eventId (payload : Json) (eventDraw : String) : String :=
  normalizer.text.str ((rawEventId payload).orElse (.str eventDraw))

/-- `str(message_raw.get("id", "")) or None`.  No check reads it. -/
def messageId (payload : Json) : Option String :=
  let id := normalizer.text.str ((messageRaw payload).getD "id" (.str ""))
  if id = "" then none else some id

/-- The content as pydantic takes it for a `str | None`: of the falsy values the
empty string only. -/
def content (payload : Json) : Except String (Option String) :=
  match rawContent payload with
  | .null => .ok none
  | .str s => .ok (some s)
  | value =>
      if value.truthy then .ok (some (normalizer.text.str value)) else .error "ValidationError"

/-- Nothing is read of a private note. -/
def keptContent (payload : Json) : Except String (Option String) :=
  if isPrivateNote (messageRaw payload) then .ok none else normalizer.content payload

/-- A `str | None` field. -/
def isText : Json → Bool
  | .null => true
  | .str _ => true
  | _ => false

/-- `_normalize_attachment`, of which only the checks of the contract can raise. -/
def normalizeAttachment (raw : Json) : Except String Unit :=
  let size := raw.getD "file_size" .null
  if isText (raw.getD "content_type" .null) && isText (raw.getD "filename" .null) &&
      (size = .null || normalizer.isInt size) then .ok ()
  else .error "ValidationError"

/-- The loop over the attachments passes over what is no dict. -/
def normalizeAttachments (payload : Json) : Except String Unit :=
  match ((messageRaw payload).getD "attachments" .null).orElse
      ((payload.getD "attachments" .null).orElse (.arr [])) with
  | .arr items => (items.filter Json.isObj).forM normalizer.normalizeAttachment
  | .obj _ => .ok ()
  | .str _ => .ok ()
  | _ => .error "TypeError"

/-- `eventDraw` is the UUID that stands in for a missing event id. -/
def normalize (payload : Json) (rawHash correlationId eventDraw : String) :
    Except String NormalizedChatwootEvent := do
  let payload ← payload.asDict
  let eventId := normalizer.text.str ((payload.getD "id" .null).orElse (.str eventDraw))
  let account ← (nested payload "account").asDict
  let accountId := normalizer.text.str
    (account.getD "id" (payload.getD "account_id" (.str "")))
  let _ ← (nested payload "inbox").asDict
  let _ ← (nested payload "conversation").asDict
  let conversationId := normalizer.text.str (rawConversationId payload)
  let message ← (messageRaw payload).asDict
  let senderType ← normalizer.senderType payload
  let isPrivate := isPrivateNote message
  let content ← normalizer.keptContent payload
  normalizer.normalizeAttachments payload
  return {
    correlationId := correlationId
    idempotencyKey := normalizer.makeIdempotencyKey eventId
    rawHash := rawHash
    accountIdRef := makeAccountRef normalizer.sha256 accountId
    conversationId := conversationId
    messageType := normalizer.messageType payload
    senderType := senderType
    contentText := contentText isPrivate content
    isPrivate := isPrivate }

variable {normalizer}

/-- What a normalized event says of its payload. -/
structure Normalizes (normalizer : ChatwootEventNormalizer) (payload : Json)
    (event : NormalizedChatwootEvent) : Prop where
  isObj : payload.isObj = true
  conversation : (nested payload "conversation").isObj = true
  message : (messageRaw payload).isObj = true
  conversationId : event.conversationId = normalizer.text.str (rawConversationId payload)
  isPrivate : event.isPrivate = isPrivateNote (messageRaw payload)
  contentText : if event.isPrivate then event.contentText = none
    else ∃ content, normalizer.content payload = .ok content ∧
      event.contentText = content.map fun s => PyStr.slice s 4096

/-- How an event comes about. -/
theorem normalize_inv {payload : Json} {rawHash correlationId eventDraw : String}
    {event : NormalizedChatwootEvent}
    (h : normalizer.normalize payload rawHash correlationId eventDraw = .ok event) :
    payload.isObj = true ∧ (nested payload "conversation").isObj = true ∧
      (messageRaw payload).isObj = true ∧
      ∃ senderType content accountId, normalizer.senderType payload = .ok senderType ∧
        normalizer.keptContent payload = .ok content ∧
        event =
          { correlationId := correlationId
            idempotencyKey := normalizer.makeIdempotencyKey (normalizer.eventId payload eventDraw)
            rawHash := rawHash
            accountIdRef := makeAccountRef normalizer.sha256 accountId
            conversationId := normalizer.text.str (rawConversationId payload)
            messageType := normalizer.messageType payload
            senderType := senderType
            contentText := Eligibility.contentText (isPrivateNote (messageRaw payload)) content
            isPrivate := isPrivateNote (messageRaw payload) } := by
  unfold normalize at h
  obtain ⟨dict, hdict, h⟩ := bind_eq_ok h
  obtain ⟨account, -, h⟩ := bind_eq_ok h
  obtain ⟨inbox, -, h⟩ := bind_eq_ok h
  obtain ⟨conversation, hconversation, h⟩ := bind_eq_ok h
  obtain ⟨message, hmessage, h⟩ := bind_eq_ok h
  obtain ⟨senderType, hsender, h⟩ := bind_eq_ok h
  obtain ⟨content, hcontent, h⟩ := bind_eq_ok h
  obtain ⟨attachments, -, h⟩ := bind_eq_ok h
  cases h
  obtain ⟨hself, hisObj⟩ := Json.asDict_eq_ok hdict
  obtain ⟨rfl, hmessageObj⟩ := Json.asDict_eq_ok hmessage
  subst hself
  exact ⟨hisObj, (Json.asDict_eq_ok hconversation).2, hmessageObj, senderType, content, _, hsender,
    hcontent, rfl⟩

theorem normalizes_of_eq_ok {payload : Json} {rawHash correlationId eventDraw : String}
    {event : NormalizedChatwootEvent}
    (h : normalizer.normalize payload rawHash correlationId eventDraw = .ok event) :
    normalizer.Normalizes payload event := by
  obtain ⟨hisObj, hconversation, hmessage, senderType, content, accountId, -, hcontent, rfl⟩ :=
    normalize_inv h
  refine ⟨hisObj, hconversation, hmessage, rfl, rfl, ?_⟩
  unfold keptContent at hcontent
  cases hprivate : isPrivateNote (messageRaw payload) with
  | true => simp [Eligibility.contentText]
  | false =>
      rw [hprivate, if_neg Bool.false_ne_true] at hcontent
      exact ⟨content, hcontent, rfl⟩

theorem idempotencyKey_of_eq_ok {payload : Json} {rawHash correlationId eventDraw : String}
    {event : NormalizedChatwootEvent}
    (h : normalizer.normalize payload rawHash correlationId eventDraw = .ok event) :
    event.idempotencyKey =
      normalizer.makeIdempotencyKey (normalizer.eventId payload eventDraw) := by
  obtain ⟨-, -, -, senderType, content, accountId, -, -, rfl⟩ := normalize_inv h
  rfl

theorem senderType_of_eq_ok {payload : Json} {rawHash correlationId eventDraw : String}
    {event : NormalizedChatwootEvent}
    (h : normalizer.normalize payload rawHash correlationId eventDraw = .ok event) :
    normalizer.senderType payload = .ok event.senderType := by
  obtain ⟨-, -, -, senderType, content, accountId, hsender, -, rfl⟩ := normalize_inv h
  exact hsender

end ChatwootEventNormalizer

end Iara.Eligibility
