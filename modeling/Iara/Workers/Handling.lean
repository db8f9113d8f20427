import Iara.Lib.PyJson
import Iara.Workers.JobConsumer

/-!
# Reading a job

What `_handle_job` reads from the payload of a message, with the defaults of missing keys.
-/

namespace Iara.Workers

open Iara.Lib Iara.Graph

/-- A value that is a text. -/
def textField : Json → Option String
  | .str s => some s
  | _ => none

/-- A value that is a text or `None`. -/
def optionalField : Json → Option (Option String)
  | .null => some none
  | .str s => some (some s)
  | _ => none

/-- `payload.get("attachments") or []` -/
def attachmentDictsOf (payload : Json) : Json :=
  (payload.getD "attachments" .null).orElse (.arr [])

/-- An attachment as `process_from_dicts` reads it; `none` where the reference, the URL or a
type is no text, as the endpoint queues them too. -/
def attachmentOf (att : Json) : Option Attachment := do
  let ref ← textField (att.getD "ref" (.str "unknown"))
  let url ← textField ((att.getD "url" .null).orElse (.str ""))
  let contentType ← textField
    ((att.getD "content_type" .null).orElse (.str "application/octet-stream"))
  let type ← textField (att.getD "type" (.str "file"))
  some { ref := ref, url := url, contentType := contentType, type := type }

def attachmentsOf (payload : Json) : Option (List Attachment) :=
  match attachmentDictsOf payload with
  | .arr items => if items.all Json.isObj then items.mapM attachmentOf else none
  | _ => none

/-- `payload.get("content") or ""`, where the empty text is kept apart from a missing one. -/
def contentOf (payload : Json) : Option (Option String) :=
  match payload.getD "content" .null with
  | .str s => some (some s)
  | value => if value.truthy then none else some none

namespace JobPayload

/-- A missing correlation id is replaced by a fresh one later. -/
def correlationIdOf (payload : Json) : Option (Option String) :=
  match payload.get "correlation_id" with
  | none => some none
  | some value => (textField value).map some

/-- The payload of a message without its attachments; `none` where a field is neither a text nor
missing. -/
def fieldsOf (payload : Json) : Option JobPayload := do
  let tenantId ← textField (payload.getD "tenant_id" (.str ""))
  let conversationId ← textField (payload.getD "conversation_id" (.str ""))
  let correlationId ← correlationIdOf payload
  let idempotencyKey ← textField (payload.getD "idempotency_key" (.str ""))
  let eventRef ← textField (payload.getD "event_ref" (.str ""))
  let content ← contentOf payload
  let senderType ← optionalField (payload.getD "sender_type" (.str "contact"))
  let senderRef ← optionalField (payload.getD "sender_ref" (.str ""))
  some
    { tenantId := tenantId
      conversationId := conversationId
      correlationId := correlationId
      idempotencyKey := idempotencyKey
      eventRef := eventRef
      content := content
      senderType := senderType
      senderRef := senderRef }

/-- The payload with its attachments; `none` also where a part of an attachment is no text. -/
def ofDict (payload : Json) : Option JobPayload := do
  let job ← fieldsOf payload
  let attachments ← attachmentsOf payload
  some { job with attachments := attachments }

end JobPayload

end Iara.Workers
