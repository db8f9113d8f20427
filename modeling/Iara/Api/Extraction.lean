import Iara.Api.Reception
import Iara.Lib.JsonSound
import Iara.Messaging.Publisher

/-!
# From a body to a job

`receive_chatwoot_webhook` from the decoded body to the job of the background task: the
payload is parsed and normalized, and the attachments and the sender are read from the raw
payload once more.
-/

namespace Iara.Api

open Iara.Lib Iara.Eligibility Iara.Messaging

/-- `message_raw.get("attachments") or payload.get("attachments") or []` -/
def rawAttachments (payload : Json) : Json :=
  ((messageRaw payload).getD "attachments" .null).orElse
    ((payload.getD "attachments" .null).orElse (.arr []))

/-- `att.get("data_url") or att.get("url") or att.get("thumb_url")` -/
def attachmentUrl (att : Json) : Json :=
  (att.getD "data_url" .null).orElse
    ((att.getD "url" .null).orElse (att.getD "thumb_url" .null))

/-- What an endpoint that does not accept a body answers with. -/
inductive Refusal where
  /-- 400 -/
  | invalidJson
  /-- 422 -/
  | normalizationFailed (exception : String)
  /-- An exception that nothing catches. -/
  | serverError (exception : String)
  deriving DecidableEq, Repr

namespace Receiver

variable (receiver : Receiver)

/-- The dict of the `i`-th attachment; those without a URL are passed over, and so is what
is no dict. -/
def attachmentJob (i : Nat) (att : Json) : Option Json :=
  if !att.isObj then none
  else if !(attachmentUrl att).truthy then none
  else
    let fileKey := (att.getD "file_key" .null).orElse
      (att.getD "id" (.str ("att_" ++ toString i)))
    some (.obj
      [("ref", .str (PyStr.slice (receiver.router.sha256 (receiver.text.str fileKey)) 24)),
        ("url", attachmentUrl att),
        ("content_type",
          (att.getD "content_type" .null).orElse (.str "application/octet-stream")),
        ("type", att.getD "file_type" (.str "file"))])

/-- A dict is iterated by its keys and a text by its characters, of which none is a dict. -/
def attachmentJobs (payload : Json) : Except String (List Json) :=
  match rawAttachments payload with
  | .arr items => .ok (items.zipIdx.filterMap fun att => receiver.attachmentJob att.2 att.1)
  | .obj _ => .ok []
  | .str _ => .ok []
  | _ => .error "TypeError"

/-- The job of `_queue_processing_job`. -/
def conversationJob (tenant : TenantContext) (event : NormalizedChatwootEvent) (payload : Json)
    (scheduledAt : String) : Except String ConversationJob := do
  let attachments ← receiver.attachmentJobs payload
  let sender ← (rawSender payload).asDict
  .ok
    { tenantId := formatUuid tenant.tenantId
      conversationId := event.conversationId
      correlationId := event.correlationId
      idempotencyKey := event.idempotencyKey
      eventRef := event.rawHash
      content := event.contentText
      attachments := attachments
      senderType := receiver.text.str (sender.getD "type" (.str "contact"))
      senderRef := receiver.text.str (sender.getD "id" (.str ""))
      scheduledAt := scheduledAt }

/-- The event of a body and the job that is queued for it once it is found eligible. -/
def receive (floats : PyFloat) (tenant : TenantContext)
    (body rawHash correlationId eventDraw scheduledAt : String) :
    Except Refusal (NormalizedChatwootEvent × ConversationJob) :=
  match JsonText.loads floats body with
  | .error _ => .error .invalidJson
  | .ok payload =>
      match (receiver.normalizer tenant).normalize payload rawHash correlationId eventDraw with
      | .error exception => .error (.normalizationFailed exception)
      | .ok event =>
          match receiver.conversationJob tenant event payload scheduledAt with
          | .error exception => .error (.serverError exception)
          | .ok job => .ok (event, job)

end Receiver

end Iara.Api
