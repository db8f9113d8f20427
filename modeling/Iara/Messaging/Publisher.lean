import Iara.Lib.JsonLoads

/-!
# Job messages

`ConversationJob` and the message that `MessagePublisher` makes of it: the JSON text of the
job, as bytes.
-/

namespace Iara.Messaging

open Iara.Lib

def exchangeJobs : String := "iara.jobs"

def routingConversationJob : String := "job.conversation"

/-- A job as the webhook queues it; its attachments are still the raw dicts. -/
structure ConversationJob where
  tenantId : String
  conversationId : String
  correlationId : String
  idempotencyKey : String
  eventRef : String
  content : Option String := none
  attachments : List Json := []
  senderType : String := "contact"
  senderRef : String := ""
  scheduledAt : String
  deriving DecidableEq, Repr

/-- A `str | None` in a dict. -/
def optionalText : Option String → Json
  | none => .null
  | some s => .str s

namespace ConversationJob

def toDict (job : ConversationJob) : Json :=
  .obj
    [("tenant_id", .str job.tenantId),
      ("conversation_id", .str job.conversationId),
      ("correlation_id", .str job.correlationId),
      ("idempotency_key", .str job.idempotencyKey),
      ("event_ref", .str job.eventRef),
      ("content", optionalText job.content),
      ("attachments", .arr job.attachments),
      ("sender_type", .str job.senderType),
      ("sender_ref", .str job.senderRef),
      ("scheduled_at", .str job.scheduledAt)]

variable {floats : PyFloat}

theorem loadable_toDict {job : ConversationJob}
    (h : ∀ attachment ∈ job.attachments, JsonText.Loadable floats attachment) :
    JsonText.Loadable floats job.toDict := by
  apply JsonText.loadable_obj
  · simp only [List.map_cons, List.map_nil]
    decide
  · have hcontent : JsonText.Loadable floats (optionalText job.content) := by
      cases job.content with
      | none => exact JsonText.loadable_null
      | some s => exact JsonText.loadable_str s
    intro entry hentry
    simp only [List.mem_cons, List.not_mem_nil, or_false] at hentry
    rcases hentry with rfl | rfl | rfl | rfl | rfl | rfl | rfl | rfl | rfl | rfl
    · exact JsonText.loadable_str _
    · exact JsonText.loadable_str _
    · exact JsonText.loadable_str _
    · exact JsonText.loadable_str _
    · exact JsonText.loadable_str _
    · exact hcontent
    · exact JsonText.loadable_arr h
    · exact JsonText.loadable_str _
    · exact JsonText.loadable_str _
    · exact JsonText.loadable_str _

end ConversationJob

structure Message where
  body : ByteArray
  contentType : String
  headers : List (String × String)
  exchange : String
  routingKey : String

/-- `publish_conversation_job` up to the broker. -/
def MessagePublisher.publishConversationJob (job : ConversationJob) : Except String Message := do
  let text ← JsonText.dumps job.toDict
  .ok
    { body := text.toUTF8
      contentType := "application/json"
      headers := [("correlation_id", job.correlationId), ("tenant_id", job.tenantId)]
      exchange := exchangeJobs
      routingKey := routingConversationJob }

end Iara.Messaging
