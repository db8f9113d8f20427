import Iara.Api.Extraction
import Iara.Messaging.Consumer
import Iara.Workers.Handling

/-!
# A job crosses the queue unchanged

Whatever body a webhook is sent, the endpoint answers without an exception of its own, and
the job of an accepted event reaches the handler as the dict that was published: the bytes
on the queue lose nothing, and `_handle_job` reads the fields that the endpoint wrote.
-/

namespace Iara.Api

open Iara.Lib Iara.Eligibility Iara.Messaging Iara.Workers

namespace Receiver

variable {receiver : Receiver} {floats : PyFloat} {tenant : TenantContext} {payload : Json}

/-! ## The second reading does not raise -/

theorem normalizeAttachments_of_eq_ok {rawHash correlationId eventDraw : String}
    {event : NormalizedChatwootEvent}
    (h : (receiver.normalizer tenant).normalize payload rawHash correlationId eventDraw =
      .ok event) : (receiver.normalizer tenant).normalizeAttachments payload = .ok () := by
  unfold ChatwootEventNormalizer.normalize at h
  obtain ⟨dict, hdict, h⟩ := bind_eq_ok h
  obtain ⟨rfl, -⟩ := Json.asDict_eq_ok hdict
  obtain ⟨account, -, h⟩ := bind_eq_ok h
  obtain ⟨inbox, -, h⟩ := bind_eq_ok h
  obtain ⟨conversation, -, h⟩ := bind_eq_ok h
  obtain ⟨message, -, h⟩ := bind_eq_ok h
  obtain ⟨senderType, -, h⟩ := bind_eq_ok h
  obtain ⟨content, -, h⟩ := bind_eq_ok h
  obtain ⟨attachments, hattachments, -⟩ := bind_eq_ok h
  exact hattachments

/-- What the normalizer iterates, the endpoint iterates. -/
theorem exists_attachmentJobs
    (h : (receiver.normalizer tenant).normalizeAttachments payload = .ok ()) :
    ∃ jobs, receiver.attachmentJobs payload = .ok jobs := by
  unfold ChatwootEventNormalizer.normalizeAttachments at h
  unfold attachmentJobs
  cases hraw : rawAttachments payload with
  | arr items => exact ⟨_, rfl⟩
  | obj entries => exact ⟨_, rfl⟩
  | str text => exact ⟨_, rfl⟩
  | _ =>
      unfold rawAttachments at hraw
      rw [hraw] at h
      cases h

/-- The sender is the one that the normalizer has found to be a dict. -/
theorem asDict_rawSender {senderType : Option SenderType}
    (h : (receiver.normalizer tenant).senderType payload = .ok senderType) :
    (rawSender payload).asDict = .ok (rawSender payload) := by
  unfold ChatwootEventNormalizer.senderType at h
  obtain ⟨sender, hsender, -⟩ := bind_eq_ok h
  exact if_pos (Json.asDict_eq_ok hsender).2

theorem exists_conversationJob {rawHash correlationId eventDraw : String}
    {event : NormalizedChatwootEvent}
    (h : (receiver.normalizer tenant).normalize payload rawHash correlationId eventDraw =
      .ok event) (scheduledAt : String) :
    ∃ job, receiver.conversationJob tenant event payload scheduledAt = .ok job := by
  obtain ⟨jobs, hjobs⟩ := exists_attachmentJobs (normalizeAttachments_of_eq_ok h)
  have hsender := asDict_rawSender (ChatwootEventNormalizer.senderType_of_eq_ok h)
  unfold conversationJob
  rw [hjobs, hsender]
  exact ⟨_, rfl⟩

/-! ## What is published can be written -/

theorem loadable_emptyDict : JsonText.Loadable floats emptyDict :=
  JsonText.loadable_obj List.nodup_nil (List.forall_mem_nil _)

theorem loadable_rawAttachments (h : JsonText.Loadable floats payload) :
    JsonText.Loadable floats (rawAttachments payload) := by
  have hmessage : JsonText.Loadable floats (messageRaw payload) :=
    (h.getD loadable_emptyDict "message").orElse h
  have hempty : JsonText.Loadable floats (.arr []) := JsonText.loadable_arr (List.forall_mem_nil _)
  exact (hmessage.getD JsonText.loadable_null "attachments").orElse
    ((h.getD JsonText.loadable_null "attachments").orElse hempty)

theorem loadable_attachmentUrl {att : Json} (h : JsonText.Loadable floats att) :
    JsonText.Loadable floats (attachmentUrl att) :=
  (h.getD JsonText.loadable_null "data_url").orElse
    ((h.getD JsonText.loadable_null "url").orElse (h.getD JsonText.loadable_null "thumb_url"))

/-- The dict of an attachment that is queued. -/
theorem attachmentJob_eq_some {i : Nat} {att job : Json}
    (h : receiver.attachmentJob i att = some job) :
    (attachmentUrl att).truthy = true ∧ ∃ ref, job = .obj
      [("ref", .str ref), ("url", attachmentUrl att),
        ("content_type",
          (att.getD "content_type" .null).orElse (.str "application/octet-stream")),
        ("type", att.getD "file_type" (.str "file"))] := by
  unfold attachmentJob at h
  split at h
  next => cases h
  next =>
    split at h
    next => cases h
    next hurl =>
      cases h
      refine ⟨?_, _, rfl⟩
      simpa using hurl

theorem loadable_attachmentJob {i : Nat} {att job : Json} (h : JsonText.Loadable floats att)
    (hjob : receiver.attachmentJob i att = some job) : JsonText.Loadable floats job := by
  obtain ⟨-, ref, rfl⟩ := attachmentJob_eq_some hjob
  apply JsonText.loadable_obj
  · simp only [List.map_cons, List.map_nil]
    decide
  · intro entry hentry
    simp only [List.mem_cons, List.not_mem_nil, or_false] at hentry
    rcases hentry with rfl | rfl | rfl | rfl
    · exact JsonText.loadable_str ref
    · exact loadable_attachmentUrl h
    · exact (h.getD JsonText.loadable_null "content_type").orElse (JsonText.loadable_str _)
    · exact h.getD (JsonText.loadable_str _) "file_type"

/-- A queued attachment comes from an attachment of the payload. -/
theorem mem_attachmentJobs {jobs : List Json} {job : Json}
    (h : receiver.attachmentJobs payload = .ok jobs) (hjob : job ∈ jobs) :
    ∃ items i att, rawAttachments payload = .arr items ∧ att ∈ items ∧
      receiver.attachmentJob i att = some job := by
  unfold attachmentJobs at h
  split at h
  next items hitems =>
    cases h
    obtain ⟨⟨att, i⟩, hmem, hatt⟩ := List.mem_filterMap.1 hjob
    exact ⟨items, i, att, hitems, List.fst_mem_of_mem_zipIdx hmem, hatt⟩
  next => cases h; cases hjob
  next => cases h; cases hjob
  next => cases h

/-! ## Across the queue -/

/-- What the endpoint puts into a job. -/
theorem conversationJob_inv {event : NormalizedChatwootEvent} {scheduledAt : String}
    {job : ConversationJob}
    (h : receiver.conversationJob tenant event payload scheduledAt = .ok job) :
    ∃ attachments, receiver.attachmentJobs payload = .ok attachments ∧
      job =
        { tenantId := formatUuid tenant.tenantId
          conversationId := event.conversationId
          correlationId := event.correlationId
          idempotencyKey := event.idempotencyKey
          eventRef := event.rawHash
          content := event.contentText
          attachments := attachments
          senderType := job.senderType
          senderRef := job.senderRef
          scheduledAt := scheduledAt } := by
  unfold conversationJob at h
  obtain ⟨attachments, hattachments, h⟩ := bind_eq_ok h
  obtain ⟨sender, -, h⟩ := bind_eq_ok h
  cases h
  exact ⟨attachments, hattachments, rfl⟩

theorem attachmentDictsOf_toDict (job : ConversationJob) :
    attachmentDictsOf job.toDict = .arr job.attachments := by
  have hget : job.toDict.getD "attachments" .null = .arr job.attachments := rfl
  unfold attachmentDictsOf
  rw [hget]
  unfold Json.orElse Json.truthy
  cases job.attachments <;> rfl

theorem contentOf_toDict (job : ConversationJob) : contentOf job.toDict = some job.content := by
  have hget : job.toDict.getD "content" .null = optionalText job.content := rfl
  unfold contentOf
  rw [hget]
  cases job.content <;> rfl

/-- What is queued for an attachment is a dict. -/
theorem all_isObj_attachments {event : NormalizedChatwootEvent} {scheduledAt : String}
    {job : ConversationJob}
    (h : receiver.conversationJob tenant event payload scheduledAt = .ok job) :
    job.attachments.all Json.isObj = true := by
  obtain ⟨dicts, hdicts, hjob⟩ := conversationJob_inv h
  rw [hjob]
  apply List.all_eq_true.2
  intro dict hdict
  obtain ⟨items, i, att, -, -, hatt⟩ := mem_attachmentJobs hdicts hdict
  obtain ⟨-, ref, rfl⟩ := attachmentJob_eq_some hatt
  rfl

/-- `_handle_job` reads the fields that were published, whatever the attachments are. -/
theorem fieldsOf_toDict {event : NormalizedChatwootEvent} {scheduledAt : String}
    {job : ConversationJob}
    (h : receiver.conversationJob tenant event payload scheduledAt = .ok job) :
    JobPayload.fieldsOf job.toDict = some
      { tenant := tenant, event := event, senderType := job.senderType,
        senderRef := job.senderRef : WebhookRequest }.job := by
  obtain ⟨dicts, -, hjob⟩ := conversationJob_inv h
  have hread : JobPayload.fieldsOf job.toDict = some
      { tenantId := job.tenantId, conversationId := job.conversationId,
        correlationId := some job.correlationId, idempotencyKey := job.idempotencyKey,
        eventRef := job.eventRef, content := job.content, senderType := some job.senderType,
        senderRef := some job.senderRef } := by
    unfold JobPayload.fieldsOf
    rw [contentOf_toDict]
    rfl
  rw [hread, hjob]
  rfl

/-- Where the attachments can be read too, the job is read as the request's. -/
theorem ofDict_toDict {event : NormalizedChatwootEvent} {scheduledAt : String}
    {job : ConversationJob} {attachments : List Graph.Attachment}
    (h : receiver.conversationJob tenant event payload scheduledAt = .ok job)
    (hattachments : job.attachments.mapM attachmentOf = some attachments) :
    JobPayload.ofDict job.toDict = some
      { tenant := tenant, event := event, attachments := attachments,
        senderType := job.senderType, senderRef := job.senderRef : WebhookRequest }.job := by
  have hread : attachmentsOf job.toDict = some attachments := by
    unfold attachmentsOf
    rw [attachmentDictsOf_toDict]
    exact (if_pos (all_isObj_attachments h)).trans hattachments
  unfold JobPayload.ofDict
  rw [fieldsOf_toDict h, hread]
  rfl

/-- The body of a published job is the job again. -/
theorem payloadOf_publish {job : ConversationJob} (h : JsonText.Loadable floats job.toDict) :
    ∃ message, MessagePublisher.publishConversationJob job = .ok message ∧
      MessageConsumer.payloadOf floats message.body = .ok job.toDict := by
  unfold MessagePublisher.publishConversationJob
  rw [JsonText.dumps_of_loadable h]
  refine ⟨_, rfl, ?_⟩
  have hdict : job.toDict.asDict = .ok job.toDict := if_pos rfl
  simp only [MessageConsumer.payloadOf, decode_toUTF8, bind, Except.bind,
    JsonText.loads_textOf h, hdict]

/-- How a body is accepted. -/
theorem receive_inv {body rawHash correlationId eventDraw scheduledAt : String}
    {event : NormalizedChatwootEvent} {job : ConversationJob}
    (h : receiver.receive floats tenant body rawHash correlationId eventDraw scheduledAt =
      .ok (event, job)) :
    ∃ payload, JsonText.loads floats body = .ok payload ∧
      receiver.conversationJob tenant event payload scheduledAt = .ok job := by
  unfold receive at h
  split at h
  next => cases h
  next payload hloads =>
    split at h
    next => cases h
    next event' hnormalize =>
      split at h
      next => cases h
      next job' hjob =>
        obtain ⟨rfl, rfl⟩ := Prod.mk.inj (Except.ok.inj h)
        exact ⟨payload, hloads, hjob⟩

theorem receive_ne_serverError
    (body rawHash correlationId eventDraw scheduledAt exception : String) :
    receiver.receive floats tenant body rawHash correlationId eventDraw scheduledAt ≠
      .error (.serverError exception) := by
  intro h
  unfold receive at h
  split at h
  next => cases h
  next payload hloads =>
    split at h
    next => cases h
    next event hnormalize =>
      obtain ⟨job, hjob⟩ := exists_conversationJob hnormalize scheduledAt
      rw [hjob] at h
      cases h

/-- Whatever is queued was read of a text, and can be written again. -/
theorem loadable_conversationJob {event : NormalizedChatwootEvent} {scheduledAt : String}
    {job : ConversationJob} (hpayload : JsonText.Loadable floats payload)
    (h : receiver.conversationJob tenant event payload scheduledAt = .ok job) :
    JsonText.Loadable floats job.toDict := by
  apply ConversationJob.loadable_toDict
  intro dict hdict
  obtain ⟨dicts, hdicts, hfields⟩ := conversationJob_inv h
  rw [hfields] at hdict
  obtain ⟨items, i, att, hitems, hmem, hatt⟩ := mem_attachmentJobs hdicts hdict
  have hraw := loadable_rawAttachments hpayload
  rw [hitems] at hraw
  exact loadable_attachmentJob (hraw.item hmem) hatt

end Receiver

/-- The broker is told whether the handler returned. -/
theorem onMessage_eq {floats : PyFloat} {body : ByteArray} {payload : Json}
    (h : MessageConsumer.payloadOf floats body = .ok payload)
    (handler : Json → Except String Unit) :
    MessageConsumer.onMessage floats handler body =
      match handler payload with
      | .ok _ => .ack
      | .error _ => .nack := by
  unfold MessageConsumer.onMessage
  rw [h]
  rfl

/-- For every body: the endpoint raises nothing after the normalization, and the job of an
event it accepts is published, reaches the handler as it was published and is acknowledged
exactly where the handler returns.  The handler reads the fields of the request and the dicts of
its attachments, and the whole job of the request where the parts of these dicts are texts. -/
theorem received_job_is_handled (receiver : Receiver) (floats : PyFloat) (tenant : TenantContext)
    (body rawHash correlationId eventDraw scheduledAt : String) :
    (∀ exception, receiver.receive floats tenant body rawHash correlationId eventDraw
      scheduledAt ≠ .error (.serverError exception)) ∧
    ∀ event job, receiver.receive floats tenant body rawHash correlationId eventDraw scheduledAt =
        .ok (event, job) →
      ∃ message, MessagePublisher.publishConversationJob job = .ok message ∧
        (∀ handler, MessageConsumer.onMessage floats handler message.body =
          match handler job.toDict with
          | .ok _ => .ack
          | .error _ => .nack) ∧
        JobPayload.fieldsOf job.toDict = some
          { tenant := tenant, event := event, senderType := job.senderType,
            senderRef := job.senderRef : WebhookRequest }.job ∧
        attachmentDictsOf job.toDict = .arr job.attachments ∧
        ∀ attachments, job.attachments.mapM attachmentOf = some attachments →
          JobPayload.ofDict job.toDict = some
            { tenant := tenant, event := event, attachments := attachments,
              senderType := job.senderType, senderRef := job.senderRef : WebhookRequest }.job := by
  constructor
  · intro exception
    exact Receiver.receive_ne_serverError body rawHash correlationId eventDraw scheduledAt
      exception
  · intro event job h
    obtain ⟨payload, hloads, hjob⟩ := Receiver.receive_inv h
    have hloadable := Receiver.loadable_conversationJob (JsonText.loadable_of_loads hloads) hjob
    obtain ⟨message, hpublish, hread⟩ := Receiver.payloadOf_publish hloadable
    exact ⟨message, hpublish, onMessage_eq hread, Receiver.fieldsOf_toDict hjob,
      Receiver.attachmentDictsOf_toDict job, fun attachments => Receiver.ofDict_toDict hjob⟩

/-! ## A body to receive -/

section Example

/-- Floats that are kept as they are written. -/
def plainFloats : PyFloat where
  reprOf literal := if JsonText.isFloatLiteral literal.toList then literal else "0.0"
  stable literal := by
    by_cases h : JsonText.isFloatLiteral literal.toList = true
    · rw [if_pos h]
      exact .inr ⟨h, if_pos h⟩
    · rw [if_neg h]
      exact .inr ⟨by decide, by decide⟩

def photoBody : String :=
  "\x7b\"id\": 7, \"event\": \"message_created\", \"message\": \x7b\"content\": \"Ol\\u00e1\", " ++
    "\"message_type\": \"incoming\", \"sender\": \x7b\"id\": 12, \"type\": \"contact\"\x7d, " ++
    "\"attachments\": [\x7b\"data_url\": \"https://x/1\", \"file_type\": \"image\"\x7d]\x7d\x7d"

/-- The request of a body, as far as the job needs it. -/
def receivedPhoto : Except Refusal (NormalizedChatwootEvent × ConversationJob) :=
  plainReceiver.receive plainFloats WebhookRouter.plainTenant photoBody "h" "c" "d" "t"

theorem received_job_is_handled_photo :
    ∃ event job message attachments, receivedPhoto = .ok (event, job) ∧
      MessagePublisher.publishConversationJob job = .ok message ∧
      MessageConsumer.onMessage plainFloats (fun _ => .ok ()) message.body = .ack ∧
      attachments.length = 1 ∧
      (JobPayload.ofDict job.toDict).map JobPayload.attachments = some attachments := by
  have hok : (receivedPhoto.toOption.bind fun p => p.2.attachments.mapM attachmentOf).map
      List.length = some 1 := by decide +kernel
  cases hreceive : receivedPhoto with
  | error refusal => rw [hreceive] at hok; cases hok
  | ok accepted =>
      obtain ⟨event, job⟩ := accepted
      rw [hreceive] at hok
      obtain ⟨attachments, hattachments, hlength⟩ := Option.map_eq_some_iff.1 hok
      obtain ⟨message, hpublish, hmessage, -, -, hread⟩ := (received_job_is_handled plainReceiver
        plainFloats WebhookRouter.plainTenant photoBody "h" "c" "d" "t").2 event job hreceive
      refine ⟨event, job, message, attachments, rfl, hpublish, hmessage _, hlength, ?_⟩
      rw [hread attachments hattachments]
      rfl

end Example

end Iara.Api
