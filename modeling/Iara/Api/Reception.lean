import Iara.Api.WebhookSteps
import Iara.Eligibility.Normalizer

/-!
# From a payload to a job

`receive_chatwoot_webhook` up to the normalized event: which request a payload
becomes, and which jobs of a run are published for it.
-/

namespace Iara.Api

open Iara.Lib Iara.Eligibility

/-- The endpoint, with what its normalizer takes from libraries. -/
structure Receiver where
  router : WebhookRouter
  text : PyText
  isInt : Json → Bool

namespace Receiver

variable (receiver : Receiver)

def normalizer (tenant : TenantContext) : ChatwootEventNormalizer where
  sha256 := receiver.router.sha256
  text := receiver.text
  isInt := receiver.isInt
  tenant := tenant

/-- The payload is normalized to the event of the request; its attachments and its
sender may be any. -/
def Received (payload : Json) (request : WebhookRequest) : Prop :=
  ∃ rawHash correlationId eventDraw,
    (receiver.normalizer request.tenant).normalize payload rawHash correlationId eventDraw =
      .ok request.event

variable {receiver} in
theorem Received.normalizes {payload : Json} {request : WebhookRequest}
    (h : receiver.Received payload request) :
    (receiver.normalizer request.tenant).Normalizes payload request.event := by
  obtain ⟨rawHash, correlationId, eventDraw, hok⟩ := h
  exact ChatwootEventNormalizer.normalizes_of_eq_ok hok

/-- The payloads of the deliveries of a run, by the number of the delivery. -/
def Deliveries (c : WebhookRouter.State) (payloads : Nat → Json) : Prop :=
  ∀ i d, c.parties[i]? = some d → receiver.Received (payloads i) d.request

end Receiver

/-! ## The second reading -/

/-- `message_raw.get("sender") or payload.get("sender") or {}`. -/
def rawSender (payload : Json) : Json :=
  ((messageRaw payload).getD "sender" .null).orElse
    ((payload.getD "sender" .null).orElse emptyDict)

/-- `str(sender_raw.get("type", "contact"))`. -/
def jobSenderType (text : PyText) (payload : Json) : String :=
  text.str ((rawSender payload).getD "type" (.str "contact"))

/-- `str(sender_raw.get("id", ""))`. -/
def jobSenderRef (text : PyText) (payload : Json) : String :=
  text.str ((rawSender payload).getD "id" (.str ""))

/-- The request takes its event from the normalizer and its sender from the payload. -/
structure Receiver.Extracts (receiver : Receiver) (payload : Json) (request : WebhookRequest) :
    Prop where
  received : receiver.Received payload request
  senderType : request.senderType = jobSenderType receiver.text payload
  senderRef : request.senderRef = jobSenderRef receiver.text payload

/-- The job was published for a delivery of the payload. -/
def PublishedFor (c : WebhookRouter.State) (payloads : Nat → Json) (payload : Json)
    (job : PublishedJob) : Prop :=
  ∃ i d, c.parties[i]? = some d ∧ d.phase = .published ∧ payloads i = payload ∧
    job = d.publishedJob

/-- Every job of a run is published for one of the payloads. -/
theorem exists_publishedFor {router : WebhookRouter} {actions : List WebhookRouter.Action}
    {c : WebhookRouter.State} (hrun : router.machine.run { shared := {} } actions = some c)
    (payloads : Nat → Json) :
    ∀ job ∈ c.shared.jobs, ∃ payload, PublishedFor c payloads payload job := by
  intro job hjob
  obtain ⟨d, hmem, hphase, hd⟩ := WebhookRouter.published_of_job rfl hrun job hjob
  obtain ⟨i, hi⟩ := List.mem_iff_getElem?.1 hmem
  exact ⟨payloads i, i, d, hi, hphase, rfl, hd⟩

/-! ## An endpoint to run -/

section Example

def plainReceiver : Receiver where
  router := WebhookRouter.plainRouter
  text := plainText
  isInt _ := true

def incomingMessage (entries : List (String × Json)) : String × Json :=
  ("message", .obj (("message_type", .str "incoming") :: entries))

/-- The request of a payload; where it is not normalized, that of an empty event. -/
def requestOf (payload : Json) : WebhookRequest where
  tenant := WebhookRouter.plainTenant
  event :=
    match (plainReceiver.normalizer WebhookRouter.plainTenant).normalize payload "h" "c" "d" with
    | .ok event => event
    | .error _ =>
        { correlationId := "", idempotencyKey := "", rawHash := "", accountIdRef := "",
          conversationId := "" }

theorem received_requestOf {payload : Json}
    (h : ((plainReceiver.normalizer WebhookRouter.plainTenant).normalize payload "h" "c"
      "d").isOk = true) : plainReceiver.Received payload (requestOf payload) := by
  refine ⟨"h", "c", "d", ?_⟩
  have htenant : (requestOf payload).tenant = WebhookRouter.plainTenant := rfl
  rw [htenant]
  cases hnormalize :
      (plainReceiver.normalizer WebhookRouter.plainTenant).normalize payload "h" "c" "d" with
  | error exception => rw [hnormalize] at h; cases h
  | ok event => simp only [requestOf, hnormalize]

/-- The payload is delivered and accepted. -/
def acceptedRun (payload : Json) : List WebhookRouter.Action :=
  .environment (.deliver (requestOf payload)) :: WebhookRouter.acceptSteps 0

def afterAccepted (payload : Json) : WebhookRouter.State :=
  (plainReceiver.router.machine.run { shared := {} } (acceptedRun payload)).getD { shared := {} }

end Example

end Iara.Api
