import Iara.Api.Reception

/-!
# The conversation of a job

A missing conversation id becomes the text "unknown", and a null the text "None".
-/

namespace Iara.Api

open Iara.Lib Iara.Persistence Iara.Eligibility

/-! ## What a payload names -/

/-- The value of a key that is there and not null. -/
def carried (container : Json) (key : String) : Option Json :=
  (container.get key).filter fun value => value ≠ .null

/-- The id in `conversation.id` or, without one, in `conversation_id`. -/
def namedConversation (text : PyText) (payload : Json) : Option String :=
  ((carried (nested payload "conversation") "id").or (carried payload "conversation_id")).map
    text.str

/-- `conversation.id` is null, which keeps `conversation_id` from being looked at. -/
def NullId (payload : Json) : Prop :=
  (nested payload "conversation").get "id" = some .null

instance (payload : Json) : Decidable (NullId payload) := inferInstanceAs (Decidable (_ = _))

variable {text : PyText} {payload : Json}

theorem carried_of_get {container value : Json} {key : String} (hnull : value ≠ .null)
    (h : container.get key = some value) : carried container key = some value := by
  rw [carried, h, Option.filter_some, if_pos (by simpa using hnull)]

theorem get_of_carried {container value : Json} {key : String}
    (h : carried container key = some value) : container.get key = some value := by
  unfold carried at h
  exact (Option.filter_eq_some_iff.1 h).1

theorem str_rawConversationId_of_nullId (h : NullId payload) :
    text.str (rawConversationId payload) = "None" := by
  unfold NullId at h
  rw [rawConversationId, Json.getD, h, Option.getD_some, PyText.str_null]

/-- Without a null in the way, the id of the event is the one that is named. -/
theorem str_rawConversationId {name : String} (hnull : ¬ NullId payload)
    (h : namedConversation text payload = some name) :
    text.str (rawConversationId payload) = name := by
  unfold NullId at hnull
  obtain ⟨value, hvalue, rfl⟩ := Option.map_eq_some_iff.1 h
  unfold rawConversationId
  cases hget : (nested payload "conversation").get "id" with
  | some id =>
      have hid : id ≠ .null := by
        rintro rfl
        exact hnull hget
      rw [carried_of_get hid hget, Option.some_or, Option.some.injEq] at hvalue
      rw [Json.getD, hget, Option.getD_some, hvalue]
  | none =>
      have hmissing : carried (nested payload "conversation") "id" = none := by
        rw [carried, hget, Option.filter_none]
      rw [hmissing, Option.none_or] at hvalue
      rw [Json.getD, hget, Option.getD_none, Json.getD, get_of_carried hvalue, Option.getD_some]

/-! ## Two payloads -/

/-- A payload that the endpoint normalizes, with its request. -/
structure ReceivedPayload (receiver : Receiver) where
  payload : Json
  request : WebhookRequest
  received : receiver.Received payload request

variable {receiver : Receiver}

namespace ReceivedPayload

variable (p : ReceivedPayload receiver)

/-- The rules that need no database let the event through. -/
def Accepted : Prop := receiver.router.checkEvent p.request = none

def name : Option String := namedConversation receiver.text p.payload

/-- The conversation id of the payload's jobs. -/
theorem conversationId_eq :
    p.request.event.conversationId = receiver.text.str (rawConversationId p.payload) :=
  p.received.normalizes.conversationId

end ReceivedPayload

/-- The job was published for a delivery of the request. -/
def PublishedBy (c : WebhookRouter.State) (request : WebhookRequest) (job : PublishedJob) : Prop :=
  job ∈ c.shared.jobs ∧
    ∃ d ∈ c.parties, d.phase = .published ∧ d.request = request ∧ job = d.publishedJob

/-- In every run, a job is published only for a payload that names its conversation. -/
def Identified (p : ReceivedPayload receiver) : Prop :=
  ∀ actions c, receiver.router.machine.run { shared := {} } actions = some c →
    ∀ job, PublishedBy c p.request job → p.name ≠ none

/-- In every run, jobs of one tenant share their conversation id only if their
payloads name the same conversation. -/
def Separated (p q : ReceivedPayload receiver) : Prop :=
  ∀ actions c, receiver.router.machine.run { shared := {} } actions = some c →
    ∀ job job', PublishedBy c p.request job → PublishedBy c q.request job' →
      job.payload.tenantId = job'.payload.tenantId →
      job.payload.conversationId = job'.payload.conversationId → p.name = q.name

/-- One of two accepted payloads of a tenant has a null as its `conversation.id`, and
the other too or the id "None", and they name different conversations. -/
structure Merged (p q : ReceivedPayload receiver) : Prop where
  accepted : p.Accepted
  acceptedOther : q.Accepted
  tenant : p.request.tenant.tenantId = q.request.tenant.tenantId
  masked : NullId p.payload ∧ (NullId q.payload ∨ q.name = some "None") ∨
    NullId q.payload ∧ p.name = some "None"
  apart : p.name ≠ q.name

/-- Where both payloads name a conversation, their texts are equal for different names
exactly if a null masks one of them. -/
theorem masked_iff {p q : ReceivedPayload receiver} (hp : p.name ≠ none) (hq : q.name ≠ none)
    (hapart : p.name ≠ q.name) :
    p.request.event.conversationId = q.request.event.conversationId ↔
      NullId p.payload ∧ (NullId q.payload ∨ q.name = some "None") ∨
        NullId q.payload ∧ p.name = some "None" := by
  obtain ⟨name, hname⟩ := Option.ne_none_iff_exists'.1 hp
  obtain ⟨other, hother⟩ := Option.ne_none_iff_exists'.1 hq
  rw [p.conversationId_eq, q.conversationId_eq]
  rw [hname, hother] at hapart ⊢
  have hne : name ≠ other := fun h => hapart (congrArg some h)
  by_cases hpNull : NullId p.payload
  · rw [str_rawConversationId_of_nullId hpNull]
    by_cases hqNull : NullId q.payload
    · rw [str_rawConversationId_of_nullId hqNull]
      simp [hpNull, hqNull]
    · rw [str_rawConversationId hqNull hother]
      simp [hpNull, hqNull, eq_comm]
  · rw [str_rawConversationId hpNull hname]
    by_cases hqNull : NullId q.payload
    · rw [str_rawConversationId_of_nullId hqNull]
      simp [hpNull, hqNull]
    · rw [str_rawConversationId hqNull hother]
      simp [hpNull, hqNull, hne]

/-! ## Deliveries without a database -/

/-- A delivery that the database part fails for, and its job. -/
def degradedSteps (i : Nat) (request : WebhookRequest) : List WebhookRouter.Action :=
  [.environment (.deliver request), .party i .databaseFails, .party i (.publish .takes)]

def publishedDelivery (request : WebhookRequest) : Delivery where
  request := request
  phase := .published

theorem step_last {router : WebhookRouter} {s t : Shared} {ds : List Delivery} {d d' : Delivery}
    {a : DeliveryStep} (hact : router.act s d a = some (d', t)) :
    router.machine.step ⟨s, ds ++ [d]⟩ (.party ds.length a) = some ⟨t, ds ++ [d']⟩ := by
  have hi : (ds ++ [d])[ds.length]? = some d := by simp
  have hstep := (Interleaving.step_of_act (p := router.system)
    (c := ⟨s, ds ++ [d]⟩) hi hact).1
  have hset : (ds ++ [d]).set ds.length d' = ds ++ [d'] := by simp
  rw [← hset]
  exact hstep

/-- A request that passes the rules is published whatever becomes of the database. -/
theorem run_degradedSteps {router : WebhookRouter} {request : WebhookRequest}
    (hcheck : router.checkEvent request = none) (s : Shared) (ds : List Delivery) :
    router.machine.run ⟨s, ds⟩ (degradedSteps ds.length request) =
      some ⟨{ s with jobs := s.jobs ++ [(publishedDelivery request).publishedJob] },
        ds ++ [publishedDelivery request]⟩ := by
  have hdeliver : router.machine.step ⟨s, ds⟩ (.environment (.deliver request)) =
      some ⟨s, ds ++ [{ request := request }]⟩ := rfl
  have hfails : router.act s { request := request } .databaseFails =
      some ({ request := request, phase := .accepted }, s) := by
    simp [WebhookRouter.act, Phase.inDatabase, WebhookRouter.degrade, hcheck,
      WebhookRouter.releaseLocks]
  have hpublish : router.act s { request := request, phase := .accepted } (.publish .takes) =
      some (publishedDelivery request,
        { s with jobs := s.jobs ++ [(publishedDelivery request).publishedJob] }) := rfl
  unfold degradedSteps
  rw [Machine.run_cons, hdeliver, Option.bind_some, Machine.run_cons, step_last hfails,
    Option.bind_some, Machine.run_cons, step_last hpublish]
  rfl

/-! ## Published deliveries -/

theorem checkEvent_of_publishedBy {router : WebhookRouter} {actions : List WebhookRouter.Action}
    {c : WebhookRouter.State} (hrun : router.machine.run { shared := {} } actions = some c)
    {request : WebhookRequest} {job : PublishedJob} (hjob : PublishedBy c request job) :
    router.checkEvent request = none := by
  obtain ⟨-, d, hmem, hphase, rfl, -⟩ := hjob
  exact WebhookRouter.checkEvent_of_published hrun d hmem hphase

/-- Two published deliveries and their jobs. -/
def bothPublished (request other : WebhookRequest) : WebhookRouter.State where
  shared :=
    { jobs := [(publishedDelivery request).publishedJob, (publishedDelivery other).publishedJob] }
  parties := [publishedDelivery request, publishedDelivery other]

theorem run_bothPublished {router : WebhookRouter} {request other : WebhookRequest}
    (hcheck : router.checkEvent request = none) (hother : router.checkEvent other = none) :
    router.machine.run { shared := {} } (degradedSteps 0 request ++ degradedSteps 1 other) =
      some (bothPublished request other) := by
  have hfirst := run_degradedSteps hcheck {} []
  have hsecond := run_degradedSteps hother
    { jobs := [(publishedDelivery request).publishedJob] } [publishedDelivery request]
  rw [Machine.run_append]
  refine (congrArg (fun o => Option.bind o _) hfirst).trans ?_
  exact hsecond

theorem publishedBy_bothPublished (request other : WebhookRequest) :
    PublishedBy (bothPublished request other) request (publishedDelivery request).publishedJob ∧
      PublishedBy (bothPublished request other) other (publishedDelivery other).publishedJob := by
  constructor
  · exact ⟨by simp [bothPublished], publishedDelivery request, by simp [bothPublished], rfl, rfl,
      rfl⟩
  · exact ⟨by simp [bothPublished], publishedDelivery other, by simp [bothPublished], rfl, rfl,
      rfl⟩

/-! ## Conversation identity -/

theorem identified_iff (p : ReceivedPayload receiver) :
    Identified p ↔ (p.Accepted → p.name ≠ none) := by
  constructor
  · intro h haccepted
    have hrun := run_bothPublished haccepted haccepted
    exact h _ _ hrun _ (publishedBy_bothPublished p.request p.request).1
  · intro h actions c hrun job hjob
    exact h (checkEvent_of_publishedBy hrun hjob)

theorem separated_iff {p q : ReceivedPayload receiver} (hp : p.Accepted → p.name ≠ none)
    (hq : q.Accepted → q.name ≠ none) : Separated p q ↔ ¬ Merged p q := by
  constructor
  · intro h hmerged
    have hrun := run_bothPublished hmerged.accepted hmerged.acceptedOther
    obtain ⟨hjob, hjob'⟩ := publishedBy_bothPublished p.request q.request
    apply hmerged.apart
    refine h _ _ hrun _ _ hjob hjob' (congrArg formatUuid hmerged.tenant) ?_
    exact (masked_iff (hp hmerged.accepted) (hq hmerged.acceptedOther) hmerged.apart).2
      hmerged.masked
  · intro h actions c hrun job job' hjob hjob' htenant hsame
    by_contra hapart
    have haccepted := checkEvent_of_publishedBy hrun hjob
    have hother := checkEvent_of_publishedBy hrun hjob'
    obtain ⟨-, d, -, -, hd, rfl⟩ := hjob
    obtain ⟨-, e, -, -, he, rfl⟩ := hjob'
    change formatUuid d.request.tenant.tenantId = formatUuid e.request.tenant.tenantId at htenant
    change d.request.event.conversationId = e.request.event.conversationId at hsame
    rw [hd, he] at htenant hsame
    have hmasked := (masked_iff (hp haccepted) (hq hother) hapart).1 hsame
    exact h ⟨haccepted, hother, formatUuid_injective htenant, hmasked, hapart⟩

/-- For any two payloads, and in every run: their jobs carry a conversation id only if
the payloads do, and share it in one tenant only if the payloads name one conversation,
exactly if what passes the rules names a conversation and no null merges two of them. -/
theorem conversationIdentity_iff (p q : ReceivedPayload receiver) :
    (Identified p ∧ Identified q ∧ Separated p q) ↔
      (p.Accepted → p.name ≠ none) ∧ (q.Accepted → q.name ≠ none) ∧ ¬ Merged p q := by
  rw [identified_iff, identified_iff]
  constructor
  · rintro ⟨hp, hq, hseparated⟩
    exact ⟨hp, hq, (separated_iff hp hq).1 hseparated⟩
  · rintro ⟨hp, hq, hmerged⟩
    exact ⟨hp, hq, (separated_iff hp hq).2 hmerged⟩

section Example

/-- A contact's message without a conversation. -/
def strayPayload (id content : String) : Json :=
  .obj [("id", .str id), ("account", .obj [("id", .str "11111")]),
    incomingMessage [("content", .str content)]]

def strayOi : ReceivedPayload plainReceiver where
  payload := strayPayload "a" "Oi"
  request := requestOf (strayPayload "a" "Oi")
  received := received_requestOf (by decide +kernel)

def strayHoras : ReceivedPayload plainReceiver where
  payload := strayPayload "b" "Que horas são?"
  request := requestOf (strayPayload "b" "Que horas são?")
  received := received_requestOf (by decide +kernel)

/-- Two messages that name no conversation are answered in one, "unknown". -/
theorem strays_merged :
    (bothPublished strayOi.request strayHoras.request).shared.jobs.map
        (fun job => (job.payload.conversationId, job.payload.content)) =
      [("unknown", some "Oi"), ("unknown", some "Que horas são?")] ∧
    strayOi.name = none ∧ strayHoras.name = none ∧
    ¬ (Identified strayOi ∧ Identified strayHoras ∧ Separated strayOi strayHoras) := by
  have haccepted : plainReceiver.router.checkEvent strayOi.request = none := by decide +kernel
  refine ⟨by decide +kernel, by decide, by decide, ?_⟩
  rintro ⟨hidentified, -, -⟩
  exact (identified_iff strayOi).1 hidentified haccepted (by decide)

end Example

end Iara.Api
