import Iara.Api.Reception

/-!
# Bot loops

The normalizer reads the sender's type for the checks, the endpoint reads it once
more for the job.  They differ in what they fall back to, and agree on the bots.
-/

namespace Iara.Api

open Iara.Lib Iara.Eligibility

/-- The normalizer takes the sender of the payload for a bot or for the system. -/
def BotSender (receiver : Receiver) (payload : Json) : Prop :=
  ∃ (tenant : TenantContext) (type : SenderType), (type = .agentBot ∨ type = .system) ∧
    (receiver.normalizer tenant).senderType payload = .ok (some type)

/-! ## Two readings of one sender -/

/-- No value that reads like a bot is falsy. -/
theorem truthy_of_str {text : PyText} {value : Json} {type : SenderType}
    (htype : type = .agentBot ∨ type = .system) (hread : text.str value = type.value) :
    value.truthy = true := by
  cases htruthy : value.truthy with
  | true => rfl
  | false =>
      have hfalsy := PyText.str_of_falsy text htruthy
      rw [hread] at hfalsy
      rcases htype with rfl | rfl
      · exact absurd hfalsy (by decide)
      · exact absurd hfalsy (by decide)

/-- What the endpoint reads as a bot, the normalizer has taken for one: its own
fallback is for a type that is falsy. -/
theorem senderType_of_jobSenderType {normalizer : ChatwootEventNormalizer} {payload : Json}
    {type : SenderType} {resolved : Option SenderType}
    (htype : type = .agentBot ∨ type = .system)
    (hjob : jobSenderType normalizer.text payload = type.value)
    (hresolved : normalizer.senderType payload = .ok resolved) : resolved = some type := by
  have htruthy := truthy_of_str htype hjob
  have hkey : (rawSender payload).getD "type" .null =
      (rawSender payload).getD "type" (.str "contact") := by
    cases hget : (rawSender payload).get "type" with
    | some value => simp only [Json.getD, hget, Option.getD_some]
    | none =>
        have hdefault : jobSenderType normalizer.text payload = "contact" := by
          simp only [jobSenderType, Json.getD, hget, Option.getD_none, PyText.str_str]
        rw [hdefault] at hjob
        rcases htype with rfl | rfl
        · exact absurd hjob (by decide)
        · exact absurd hjob (by decide)
  unfold ChatwootEventNormalizer.senderType at hresolved
  obtain ⟨sender, hsender, hresolved⟩ := bind_eq_ok hresolved
  obtain ⟨hself, -⟩ := Json.asDict_eq_ok hsender
  have hraw : sender = rawSender payload := hself.symm
  have hvalue : ((sender.getD "type" .null).orElse
      ((messageRaw payload).getD "sender_type" .null)) =
      (rawSender payload).getD "type" (.str "contact") := by
    rw [hraw, hkey, Json.orElse, if_pos htruthy]
  simp only [hvalue, htruthy, if_true] at hresolved
  have hof : SenderType.ofValue (normalizer.text.str
      ((rawSender payload).getD "type" (.str "contact"))) = some type := by
    have hread : normalizer.text.str ((rawSender payload).getD "type" (.str "contact")) =
        type.value := hjob
    rw [hread]
    cases type <;> rfl
  rw [hof] at hresolved
  exact (Except.ok.inj hresolved).symm

/-- A payload that has passed the rules is no bot's, by either reading. -/
theorem not_bot_of_checkEvent {receiver : Receiver} {payload : Json} {request : WebhookRequest}
    (hextracts : receiver.Extracts payload request)
    (hcheck : receiver.router.checkEvent request = none) :
    ¬ BotSender receiver payload ∧ request.senderType ≠ SenderType.agentBot.value ∧
      request.senderType ≠ SenderType.system.value := by
  obtain ⟨rawHash, correlationId, eventDraw, hok⟩ := hextracts.received
  have hresolved := ChatwootEventNormalizer.senderType_of_eq_ok hok
  obtain ⟨hbot, hsystem⟩ := EligibilityChecker.senderType_of_checkEvent hcheck
  refine ⟨?_, ?_, ?_⟩
  · rintro ⟨tenant, type, htype, hsender⟩
    -- the tenant has no part in the sender's type
    have heq := Except.ok.inj (hresolved.symm.trans hsender)
    rcases htype with rfl | rfl
    · exact hbot heq
    · exact hsystem heq
  · intro heq
    exact hbot (senderType_of_jobSenderType (.inl rfl) (hextracts.senderType.symm.trans heq)
      hresolved)
  · intro heq
    exact hsystem (senderType_of_jobSenderType (.inr rfl) (hextracts.senderType.symm.trans heq)
      hresolved)

/-! ## Runs -/

/-- In every run of the endpoint, with its database or without, no job is published
for a payload of a bot or of the system, and none carries their type. -/
theorem published_not_bot {receiver : Receiver} {actions : List WebhookRouter.Action}
    {c : WebhookRouter.State} {payloads : Nat → Json}
    (hrun : receiver.router.machine.run { shared := {} } actions = some c)
    (hextracts : ∀ i d, c.parties[i]? = some d → receiver.Extracts (payloads i) d.request) :
    (∀ payload job, PublishedFor c payloads payload job → ¬ BotSender receiver payload) ∧
    ∀ job ∈ c.shared.jobs, (∃ payload, PublishedFor c payloads payload job) ∧
      job.payload.senderType ≠ some SenderType.agentBot.value ∧
      job.payload.senderType ≠ some SenderType.system.value := by
  have hpublished : ∀ payload job, PublishedFor c payloads payload job →
      ¬ BotSender receiver payload ∧ job.payload.senderType ≠ some SenderType.agentBot.value ∧
        job.payload.senderType ≠ some SenderType.system.value := by
    rintro payload job ⟨i, d, hi, hphase, rfl, rfl⟩
    have hcheck := WebhookRouter.checkEvent_of_published hrun d (List.mem_of_getElem? hi) hphase
    obtain ⟨hsender, hbot, hsystem⟩ := not_bot_of_checkEvent (hextracts i d hi) hcheck
    refine ⟨hsender, ?_, ?_⟩
    · intro heq
      exact hbot (Option.some.inj heq)
    · intro heq
      exact hsystem (Option.some.inj heq)
  constructor
  · intro payload job hfor
    exact (hpublished payload job hfor).1
  · intro job hjob
    obtain ⟨payload, hfor⟩ := exists_publishedFor hrun payloads job hjob
    exact ⟨⟨payload, hfor⟩, (hpublished payload job hfor).2⟩

section Example

/-- A payload in conversation 7 of the plain tenant, with its sender beside the
message. -/
def contactPayload : Json :=
  .obj [("id", .str "e"), ("account", .obj [("id", .str "11111")]),
    ("conversation", .obj [("id", .str "7")]), ("sender", .obj [("type", .str "contact")]),
    incomingMessage [("content", .str "Oi")]]

theorem contact_not_bot :
    (∀ payload job,
      PublishedFor (afterAccepted contactPayload) (fun _ => contactPayload) payload job →
        ¬ BotSender plainReceiver payload) ∧
    ∀ job ∈ (afterAccepted contactPayload).shared.jobs,
      (∃ payload,
        PublishedFor (afterAccepted contactPayload) (fun _ => contactPayload) payload job) ∧
      job.payload.senderType ≠ some SenderType.agentBot.value ∧
      job.payload.senderType ≠ some SenderType.system.value := by
  have hrun : plainReceiver.router.machine.run { shared := {} } (acceptedRun contactPayload) =
      some (afterAccepted contactPayload) := eq_some_getD (by decide +kernel)
  have hrequests : ∀ d ∈ (afterAccepted contactPayload).parties,
      d.request = requestOf contactPayload := by decide +kernel
  have hreceived : plainReceiver.Received contactPayload (requestOf contactPayload) :=
    received_requestOf (by decide +kernel)
  refine published_not_bot hrun ?_
  intro i d hi
  rw [hrequests d (List.mem_of_getElem? hi)]
  exact ⟨hreceived, rfl, rfl⟩

end Example

end Iara.Api
