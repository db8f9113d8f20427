import Iara.Api.Reception

/-!
# Private notes

The private flag is read from one container and the content from either: a message
object without a flag and without content lets the content of a private payload
through.
-/

namespace Iara.Api

open Iara.Lib Iara.Eligibility

/-! ## Containers -/

/-- The nested message object, and the payload around it. -/
def Container (payload container : Json) : Prop :=
  container = payload ∨ payload.get "message" = some container

/-- The text that a container holds, capped like the event's. -/
def heldText (text : PyText) (container : Json) : Option String :=
  match container.getD "content" .null with
  | .str s => some (PyStr.slice s 4096)
  | value => if value.truthy then some (PyStr.slice (text.str value) 4096) else none

/-- The content of the event is held by a container that is not private. -/
def ContentPublic (text : PyText) (payload : Json) (event : NormalizedChatwootEvent) : Prop :=
  ∀ content, event.contentText = some content → ∃ container, Container payload container ∧
    isPrivateNote container = false ∧ heldText text container = some content

/-- There is a message object that is neither private nor has content, inside a
private payload with a text that the message object does not hold. -/
structure PrivateFallback (text : PyText) (payload message : Json) : Prop where
  nested : payload.get "message" = some message
  truthy : message.truthy = true
  isPublic : isPrivateNote message = false
  noContent : (message.getD "content" .null).truthy = false
  isPrivate : isPrivateNote payload = true
  holds : ∃ content, heldText text payload = some content ∧ heldText text message ≠ some content

variable {text : PyText} {payload message : Json}

theorem heldText_of_truthy {container : Json}
    (h : (container.getD "content" .null).truthy = true) :
    heldText text container =
      some (PyStr.slice (text.str (container.getD "content" .null)) 4096) := by
  unfold heldText
  split
  next s hs => rw [hs, PyText.str_str]
  next => rw [if_pos h]

/-- The message object, or the payload itself. -/
theorem messageRaw_cases (payload : Json) :
    (messageRaw payload = payload ∧
        ∀ message, payload.get "message" = some message → message.truthy = false) ∨
      ∃ message, payload.get "message" = some message ∧ message.truthy = true ∧
        messageRaw payload = message := by
  unfold messageRaw Json.getD Json.orElse
  cases hget : payload.get "message" with
  | none => exact .inl ⟨rfl, by simp⟩
  | some message =>
      cases htruthy : message.truthy with
      | true => exact .inr ⟨message, rfl, htruthy, by simp [htruthy]⟩
      | false => exact .inl ⟨by simp [htruthy], by simpa using htruthy⟩

/-- What is kept of the content is held by the message if its content is truthy,
and by the payload otherwise. -/
theorem map_slice_content {normalizer : ChatwootEventNormalizer} {content : Option String}
    (h : normalizer.content payload = .ok content) :
    content.map (fun s => PyStr.slice s 4096) =
      if ((messageRaw payload).getD "content" .null).truthy then
        heldText normalizer.text (messageRaw payload)
      else heldText normalizer.text payload := by
  unfold ChatwootEventNormalizer.content rawContent Json.orElse at h
  cases htruthy : ((messageRaw payload).getD "content" .null).truthy with
  | true =>
      rw [htruthy, if_pos rfl] at h
      rw [if_pos rfl, heldText_of_truthy htruthy]
      generalize (messageRaw payload).getD "content" .null = value at h htruthy ⊢
      cases value with
      | null => cases htruthy
      | str s => cases h; rfl
      | _ =>
          simp only [htruthy, if_true, Except.ok.injEq] at h
          rw [← h]
          rfl
  | false =>
      rw [htruthy, if_neg Bool.false_ne_true] at h
      rw [if_neg Bool.false_ne_true]
      unfold heldText
      generalize payload.getD "content" .null = value at h ⊢
      cases value with
      | null => cases h; rfl
      | str s => cases h; rfl
      | _ =>
          simp only at h ⊢
          split at h
          next htruthy' =>
            cases h
            rw [if_pos htruthy']
            rfl
          next => cases h

/-! ## One event -/

variable {normalizer : ChatwootEventNormalizer} {event : NormalizedChatwootEvent}

/-- The content of an event is public exactly if the payload is no private one
around a message object without flag and content. -/
theorem contentPublic_iff (h : normalizer.Normalizes payload event) :
    ContentPublic normalizer.text payload event ↔
      ¬ ∃ message, PrivateFallback normalizer.text payload message := by
  have hcontent := h.contentText
  cases hprivate : event.isPrivate with
  | true =>
      rw [hprivate, if_pos rfl] at hcontent
      have hpublic : ContentPublic normalizer.text payload event := by
        intro content hsome
        rw [hcontent] at hsome
        cases hsome
      refine iff_of_true hpublic ?_
      rintro ⟨message, hfallback⟩
      rcases messageRaw_cases payload with ⟨-, hfalsy⟩ | ⟨message', hget, -, hraw⟩
      · have htruthy := hfallback.truthy
        rw [hfalsy message hfallback.nested] at htruthy
        cases htruthy
      · obtain rfl := Option.some.inj (hget.symm.trans hfallback.nested)
        have hflag := h.isPrivate
        rw [hprivate, hraw, hfallback.isPublic] at hflag
        cases hflag
  | false =>
      rw [hprivate, if_neg Bool.false_ne_true] at hcontent
      obtain ⟨content, hok, htext⟩ := hcontent
      rw [map_slice_content hok] at htext
      have hpublic : isPrivateNote (messageRaw payload) = false := by
        rw [← h.isPrivate, hprivate]
      rcases messageRaw_cases payload with ⟨hraw, hfalsy⟩ | ⟨message, hget, htruthy, hraw⟩
      · rw [hraw] at htext hpublic
        rw [ite_self] at htext
        refine iff_of_true ?_ ?_
        · intro content' hsome
          exact ⟨payload, .inl rfl, hpublic, htext.symm.trans hsome⟩
        · rintro ⟨message, hfallback⟩
          have htruthy := hfallback.truthy
          rw [hfalsy message hfallback.nested] at htruthy
          cases htruthy
      · rw [hraw] at htext hpublic
        by_cases hheld : (message.getD "content" .null).truthy = true
        · rw [if_pos hheld] at htext
          refine iff_of_true ?_ ?_
          · intro content' hsome
            exact ⟨message, .inr hget, hpublic, htext.symm.trans hsome⟩
          · rintro ⟨message', hfallback⟩
            obtain rfl := Option.some.inj (hget.symm.trans hfallback.nested)
            rw [hfallback.noContent] at hheld
            cases hheld
        · rw [if_neg hheld] at htext
          constructor
          · rintro hcontentPublic ⟨message', hfallback⟩
            obtain rfl := Option.some.inj (hget.symm.trans hfallback.nested)
            obtain ⟨content', hholds, hother⟩ := hfallback.holds
            obtain ⟨container, hcontainer, hflag, htext'⟩ :=
              hcontentPublic content' (htext.trans hholds)
            rcases hcontainer with rfl | hnested
            · rw [hfallback.isPrivate] at hflag
              cases hflag
            · obtain rfl := Option.some.inj (hget.symm.trans hnested)
              exact hother htext'
          · intro hnot content' hsome
            have hholds := htext.symm.trans hsome
            cases hflag : isPrivateNote payload with
            | false => exact ⟨payload, .inl rfl, hflag, hholds⟩
            | true =>
                refine ⟨message, .inr hget, hpublic, ?_⟩
                by_contra hother
                exact hnot ⟨message, hget, htruthy, hpublic, by simpa using hheld, hflag,
                  content', hholds, hother⟩

/-! ## Runs -/

/-- In every run of the endpoint, whatever its payloads, the content of a delivery's
event is public exactly if its payload does not fall back to a private one; and the
content of a published job is that of a delivery's event. -/
theorem privateNotes_iff {receiver : Receiver} {actions : List WebhookRouter.Action}
    {c : WebhookRouter.State} {payloads : Nat → Json}
    (hrun : receiver.router.machine.run { shared := {} } actions = some c)
    (hdeliveries : receiver.Deliveries c payloads) :
    (∀ i d, c.parties[i]? = some d →
      (ContentPublic receiver.text (payloads i) d.request.event ↔
        ¬ ∃ message, PrivateFallback receiver.text (payloads i) message)) ∧
    ∀ job ∈ c.shared.jobs, ∃ (i : Nat) (d : Delivery), c.parties[i]? = some d ∧
      d.phase = .published ∧ job.payload.content = d.request.event.contentText := by
  constructor
  · intro i d hi
    have hpublic := contentPublic_iff (hdeliveries i d hi).normalizes
    exact hpublic
  · intro job hjob
    obtain ⟨payload, i, d, hi, hphase, -, rfl⟩ := exists_publishedFor hrun payloads job hjob
    exact ⟨i, d, hi, hphase, rfl⟩

section Example

/-- A payload in conversation 7 of the plain tenant. -/
def payloadWith (entries : List (String × Json)) : Json :=
  .obj (("id", .str "e") :: ("account", .obj [("id", .str "11111")]) ::
    ("conversation", .obj [("id", .str "7")]) :: entries)

def ordinaryPayload : Json := payloadWith [incomingMessage [("content", .str "Oi")]]

/-- A note whose text and flag stand beside a message object without either. -/
def notePayload : Json :=
  payloadWith [incomingMessage [], ("private", .bool true), ("content", .str "Não atender")]

theorem ordinary_public :
    (∀ (i : Nat) (d : Delivery), (afterAccepted ordinaryPayload).parties[i]? = some d →
      (ContentPublic plainReceiver.text ordinaryPayload d.request.event ↔
        ¬ ∃ message, PrivateFallback plainReceiver.text ordinaryPayload message)) ∧
    ∀ job ∈ (afterAccepted ordinaryPayload).shared.jobs, ∃ (i : Nat) (d : Delivery),
      (afterAccepted ordinaryPayload).parties[i]? = some d ∧ d.phase = .published ∧
        job.payload.content = d.request.event.contentText := by
  have hrun : plainReceiver.router.machine.run { shared := {} } (acceptedRun ordinaryPayload) =
      some (afterAccepted ordinaryPayload) := eq_some_getD (by decide +kernel)
  have hrequests : ∀ d ∈ (afterAccepted ordinaryPayload).parties,
      d.request = requestOf ordinaryPayload := by decide +kernel
  have hreceived : plainReceiver.Received ordinaryPayload (requestOf ordinaryPayload) :=
    received_requestOf (by decide +kernel)
  refine privateNotes_iff hrun ?_
  intro i d hi
  rw [hrequests d (List.mem_of_getElem? hi)]
  exact hreceived

/-- The job of a private payload carries its note. -/
theorem note_published :
    (afterAccepted notePayload).shared.jobs.map (fun job => job.payload.content) =
        [some "Não atender"] ∧
      isPrivateNote notePayload = true ∧
      plainReceiver.Received notePayload (requestOf notePayload) ∧
      ¬ ContentPublic plainText notePayload (requestOf notePayload).event := by
  have hreceived : plainReceiver.Received notePayload (requestOf notePayload) :=
    received_requestOf (by decide +kernel)
  refine ⟨by decide +kernel, by decide, hreceived, ?_⟩
  have hpublic := contentPublic_iff hreceived.normalizes
  intro h
  apply hpublic.1 h
  refine ⟨_, rfl, rfl, rfl, rfl, rfl, "Não atender", ?_, ?_⟩
  · decide +kernel
  · decide +kernel

end Example

end Iara.Api
