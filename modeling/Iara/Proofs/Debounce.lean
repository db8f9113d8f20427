import Iara.Api.WebhookSteps

/-!
# Debounced messages

A message that arrives in the debounce window of its conversation is rejected and
kept nowhere.  When no message does, every message's text reaches the broker.
-/

namespace Iara.Api

open Iara.Lib Iara.Persistence Iara.Eligibility

namespace WebhookRouter

variable {router : WebhookRouter}

/-- Messages are distinct and eligible but for the debounce window, nobody's
process ends early, and the database and the broker are up. -/
def inOrder (router : WebhookRouter) (c : State) : Action → Bool
  | .environment (.deliver request) =>
      router.checkEvent request = none && !c.shared.receipts.hasKey request.eventKey &&
        c.parties.all fun d => d.request.eventKey ≠ request.eventKey
  | .party _ .databaseFails => false
  | .party _ .abandon => false
  | .party _ (.publish broker) => broker.took
  | _ => true

/-- The debounce check in this step finds no open window. -/
def windowClosed (c : State) : Action → Bool
  | .party i .selectDebounce => c.parties[i]?.all fun d => !windowLive c.shared d
  | _ => true

/-- Deliveries are of distinct messages, none is lost, one that has not started is
not recorded, and a published one has its job. -/
structure NoneLost (router : WebhookRouter) (c : State) : Prop where
  distinct : (c.parties.map fun d => d.request.eventKey).Nodup
  eligible : ∀ d ∈ c.parties, router.checkEvent d.request = none
  fresh : ∀ d ∈ c.parties, d.phase = .received →
    c.shared.receipts.hasKey d.request.eventKey = false
  kept : ∀ d ∈ c.parties, d.phase.lost = false
  published : ∀ d ∈ c.parties, d.phase = .published → d.publishedJob ∈ c.shared.jobs

theorem request_of_act {s t : Shared} {d d' : Delivery} {a : DeliveryStep}
    (hact : router.system.act s d a = some (d', t)) : d'.request = d.request :=
  (act_effect hact).request

theorem NoneLost.distinct_step {c c' : State} {m : Action} (hc : NoneLost router c)
    (hin : inOrder router c m = true) (hstep : router.machine.step c m = some c') :
    (c'.parties.map fun d => d.request.eventKey).Nodup := by
  rcases Interleaving.map_parties_of_step (f := fun d => d.request.eventKey)
    (fun _ _ _ _ _ hact => congrArg WebhookRequest.eventKey (request_of_act hact)) hstep with
    hsame | ⟨e, ls, t, rfl, henv, happend⟩
  · rw [hsame]
    exact hc.distinct
  · rw [happend]
    cases e with
    | deliver request =>
        cases henv
        simp only [inOrder, Bool.and_eq_true, List.all_eq_true, decide_eq_true_eq] at hin
        rw [List.nodup_append]
        refine ⟨hc.distinct, by simp, ?_⟩
        intro k hk k' hk'
        obtain ⟨d, hmem, rfl⟩ := List.mem_map.1 hk
        rw [List.map_singleton, List.mem_singleton] at hk'
        rw [hk']
        exact hin.2 d hmem
    | tick elapsed =>
        cases henv
        simpa using hc.distinct

theorem NoneLost.eligible_step {c c' : State} {m : Action} (hc : NoneLost router c)
    (hin : inOrder router c m = true) (hstep : router.machine.step c m = some c') :
    ∀ d ∈ c'.parties, router.checkEvent d.request = none := by
  intro d' hmem
  obtain ⟨i, hi⟩ := List.mem_iff_getElem?.1 hmem
  rcases Interleaving.party_before_step hstep hi with
    hsame | ⟨d, a, rfl, hbefore, hact⟩ | ⟨e, ls, rfl, henv, hnew, -⟩
  · exact hc.eligible d' (List.mem_of_getElem? hsame)
  · rw [request_of_act hact]
    exact hc.eligible d (List.mem_of_getElem? hbefore)
  · rw [((environment_effect henv).2.2 d' hnew).1] at hin
    simp only [inOrder, Bool.and_eq_true, decide_eq_true_eq] at hin
    exact hin.1.1

/-- A receipt that is committed in the step belongs to a delivery under way. -/
theorem NoneLost.fresh_step {c c' : State} {m : Action} (hc : NoneLost router c)
    (hin : inOrder router c m = true) (hstep : router.machine.step c m = some c') :
    ∀ d ∈ c'.parties, d.phase = .received →
      c'.shared.receipts.hasKey d.request.eventKey = false := by
  intro d' hmem hphase
  obtain ⟨i, hi⟩ := List.mem_iff_getElem?.1 hmem
  rcases Interleaving.party_before_step hstep hi with
    hsame | ⟨d, a, rfl, hbefore, hact⟩ | ⟨e, ls, rfl, henv, hnew, -⟩
  · have hold := hc.fresh d' (List.mem_of_getElem? hsame) hphase
    cases m with
    | environment e =>
        obtain ⟨ls, t, henv, rfl⟩ := Interleaving.step_environment hstep
        rw [(environment_effect henv).2.1]
        exact hold
    | party j a =>
        obtain ⟨g, g', t, hj, hact, rfl⟩ := Interleaving.step_party hstep
        rcases (act_effect hact).receipts with hkept | ⟨hinsert, hstarted⟩
        · rw [hkept]
          exact hold
        · rw [hinsert, Table.hasKey_insertOrIgnore, hold, Bool.false_or, decide_eq_false_iff_not]
          intro hkey
          -- one key, one delivery: the one that commits has started
          have hlt : i < (c.parties.map fun d => d.request.eventKey).length := by
            rw [List.length_map]
            exact (List.getElem?_eq_some_iff.1 hsame).1
          have hij : i = j := by
            apply (List.getElem?_inj hlt hc.distinct).1
            rw [List.getElem?_map, List.getElem?_map, hsame, hj, Option.map_some, Option.map_some,
              ← hkey]
            rfl
          subst hij
          rw [hsame, Option.some.injEq] at hj
          rw [← hj] at hstarted
          exact hstarted hphase
  · exact absurd hphase (act_effect hact).started
  · rw [((environment_effect henv).2.2 d' hnew).1] at hin
    simp only [inOrder, Bool.and_eq_true, Bool.not_eq_true'] at hin
    rw [(environment_effect henv).2.1]
    exact hin.1.2

theorem NoneLost.kept_step {c c' : State} {m : Action} (hc : NoneLost router c)
    (hin : inOrder router c m = true) (hclosed : windowClosed c m = true)
    (hstep : router.machine.step c m = some c') : ∀ d ∈ c'.parties, d.phase.lost = false := by
  intro d' hmem
  obtain ⟨i, hi⟩ := List.mem_iff_getElem?.1 hmem
  rcases Interleaving.party_before_step hstep hi with
    hsame | ⟨d, a, rfl, hbefore, hact⟩ | ⟨e, ls, rfl, henv, hnew, -⟩
  · exact hc.kept d' (List.mem_of_getElem? hsame)
  · by_contra hlost
    have hwhy := (act_effect hact).lost (by simpa using hlost)
    have hmem' := List.mem_of_getElem? hbefore
    cases a with
    | selectReceipt =>
        obtain ⟨hphase, hrejected | hduplicate⟩ := hwhy
        · exact hrejected (hc.eligible d hmem')
        · rw [hc.fresh d hmem' hphase] at hduplicate
          cases hduplicate
    | selectDebounce =>
        have hlive : windowLive c.shared d = true := hwhy
        simp [windowClosed, hbefore, hlive] at hclosed
    | publish broker =>
        have hfailed : broker.took = false := hwhy
        simp [inOrder, hfailed] at hin
    | databaseFails => cases hin
    | abandon => cases hin
    | _ => exact hwhy
  · rw [((environment_effect henv).2.2 d' hnew).2]
    rfl

theorem jobs_subset_of_step {c c' : State} {m : Action}
    (hstep : router.machine.step c m = some c') : c.shared.jobs ⊆ c'.shared.jobs := by
  cases m with
  | environment e =>
      obtain ⟨ls, t, henv, rfl⟩ := Interleaving.step_environment hstep
      rw [(environment_effect henv).1]
      exact List.Subset.refl _
  | party i a =>
      obtain ⟨d, d', t, -, hact, rfl⟩ := Interleaving.step_party hstep
      rcases (act_effect hact).jobs with ⟨hsame, -⟩ | ⟨-, -, -, hjobs⟩
      · rw [hsame]
        exact List.Subset.refl _
      · rw [hjobs]
        exact List.subset_append_left _ _

theorem NoneLost.step {c c' : State} {m : Action} (hc : NoneLost router c)
    (hin : inOrder router c m = true) (hclosed : windowClosed c m = true)
    (hstep : router.machine.step c m = some c') : NoneLost router c' where
  distinct := hc.distinct_step hin hstep
  eligible := hc.eligible_step hin hstep
  fresh := hc.fresh_step hin hstep
  kept := hc.kept_step hin hclosed hstep
  published := by
    intro d' hmem hphase
    obtain ⟨i, hi⟩ := List.mem_iff_getElem?.1 hmem
    rcases Interleaving.party_before_step hstep hi with
      hsame | ⟨d, a, rfl, hbefore, hact⟩ | ⟨e, ls, rfl, henv, hnew, -⟩
    · exact jobs_subset_of_step hstep (hc.published d' (List.mem_of_getElem? hsame) hphase)
    · have heffect := act_effect hact
      rcases heffect.jobs with ⟨-, hunpublished⟩ | ⟨-, -, -, hjobs⟩
      · exact absurd hphase hunpublished
      · have hjob : d'.publishedJob = d.publishedJob := by
          rw [Delivery.publishedJob, Delivery.publishedJob, heffect.request]
        rw [hjobs, hjob]
        exact List.mem_append_right _ List.mem_cons_self
    · rw [((environment_effect henv).2.2 d' hnew).2] at hphase
      cases hphase

/-- The text of a message occurs in the content of some published job. -/
def TextPublished (text : String) (c : State) : Prop :=
  ∃ job ∈ c.shared.jobs, ∃ content, job.payload.content = some content ∧
    text.toList <:+: content.toList

/-- The message's text is what the event's content was made from. -/
def Carries (request : WebhookRequest) (text : String) : Prop :=
  request.event.contentText = contentText request.event.isPrivate (some text)

theorem content_of_carries {request : WebhookRequest} {text : String}
    (hcarries : Carries request text) (hprivate : request.event.isPrivate = false)
    (hlength : text.toList.length ≤ 4096) : request.job.content = some text := by
  change request.event.contentText = some text
  rw [hcarries, contentText, hprivate]
  simp [PyStr.slice, List.take_of_length_le hlength]

/-- Along every run in which the debounce check of each message finds no open window,
the text of every message that has been handled, if it is within the cap of the
normalizer, occurs in a published job. -/
theorem text_published_of_windowClosed (router : WebhookRouter) (s : Shared)
    (actions : List Action) (c : State)
    (hrun : router.machine.run { shared := s } actions = some c)
    (hin : router.machine.AllSteps (fun c m => inOrder router c m = true) { shared := s } actions)
    (hclosed : router.machine.AllSteps (fun c m => windowClosed c m = true) { shared := s } actions)
    (d : Delivery) (hmem : d ∈ c.parties) (hfinished : d.phase.finished = true) (text : String)
    (hcarries : Carries d.request text) (hlength : text.toList.length ≤ 4096) :
    TextPublished text c := by
  have hbegin : NoneLost router { shared := s } := by
    constructor <;> simp
  have hinv : NoneLost router c := router.machine.invariant_of_allSteps
    (fun _ _ _ hd hm hstep => hd.step hm.1 hm.2 hstep) hbegin (hin.and hclosed) hrun
  have hphase : d.phase = .published := Phase.eq_published hfinished (hinv.kept d hmem)
  have hprivate := EligibilityChecker.isPrivate_eq_false_of_checkEvent _ _ (hinv.eligible d hmem)
  refine ⟨d.publishedJob, hinv.published d hmem hphase, text, ?_, List.infix_refl _⟩
  exact content_of_carries hcarries hprivate hlength

section Example

/-- The second message comes when the window of the first has passed. -/
def spacedMessages : List Action :=
  [.environment (.deliver greetingMessage)] ++ acceptSteps 0 ++
    [.environment (.tick (timedelta 3)), .environment (.deliver questionMessage)] ++ acceptSteps 1

def afterSpaced : State :=
  (plainRouter.machine.run { shared := {} } spacedMessages).getD { shared := {} }

theorem spacedMessages_text_published : TextPublished "Que horas são?" afterSpaced := by
  have hall : (plainRouter.machine.trace { shared := {} } spacedMessages).all
      (fun p => inOrder plainRouter p.1 p.2 && windowClosed p.1 p.2) = true := by decide +kernel
  have hboth : ∀ p ∈ plainRouter.machine.trace { shared := {} } spacedMessages,
      inOrder plainRouter p.1 p.2 = true ∧ windowClosed p.1 p.2 = true := by
    intro p hp
    simpa using List.all_eq_true.1 hall p hp
  exact text_published_of_windowClosed plainRouter {} spacedMessages afterSpaced
    (eq_some_getD (by decide +kernel))
    (plainRouter.machine.allSteps_of_trace fun p hp => (hboth p hp).1)
    (plainRouter.machine.allSteps_of_trace fun p hp => (hboth p hp).2)
    { request := questionMessage, phase := .published } (by decide +kernel) rfl "Que horas são?"
    rfl (by decide +kernel)

/-- The second message comes in the window of the first. -/
def hastyMessages : List Action :=
  [.environment (.deliver greetingMessage)] ++ acceptSteps 0 ++
    [.environment (.deliver questionMessage)] ++ checkSteps 1

def afterHasty : State :=
  (plainRouter.machine.run { shared := {} } hastyMessages).getD { shared := {} }

/-- Everything is up and both messages are handled, but the second one's text is in
no job. -/
theorem hastyMessages_text_lost :
    plainRouter.machine.run { shared := {} } hastyMessages = some afterHasty ∧
      (plainRouter.machine.trace { shared := {} } hastyMessages).all
        (fun p => inOrder plainRouter p.1 p.2) = true ∧
      afterHasty.parties.all (fun d => d.phase.finished) = true ∧
      ¬ TextPublished "Que horas são?" afterHasty := by
  refine ⟨eq_some_getD (by decide +kernel), by decide +kernel, by decide +kernel, ?_⟩
  have hcontents : afterHasty.shared.jobs.map (fun job => job.payload.content) = [some "Oi"] := by
    decide +kernel
  rintro ⟨job, hmem, content, hcontent, hinfix⟩
  have honly : job.payload.content ∈ [some "Oi"] := by
    rw [← hcontents]
    exact List.mem_map_of_mem hmem
  rw [List.mem_singleton, hcontent, Option.some.injEq] at honly
  have hlength := hinfix.length_le
  rw [honly] at hlength
  revert hlength
  decide

end Example

end WebhookRouter

end Iara.Api
