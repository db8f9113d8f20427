import Iara.Proofs.WebhookDedup

/-!
# Receipt and publish

An event whose receipt is committed but whose job never reached the broker: no
redelivery brings the job back.
-/

namespace Iara.Api

open Iara.Lib Iara.Persistence Iara.Eligibility

namespace WebhookRouter

variable {router : WebhookRouter}

def recorded (event : EventKey) (c : State) : Bool :=
  IdempotencyRepository.isDuplicate event c.shared.receipts

/-- Every delivery has come to its end. -/
def quiescent (c : State) : Bool := c.parties.all fun d => d.phase.finished

def databaseUp : Action → Bool
  | .party _ .databaseFails => false
  | _ => true

/-- A job was published for the event, or what comes after, with the database up
and whatever the broker does, can still publish one. -/
def Publishable (router : WebhookRouter) (event : EventKey) (c : State) : Prop :=
  jobsOf event c.shared ≠ [] ∨ ∃ more c', more.all databaseUp = true ∧
    router.machine.run c more = some c' ∧ jobsOf event c'.shared ≠ []

/-- The broker takes the job of an accepted delivery of the event. -/
def brokerTakes (event : EventKey) (c : State) : Action → Bool
  | .party i (.publish broker) =>
      broker.took && c.parties[i]?.any fun d =>
        d.request.eventKey = event && d.phase = .accepted
  | _ => false

/-! ## Jobs come from the broker taking them -/

theorem jobsOf_of_step (event : EventKey) {c c' : State} {m : Action}
    (hstep : router.machine.step c m = some c') :
    (brokerTakes event c m = false ∧ jobsOf event c'.shared = jobsOf event c.shared) ∨
      (brokerTakes event c m = true ∧ jobsOf event c'.shared ≠ []) := by
  cases m with
  | environment e =>
      obtain ⟨ls, t, henv, rfl⟩ := Interleaving.step_environment hstep
      exact Or.inl ⟨rfl, jobsOf_of_jobs (environment_effect henv).1⟩
  | party i a =>
      obtain ⟨d, d', t, hi, hact, rfl⟩ := Interleaving.step_party hstep
      rcases (act_effect hact).jobs with
        ⟨hsame, hunpublished⟩ | ⟨⟨broker, rfl, htook⟩, hphase, -, hjobs⟩
      · refine Or.inl ⟨?_, jobsOf_of_jobs hsame⟩
        by_contra htakes
        cases a with
        | publish broker =>
            simp only [brokerTakes, hi, Option.any_some, Bool.and_eq_true, decide_eq_true_eq,
              Bool.not_eq_false] at htakes
            simp only [system, act, htakes.2.2, queueProcessingJob, htakes.1, if_true,
              Option.some.injEq, Prod.mk.injEq] at hact
            exact hunpublished (hact.1 ▸ rfl)
        | _ => exact htakes rfl
      · by_cases hkey : d.request.eventKey = event
        · refine Or.inr ⟨by simp [brokerTakes, hi, htook, hkey, hphase], ?_⟩
          rw [jobsOf_append_self hkey hjobs]
          simp
        · exact Or.inl ⟨by simp [brokerTakes, hi, hkey], jobsOf_append_of_ne hkey hjobs⟩

/-- A job is there exactly when it was there before or the broker took one along
the way. -/
theorem jobsOf_ne_nil_iff (event : EventKey) {c c' : State} {ms : List Action}
    (hrun : router.machine.run c ms = some c') :
    jobsOf event c'.shared ≠ [] ↔ jobsOf event c.shared ≠ [] ∨
      ∃ p ∈ router.machine.trace c ms, brokerTakes event p.1 p.2 = true := by
  induction ms generalizing c with
  | nil =>
      cases hrun
      simp [Machine.trace]
  | cons m ms ih =>
      obtain ⟨u, hstep, hrest⟩ := (router.machine.run_cons_eq_some).1 hrun
      rw [ih hrest, router.machine.trace_cons hstep, List.exists_mem_cons_iff]
      rcases jobsOf_of_step event hstep with ⟨hnot, hsame⟩ | ⟨htakes, hsome⟩
      · simp [hnot, hsame]
      · simp [htakes, hsome]

/-! ## A recorded event is not published later -/

/-- The event is recorded, and no delivery of it is under way. -/
structure Settled (event : EventKey) (c : State) : Prop where
  recorded : recorded event c = true
  idle : ∀ d ∈ c.parties, d.request.eventKey = event →
    d.phase = .received ∨ d.phase.finished = true

theorem settled_of_quiescent {event : EventKey} {c : State} (hrecorded : recorded event c = true)
    (hquiescent : quiescent c = true) : Settled event c := by
  refine ⟨hrecorded, ?_⟩
  intro d hmem _
  exact Or.inr (List.all_eq_true.1 hquiescent d hmem)

theorem recorded_step {event : EventKey} {c c' : State} {m : Action}
    (hrecorded : recorded event c = true) (hstep : router.machine.step c m = some c') :
    recorded event c' = true := by
  unfold recorded IdempotencyRepository.isDuplicate at *
  cases m with
  | environment e =>
      obtain ⟨ls, t, henv, rfl⟩ := Interleaving.step_environment hstep
      rw [(environment_effect henv).2.1]
      exact hrecorded
  | party i a =>
      obtain ⟨d, d', t, -, hact, rfl⟩ := Interleaving.step_party hstep
      rcases (act_effect hact).receipts with hsame | ⟨hinsert, -⟩
      · rw [hsame]
        exact hrecorded
      · rw [hinsert, Table.hasKey_insertOrIgnore, hrecorded, Bool.true_or]

/-- A redelivery of a recorded event ends with its first step. -/
theorem finished_of_recorded {s s' : Shared} {d d' : Delivery} {a : DeliveryStep}
    (hphase : d.phase = .received) (hrecorded : s.receipts.hasKey d.request.eventKey = true)
    (hup : a ≠ .databaseFails) (hact : router.act s d a = some (d', s')) :
    d'.phase.finished = true := by
  unfold act at hact
  cases a with
  | selectReceipt =>
      simp only [hphase, Option.some.injEq, Prod.mk.injEq] at hact
      rw [← hact.1]
      unfold selectReceipt
      cases router.checkEvent d.request with
      | some decision => rfl
      | none =>
          simp only [IdempotencyRepository.isDuplicate, hrecorded, if_true]
          rfl
  | databaseFails => exact absurd rfl hup
  | abandon =>
      simp only [hphase, Phase.finished, Bool.false_eq_true, if_false, Option.some.injEq,
        Prod.mk.injEq] at hact
      rw [← hact.1]
      rfl
  | _ => simp [hphase] at hact

theorem Settled.step {event : EventKey} {c c' : State} {m : Action} (hc : Settled event c)
    (hup : databaseUp m = true) (hstep : router.machine.step c m = some c') :
    Settled event c' where
  recorded := recorded_step hc.recorded hstep
  idle := by
    intro d' hmem hkey
    obtain ⟨i, hi⟩ := List.mem_iff_getElem?.1 hmem
    rcases Interleaving.party_before_step hstep hi with
      hsame | ⟨d, a, rfl, hbefore, hact⟩ | ⟨e, ls, -, henv, hnew, -⟩
    · exact hc.idle d' (List.mem_of_getElem? hsame) hkey
    · have heffect := act_effect hact
      have hkey' : d.request.eventKey = event := by rw [← heffect.request, hkey]
      rcases hc.idle d (List.mem_of_getElem? hbefore) hkey' with hreceived | hfinished
      · right
        refine finished_of_recorded hreceived ?_ ?_ hact
        · rw [hkey']
          exact hc.recorded
        · rintro rfl
          cases hup
      · rw [heffect.unfinished] at hfinished
        cases hfinished
    · exact Or.inl ((environment_effect henv).2.2 d' hnew).2

theorem Settled.jobsOf_step {event : EventKey} {c c' : State} {m : Action}
    (hc : Settled event c) (hstep : router.machine.step c m = some c') :
    jobsOf event c'.shared = jobsOf event c.shared := by
  rcases jobsOf_of_step event hstep with ⟨-, hsame⟩ | ⟨htakes, -⟩
  · exact hsame
  · exfalso
    unfold brokerTakes at htakes
    split at htakes
    · simp only [Bool.and_eq_true, Option.any_eq_true, decide_eq_true_eq] at htakes
      obtain ⟨-, d, hi, hkey, hphase⟩ := htakes
      rcases hc.idle d (List.mem_of_getElem? hi) hkey with hreceived | hfinished
      · rw [hphase] at hreceived
        cases hreceived
      · rw [hphase] at hfinished
        cases hfinished
    · cases htakes

/-- Whatever is delivered later, a recorded event gets no further job. -/
theorem Settled.jobsOf_run {event : EventKey} {c c' : State} {ms : List Action}
    (hc : Settled event c) (hup : ms.all databaseUp = true)
    (hrun : router.machine.run c ms = some c') :
    jobsOf event c'.shared = jobsOf event c.shared := by
  have hall := router.machine.allSteps_of_forall (s := c) (List.all_eq_true.1 hup)
  have hinv := router.machine.invariant_of_allSteps
    (I := fun d => Settled event d ∧ jobsOf event d.shared = jobsOf event c.shared)
    ?_ ⟨hc, rfl⟩ hall hrun
  · exact hinv.2
  · rintro d m d' ⟨hd, hsame⟩ hm hstep
    exact ⟨hd.step hm hstep, (hd.jobsOf_step hstep).trans hsame⟩

/-- Once its receipt is committed and its deliveries are over, an event has a job,
or can still get one, exactly if the broker took the job of an accepted delivery. -/
theorem publishable_iff_broker_took (router : WebhookRouter) (s : Shared) (event : EventKey)
    (hstart : jobsOf event s = []) (actions : List Action) (c : State)
    (hrun : router.machine.run { shared := s } actions = some c)
    (hrecorded : recorded event c = true) (hquiescent : quiescent c = true) :
    Publishable router event c ↔
      ∃ p ∈ router.machine.trace { shared := s } actions, brokerTakes event p.1 p.2 = true := by
  have hpublished := jobsOf_ne_nil_iff event hrun
  have hsettled := settled_of_quiescent hrecorded hquiescent
  constructor
  · intro hpublishable
    have hjobs : jobsOf event c.shared ≠ [] := by
      rcases hpublishable with hnow | ⟨more, c', hup, hmore, hlater⟩
      · exact hnow
      · rw [← hsettled.jobsOf_run hup hmore]
        exact hlater
    exact (hpublished.1 hjobs).resolve_left fun hold => hold hstart
  · intro htook
    exact Or.inl (hpublished.2 (Or.inr htook))

section Example

/-- One delivery, whose job the broker takes. -/
def publishedDelivery : List Action :=
  .environment (.deliver greetingMessage) :: acceptSteps 0

def afterPublished : State :=
  (plainRouter.machine.run { shared := {} } publishedDelivery).getD { shared := {} }

theorem publishedDelivery_publishable :
    Publishable plainRouter greetingMessage.eventKey afterPublished := by
  refine (publishable_iff_broker_took plainRouter {} greetingMessage.eventKey rfl
    publishedDelivery afterPublished (eq_some_getD (by decide +kernel)) (by decide +kernel)
    (by decide +kernel)).2 ?_
  have hany : (plainRouter.machine.trace { shared := {} } publishedDelivery).any
      (fun p => brokerTakes greetingMessage.eventKey p.1 p.2) = true := by decide +kernel
  simpa only [List.any_eq_true] using hany

/-- One delivery, whose background task finds no connection. -/
def lostDelivery : List Action :=
  .environment (.deliver greetingMessage) ::
    (checkSteps 0 ++ recordSteps 0 ++ [.party 0 (.publish .missing)])

def afterLost : State :=
  (plainRouter.machine.run { shared := {} } lostDelivery).getD { shared := {} }

/-- Recorded, over, and never to be published. -/
theorem lostDelivery_not_publishable :
    plainRouter.machine.run { shared := {} } lostDelivery = some afterLost ∧
      recorded greetingMessage.eventKey afterLost = true ∧ quiescent afterLost = true ∧
      ¬ Publishable plainRouter greetingMessage.eventKey afterLost := by
  have hrecorded : recorded greetingMessage.eventKey afterLost = true := by decide +kernel
  have hquiescent : quiescent afterLost = true := by decide +kernel
  have hnone : jobsOf greetingMessage.eventKey afterLost.shared = [] := by decide +kernel
  have hsettled := settled_of_quiescent hrecorded hquiescent
  refine ⟨eq_some_getD (by decide +kernel), hrecorded, hquiescent, ?_⟩
  rintro (hnow | ⟨more, c', hup, hmore, hlater⟩)
  · exact hnow hnone
  · exact hlater ((hsettled.jobsOf_run hup hmore).trans hnone)

end Example

end WebhookRouter

end Iara.Api
