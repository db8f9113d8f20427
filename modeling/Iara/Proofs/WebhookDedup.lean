import Iara.Api.WebhookSteps

/-!
# Webhook deduplication

When any number of deliveries of one event are handled at once, at most one job
is published if at most one of them passes both checks of the database.
-/

namespace Iara.Api

open Iara.Lib Iara.Persistence Iara.Eligibility

namespace WebhookRouter

variable {router : WebhookRouter}

/-- The jobs that were published for an event. -/
def jobsOf (event : EventKey) (s : Shared) : List PublishedJob :=
  s.jobs.filter fun job => job.eventKey = event

/-- A delivery of the event has passed both checks. -/
def decided (event : EventKey) (c : State) : Bool :=
  c.parties.any fun d => d.request.eventKey = event && d.phase.passed

/-- A delivery of the event that finds no open debounce window is the first one to
pass, and the database is up. -/
def decidesOnce (event : EventKey) (c : State) : Action → Bool
  | .party i .selectDebounce =>
      c.parties[i]?.all fun d =>
        d.request.eventKey ≠ event || windowLive c.shared d || !decided event c
  | .party i .databaseFails => c.parties[i]?.all fun d => d.request.eventKey ≠ event
  | _ => true

theorem decided_iff {event : EventKey} {c : State} :
    decided event c = true ↔
      ∃ d ∈ c.parties, d.request.eventKey = event ∧ d.phase.passed = true := by
  simp [decided]

/-- At most one delivery of the event has passed, and a job of the event is the
one that it published. -/
structure OneWinner (event : EventKey) (c : State) : Prop where
  unique : ∀ (i j : Nat) (d d' : Delivery), c.parties[i]? = some d → c.parties[j]? = some d' →
    d.request.eventKey = event → d'.request.eventKey = event →
    d.phase.passed = true → d'.phase.passed = true → i = j
  count : (jobsOf event c.shared).length ≤ 1
  winner : jobsOf event c.shared ≠ [] →
    ∃ d ∈ c.parties, d.request.eventKey = event ∧ d.phase = .published

theorem jobsOf_append_self {event : EventKey} {s s' : Shared} {d : Delivery}
    (hkey : d.request.eventKey = event) (hjobs : s'.jobs = s.jobs ++ [d.publishedJob]) :
    jobsOf event s' = jobsOf event s ++ [d.publishedJob] := by
  unfold jobsOf
  rw [hjobs, List.filter_append]
  simp [Delivery.publishedJob, hkey]

theorem jobsOf_append_of_ne {event : EventKey} {s s' : Shared} {d : Delivery}
    (hkey : d.request.eventKey ≠ event) (hjobs : s'.jobs = s.jobs ++ [d.publishedJob]) :
    jobsOf event s' = jobsOf event s := by
  unfold jobsOf
  rw [hjobs, List.filter_append]
  simp [Delivery.publishedJob, hkey]

theorem jobsOf_of_jobs {event : EventKey} {s s' : Shared} (hjobs : s'.jobs = s.jobs) :
    jobsOf event s' = jobsOf event s := by
  unfold jobsOf
  rw [hjobs]

/-- A delivery that has passed after the step had passed before, or it is the one
that decides in this step. -/
theorem passed_of_step {event : EventKey} {c c' : State} {m : Action}
    (hstep : router.machine.step c m = some c') (hcondition : decidesOnce event c m = true)
    {i : Nat} {d' : Delivery} (hi : c'.parties[i]? = some d')
    (hkey : d'.request.eventKey = event) (hpassed : d'.phase.passed = true) :
    (∃ d, c.parties[i]? = some d ∧ d.request.eventKey = event ∧ d.phase.passed = true) ∨
      ((∃ a, m = .party i a) ∧ decided event c = false) := by
  rcases Interleaving.party_before_step hstep hi with
    hsame | ⟨d, a, rfl, hbefore, hact⟩ | ⟨e, ls, -, henv, hnew, -⟩
  · exact Or.inl ⟨d', hsame, hkey, hpassed⟩
  · have heffect := act_effect hact
    have hkey' : d.request.eventKey = event := by rw [← heffect.request, hkey]
    rcases heffect.passed hpassed with hold | rfl | ⟨rfl, hopen⟩
    · exact Or.inl ⟨d, hbefore, hkey', hold⟩
    · simp [decidesOnce, hbefore, hkey'] at hcondition
    · refine Or.inr ⟨⟨_, rfl⟩, ?_⟩
      simpa [decidesOnce, hbefore, hkey', hopen] using hcondition
  · rw [((environment_effect henv).2.2 d' hnew).2] at hpassed
    cases hpassed

/-- After the step, too, no two deliveries of the event have passed. -/
theorem OneWinner.unique_step {event : EventKey} {c c' : State} {m : Action}
    (hc : OneWinner event c) (hcondition : decidesOnce event c m = true)
    (hstep : router.machine.step c m = some c') (i j : Nat) (d d' : Delivery)
    (hi : c'.parties[i]? = some d) (hj : c'.parties[j]? = some d')
    (hkey : d.request.eventKey = event) (hkey' : d'.request.eventKey = event)
    (hpassed : d.phase.passed = true) (hpassed' : d'.phase.passed = true) : i = j := by
  rcases passed_of_step hstep hcondition hi hkey hpassed with
    ⟨g, hg, hgkey, hgpassed⟩ | ⟨⟨a, ha⟩, hundecided⟩
  · rcases passed_of_step hstep hcondition hj hkey' hpassed' with
      ⟨g', hg', hgkey', hgpassed'⟩ | ⟨-, hundecided⟩
    · exact hc.unique i j g g' hg hg' hgkey hgkey' hgpassed hgpassed'
    · rw [decided_iff.2 ⟨g, List.mem_of_getElem? hg, hgkey, hgpassed⟩] at hundecided
      cases hundecided
  · rcases passed_of_step hstep hcondition hj hkey' hpassed' with
      ⟨g', hg', hgkey', hgpassed'⟩ | ⟨⟨b, hb⟩, -⟩
    · rw [decided_iff.2 ⟨g', List.mem_of_getElem? hg', hgkey', hgpassed'⟩] at hundecided
      cases hundecided
    · rw [ha] at hb
      cases hb
      rfl

/-- Before the one that has passed publishes, there is no job of the event. -/
theorem OneWinner.jobsOf_eq_nil {event : EventKey} {c : State} (hc : OneWinner event c)
    {i : Nat} {d : Delivery} (hi : c.parties[i]? = some d) (hkey : d.request.eventKey = event)
    (hphase : d.phase = .accepted) : jobsOf event c.shared = [] := by
  by_contra hne
  obtain ⟨g, hmem, hgkey, hgphase⟩ := hc.winner hne
  obtain ⟨j, hj⟩ := List.mem_iff_getElem?.1 hmem
  obtain rfl := hc.unique i j d g hi hj hkey hgkey (by rw [hphase]; rfl) (by rw [hgphase]; rfl)
  rw [hi, Option.some.injEq] at hj
  rw [hj, hgphase] at hphase
  cases hphase

theorem OneWinner.step {event : EventKey} {c c' : State} {m : Action} (hc : OneWinner event c)
    (hcondition : decidesOnce event c m = true) (hstep : router.machine.step c m = some c') :
    OneWinner event c' := by
  have hunique := hc.unique_step hcondition hstep
  have hkept (hjobs : jobsOf event c'.shared = jobsOf event c.shared) : OneWinner event c' := by
    refine ⟨hunique, hjobs ▸ hc.count, ?_⟩
    rw [hjobs]
    intro hne
    obtain ⟨d, hmem, hkey, hphase⟩ := hc.winner hne
    exact ⟨d, published_of_step hstep hmem hphase, hkey, hphase⟩
  cases m with
  | environment e =>
      obtain ⟨ls, t, henv, rfl⟩ := Interleaving.step_environment hstep
      exact hkept (jobsOf_of_jobs (environment_effect henv).1)
  | party i a =>
      obtain ⟨d, d', t, hi, hact, rfl⟩ := Interleaving.step_party hstep
      have heffect := act_effect hact
      rcases heffect.jobs with ⟨hsame, -⟩ | ⟨-, hphase, hphase', hjobs⟩
      · exact hkept (jobsOf_of_jobs hsame)
      · by_cases hkey : d.request.eventKey = event
        · -- the winner publishes: nobody can have published before
          have hone := jobsOf_append_self hkey hjobs
          rw [hc.jobsOf_eq_nil hi hkey hphase, List.nil_append] at hone
          refine ⟨hunique, by rw [hone]; exact Nat.le_refl 1, ?_⟩
          intro _
          have hlt : i < c.parties.length := (List.getElem?_eq_some_iff.1 hi).1
          refine ⟨d', ?_, by rw [heffect.request, hkey], hphase'⟩
          exact List.mem_of_getElem? (List.getElem?_set_self hlt)
        · exact hkept (jobsOf_append_of_ne hkey hjobs)

/-- Along every run in which a delivery passes the debounce check only if no other
delivery of its event has passed, at most one job is published for the event. -/
theorem jobs_le_one_of_decidesOnce (router : WebhookRouter) (s : Shared) (event : EventKey)
    (hstart : jobsOf event s = []) (actions : List Action) (c : State)
    (hrun : router.machine.run { shared := s } actions = some c)
    (hcondition : router.machine.AllSteps (fun c m => decidesOnce event c m = true)
      { shared := s } actions) : (jobsOf event c.shared).length ≤ 1 := by
  have hbegin : OneWinner event { shared := s } := by
    refine ⟨by simp, ?_, ?_⟩
    · change (jobsOf event s).length ≤ 1
      simp [hstart]
    · intro hne
      exact absurd hstart hne
  have hwinner := router.machine.invariant_of_allSteps
    (fun _ _ _ hd hm hstep => OneWinner.step hd hm hstep) hbegin hcondition hrun
  exact hwinner.count

section Example

/-- The second delivery comes when the first has committed: a duplicate. -/
def serialDeliveries : List Action :=
  [.environment (.deliver greetingMessage), .environment (.deliver greetingMessage)] ++
    acceptSteps 0 ++ [.party 1 .selectReceipt]

def afterSerial : State :=
  (plainRouter.machine.run { shared := {} } serialDeliveries).getD { shared := {} }

theorem serialDeliveries_one_job :
    (jobsOf greetingMessage.eventKey afterSerial.shared).length ≤ 1 := by
  apply jobs_le_one_of_decidesOnce plainRouter {} greetingMessage.eventKey rfl serialDeliveries
  · exact eq_some_getD (by decide +kernel)
  · apply plainRouter.machine.allSteps_of_trace
    have hall : (plainRouter.machine.trace { shared := {} } serialDeliveries).all
        (fun p => decidesOnce greetingMessage.eventKey p.1 p.2) = true := by decide +kernel
    intro p hp
    exact List.all_eq_true.1 hall p hp

/-- Both deliveries run their `SELECT`s before either has committed. -/
def racingDeliveries : List Action :=
  [.environment (.deliver greetingMessage), .environment (.deliver greetingMessage)] ++
    checkSteps 0 ++ checkSteps 1 ++ recordSteps 0 ++ recordSteps 1 ++
    [.party 0 (.publish .takes), .party 1 (.publish .takes)]

/-- Two jobs of one event. -/
theorem racingDeliveries_two_jobs :
    (plainRouter.machine.run { shared := {} } racingDeliveries).map
      (fun c => (jobsOf greetingMessage.eventKey c.shared).length) = some 2 := by
  decide +kernel

end Example

end WebhookRouter

end Iara.Api
