import Iara.Api.HitlSteps

/-!
# The decision machine

Over a sequence of registrations and decisions, with any failures of their
sessions, `resume_graph` is to be called only on an approval that the table has
recorded.  Both endpoints go on as if it had where the database raised; the run
stays lawful as long as the table holds the decision all the same.
-/

namespace Iara.Api

open Iara.Lib Iara.Persistence

/-! ## The claim -/

/-- What has to come before an event, and what must not. -/
def lawfully (before : List HitlEvent) : HitlEvent → Prop
  | .registered _ => True
  | .approved runId => .registered runId ∈ before
  | .resumed runId _ =>
      .approved runId ∈ before ∧ .rejected runId ∉ before ∧ ∀ t, .resumed runId t ∉ before
  | .rejected _ => True

/-- A run is resumed at most once, only after the hold that was registered for
it went from pending to approved, and never after a rejection that succeeded. -/
def Lawful (log : List HitlEvent) : Prop := Obeys lawfully log

/-- An empty table, and whatever the registry has in memory. -/
def initially (memory : String → Option HitlHold) : HitlStores × List HitlEvent :=
  ({ holds := .empty, memory := memory }, [])

/-! ## The condition -/

/-- The row of the run is decided. -/
def Settled (holds : HitlHolds) (runId : String) : Prop :=
  statusOf holds runId = some .approved ∨ statusOf holds runId = some .rejected

/-- An approval or a rejection whose session raises is in the table all the
same: its commit went through for a pending row, or, for a rejection, the row
was decided before. -/
def RecordsDecision (stores : HitlStores) : HitlCall → Prop
  | .approve session runId _ =>
      session = .commits ∨ session.writes ∧ statusOf stores.holds runId = some .pending
  | .reject session runId _ =>
      session = .commits ∨ session.writes ∧ statusOf stores.holds runId = some .pending ∨
        Settled stores.holds runId
  | _ => True

instance (holds : HitlHolds) (runId : String) : Decidable (Settled holds runId) :=
  inferInstanceAs (Decidable (_ ∨ _))

instance (stores : HitlStores) : DecidablePred (RecordsDecision stores)
  | .nodeRegisters .. => inferInstanceAs (Decidable True)
  | .register .. => inferInstanceAs (Decidable True)
  | .approve .. => inferInstanceAs (Decidable (_ ∨ _))
  | .reject .. => inferInstanceAs (Decidable (_ ∨ _ ∨ _))

/-! ## The invariant -/

/-- What the table and the log have to say of each other. -/
structure Agree (stores : HitlStores) (log : List HitlEvent) : Prop where
  registered : ∀ runId, statusOf stores.holds runId ≠ none → .registered runId ∈ log
  settled : ∀ runId, (.rejected runId ∈ log ∨ ∃ t, .resumed runId t ∈ log) →
    Settled stores.holds runId
  resumed : ∀ runId, .approved runId ∈ log → ∃ t, .resumed runId t ∈ log

section Step

variable {stores : HitlStores} {log : List HitlEvent} {call : HitlCall} {runId : String}

theorem settled_perform (call : HitlCall) (h : Settled stores.holds runId) :
    Settled (call.perform stores).holds runId := by
  have hchange := perform_change call stores runId
  unfold Settled at h ⊢
  generalize statusOf (call.perform stores).holds runId = after at hchange ⊢
  cases hchange with
  | kept => exact h
  | inserted hrun hnone => simp [hnone] at h
  | approved session body hcall hpending => simp [hpending] at h
  | rejected session body hcall hpending => simp [hpending] at h

theorem not_settled_of_pending (h : statusOf stores.holds runId = some .pending) :
    ¬ Settled stores.holds runId := by
  simp [Settled, h]

/-! ### The events of a call -/

theorem resumed_notMem_rowEvents {before after : HitlHolds} {runId' t : String} :
    .resumed runId' t ∉ rowEvents runId before after := by
  unfold rowEvents
  split <;> simp

theorem rejected_notMem_rowEvents {before after : HitlHolds} {runId' : String} :
    .rejected runId' ∉ rowEvents runId before after := by
  unfold rowEvents
  split <;> simp

theorem rowEvents_of_inserted {before after : HitlHolds}
    (hbefore : statusOf before runId = none) (hafter : statusOf after runId = some .pending) :
    rowEvents runId before after = [.registered runId] := by
  simp only [rowEvents, hbefore, hafter]

theorem rowEvents_of_approved {before after : HitlHolds}
    (hbefore : statusOf before runId = some .pending)
    (hafter : statusOf after runId = some .approved) :
    rowEvents runId before after = [.approved runId] := by
  simp only [rowEvents, hbefore, hafter]

theorem approved_mem_rowEvents {before after : HitlHolds} {runId' : String}
    (h : .approved runId' ∈ rowEvents runId before after) :
    runId' = runId ∧ statusOf before runId = some .pending ∧
      statusOf after runId = some .approved := by
  unfold rowEvents at h
  split at h
  · simp at h
  · next hbefore hafter => exact ⟨by simpa using h, hbefore, hafter⟩
  · simp at h

theorem approved_notMem_answers : .approved runId ∉ call.answers stores := by
  cases call with
  | nodeRegisters => simp [HitlCall.answers]
  | register => simp [HitlCall.answers]
  | approve session runId' body =>
      rcases answers_approve session runId' body stores with ⟨hnone, -⟩ | ⟨⟨t, hresumed⟩, -⟩
      · simp [hnone]
      · simp [hresumed]
  | reject session runId' body =>
      rcases answers_reject session runId' body stores with ⟨hnone, -⟩ | ⟨hrejected, -⟩
      · simp [hnone]
      · simp [hrejected]

theorem obeys_rowEvents (hagree : Agree stores log) (after : HitlHolds) :
    Obeys (fun before => lawfully (log ++ before)) (rowEvents runId stores.holds after) := by
  unfold rowEvents
  split
  · rw [obeys_singleton_iff]
    trivial
  · next hbefore hafter =>
      rw [obeys_singleton_iff]
      simp only [lawfully, List.append_nil]
      exact hagree.registered runId (by simp [hbefore])
  · exact obeys_nil

/-- A pending row and a session that writes: the approval is recorded. -/
theorem approve_recorded {session : Transaction} {body : HitlDecisionRequest}
    (hwrites : session.writes = true) (hpending : statusOf stores.holds runId = some .pending) :
    statusOf ((HitlCall.approve session runId body).perform stores).holds runId =
      some .approved := by
  unfold HitlCall.perform
  rw [status_approveHold, if_pos ⟨hwrites, rfl, hpending⟩]

/-- What an approval that resumes finds and leaves, under the condition. -/
theorem approve_of_resumed {session : Transaction} {body : HitlDecisionRequest}
    (hrecords : RecordsDecision stores (.approve session runId body))
    (hcommits : session = .commits → statusOf stores.holds runId = some .pending) :
    statusOf stores.holds runId = some .pending ∧
      statusOf ((HitlCall.approve session runId body).perform stores).holds runId =
        some .approved := by
  rcases hrecords with rfl | ⟨hwrites, hpending⟩
  · have hpending := hcommits rfl
    exact ⟨hpending, approve_recorded rfl hpending⟩
  · exact ⟨hpending, approve_recorded hwrites hpending⟩

/-- A rejection that succeeds leaves a decided row, under the condition. -/
theorem reject_settled {session : Transaction} {body : HitlDecisionRequest}
    (hrecords : RecordsDecision stores (.reject session runId body))
    (hcommits : session = .commits → statusOf stores.holds runId = some .pending) :
    Settled ((HitlCall.reject session runId body).perform stores).holds runId := by
  have hdecided : session.writes = true → statusOf stores.holds runId = some .pending →
      Settled ((HitlCall.reject session runId body).perform stores).holds runId := by
    intro hwrites hpending
    unfold Settled HitlCall.perform
    rw [status_rejectHold, if_pos ⟨hwrites, rfl, hpending⟩]
    exact Or.inr rfl
  rcases hrecords with rfl | ⟨hwrites, hpending⟩ | hsettled
  · exact hdecided rfl (hcommits rfl)
  · exact hdecided hwrites hpending
  · exact settled_perform _ hsettled

/-- Under the condition, the log allows what a call emits. -/
theorem obeys_events (hagree : Agree stores log) (hrecords : RecordsDecision stores call) :
    Obeys (fun before => lawfully (log ++ before)) (hitlRecorder.events stores call) := by
  change Obeys _ (rowEvents call.runId stores.holds (call.perform stores).holds ++
    call.answers stores)
  rw [obeys_append_iff]
  refine ⟨obeys_rowEvents hagree _, ?_⟩
  cases call with
  | nodeRegisters => exact obeys_nil
  | register => exact obeys_nil
  | approve session runId body =>
      rcases answers_approve session runId body stores with ⟨hnone, -⟩ | ⟨⟨t, hresumed⟩, hcommits⟩
      · rw [hnone]
        exact obeys_nil
      · obtain ⟨hpending, happroved⟩ := approve_of_resumed hrecords hcommits
        have hnot := not_settled_of_pending hpending
        rw [hresumed, obeys_singleton_iff]
        simp only [lawfully, List.append_nil, List.mem_append, HitlCall.runId,
          rowEvents_of_approved hpending happroved, List.mem_singleton, reduceCtorEq, or_false,
          or_true, true_and]
        exact ⟨fun hrejected => hnot (hagree.settled runId (Or.inl hrejected)),
          fun t hresumed => hnot (hagree.settled runId (Or.inr ⟨t, hresumed⟩))⟩
  | reject session runId body =>
      rcases answers_reject session runId body stores with ⟨hnone, -⟩ | ⟨hrejected, -⟩
      · rw [hnone]
        exact obeys_nil
      · rw [hrejected, obeys_singleton_iff]
        trivial

/-! ### The step -/

theorem mem_events_of_log {e : HitlEvent} (h : e ∈ log) :
    e ∈ log ++ hitlRecorder.events stores call := List.mem_append_left _ h

theorem registered_events (hagree : Agree stores log)
    (h : statusOf (call.perform stores).holds runId ≠ none) :
    .registered runId ∈ log ++ hitlRecorder.events stores call := by
  have hchange := perform_change call stores runId
  generalize hafter : statusOf (call.perform stores).holds runId = after at hchange h
  cases hchange with
  | kept => exact mem_events_of_log (hagree.registered runId h)
  | inserted hrun hnone =>
      subst hrun
      apply List.mem_append_right
      apply List.mem_append_left
      rw [rowEvents_of_inserted hnone hafter]
      exact List.mem_singleton_self _
  | approved session body hcall hpending =>
      exact mem_events_of_log (hagree.registered runId (by simp [hpending]))
  | rejected session body hcall hpending =>
      exact mem_events_of_log (hagree.registered runId (by simp [hpending]))

/-- What a call answers about a run settles its row, under the condition. -/
theorem settled_of_answers (hrecords : RecordsDecision stores call)
    (h : .rejected runId ∈ call.answers stores ∨ ∃ t, .resumed runId t ∈ call.answers stores) :
    Settled (call.perform stores).holds runId := by
  cases call with
  | nodeRegisters => simp [HitlCall.answers] at h
  | register => simp [HitlCall.answers] at h
  | approve session runId' body =>
      rcases answers_approve session runId' body stores with ⟨hnone, -⟩ | ⟨⟨t, hresumed⟩, hcommits⟩
      · simp [hnone] at h
      · have hrun : runId = runId' := by simpa [hresumed] using h
        subst hrun
        exact Or.inl (approve_of_resumed hrecords hcommits).2
  | reject session runId' body =>
      rcases answers_reject session runId' body stores with ⟨hnone, -⟩ | ⟨hrejected, hcommits⟩
      · simp [hnone] at h
      · have hrun : runId = runId' := by simpa [hrejected] using h
        subst hrun
        exact reject_settled hrecords hcommits

theorem settled_events (hagree : Agree stores log) (hrecords : RecordsDecision stores call)
    (h : .rejected runId ∈ log ++ hitlRecorder.events stores call ∨
      ∃ t, .resumed runId t ∈ log ++ hitlRecorder.events stores call) :
    Settled (call.perform stores).holds runId := by
  have hsplit : (.rejected runId ∈ log ∨ ∃ t, .resumed runId t ∈ log) ∨
      (.rejected runId ∈ call.answers stores ∨ ∃ t, .resumed runId t ∈ call.answers stores) := by
    simp only [hitlRecorder, List.mem_append, rejected_notMem_rowEvents, resumed_notMem_rowEvents,
      false_or, exists_or] at h
    tauto
  rcases hsplit with hlog | hanswers
  · exact settled_perform call (hagree.settled runId hlog)
  · exact settled_of_answers hrecords hanswers

/-- Only a call of `approve_hold` approves, and it resumes the run. -/
theorem resumed_of_approved
    (h : .approved runId ∈ rowEvents call.runId stores.holds (call.perform stores).holds) :
    ∃ t, .resumed runId t ∈ call.answers stores := by
  obtain ⟨hrun, hpending, happroved⟩ := approved_mem_rowEvents h
  subst hrun
  have hchange := perform_change call stores call.runId
  rw [hpending, happroved] at hchange
  cases hchange with
  | approved session body hcall _ =>
      rcases answers_approve session call.runId body stores with ⟨-, -, hnot⟩ | ⟨⟨t, hresumed⟩, -⟩
      · exact absurd hpending hnot
      · rw [← hcall] at hresumed
        exact ⟨t, by simp [hresumed]⟩

/-- Under the condition, every call keeps the table and the log in agreement. -/
theorem agree_step (hagree : Agree stores log) (hrecords : RecordsDecision stores call) :
    Agree (call.perform stores) (log ++ hitlRecorder.events stores call) where
  registered runId := registered_events hagree
  settled runId := settled_events hagree hrecords
  resumed := by
    intro runId h
    simp only [hitlRecorder, List.mem_append] at h ⊢
    rcases h with hlog | hrow | hanswers
    · obtain ⟨t, ht⟩ := hagree.resumed runId hlog
      exact ⟨t, Or.inl ht⟩
    · obtain ⟨t, ht⟩ := resumed_of_approved hrow
      exact ⟨t, Or.inr (Or.inr ht)⟩
    · exact absurd hanswers approved_notMem_answers

theorem agree_initially (memory : String → Option HitlHold) :
    Agree (initially memory).1 (initially memory).2 where
  registered := by
    intro runId h
    exact absurd rfl h
  settled := by
    intro runId h
    simp [initially] at h
  resumed := by
    intro runId h
    simp [initially] at h

end Step

/-! ## The result -/

/-- Every sequence of registrations and decisions whose decisions are all
recorded is lawful. -/
theorem lawful_of_recordsDecision (memory : String → Option HitlHold) (calls : List HitlCall)
    (s : HitlStores × List HitlEvent)
    (hall : hitlRecorder.machine.AllSteps (fun s call => RecordsDecision s.1 call)
      (initially memory) calls)
    (hrun : hitlRecorder.machine.run (initially memory) calls = some s) : Lawful s.2 :=
  (hitlRecorder.obeys_of_allSteps (I := Agree) (fun _ _ _ => obeys_events)
    (fun _ _ _ => agree_step) (agree_initially memory) obeys_nil hall hrun).2

/-! ## The condition is the weakest -/

section Weakest

variable {stores : HitlStores} {log : List HitlEvent} {runId : String}

/-- An approval that raises without a transition resumes against the law. -/
theorem approve_unlawful {session : Transaction} {body : HitlDecisionRequest}
    (hagree : Agree stores log)
    (h : ¬ RecordsDecision stores (.approve session runId body)) :
    ¬ Lawful (log ++ hitlRecorder.events stores (.approve session runId body)) := by
  have hcommits : session ≠ .commits := fun hsession => h (Or.inl hsession)
  have hrecorded : ¬ (session.writes = true ∧ statusOf stores.holds runId = some .pending) :=
    fun hrecorded => h (Or.inr hrecorded)
  obtain ⟨t, hresumed⟩ : ∃ t, (HitlCall.approve session runId body).answers stores =
      [.resumed runId t] := by
    rcases answers_approve session runId body stores with ⟨-, hsession, -⟩ | ⟨hresumed, -⟩
    · exact absurd hsession hcommits
    · exact hresumed
  intro hlawful
  have hlast := (obeys_append_iff.1 (obeys_append_iff.1 hlawful).2).2
  rw [hresumed, obeys_singleton_iff] at hlast
  obtain ⟨happroved, -, hfresh⟩ := hlast
  simp only [List.append_nil, List.mem_append] at happroved hfresh
  rcases happroved with hlog | hrow
  · obtain ⟨t', ht'⟩ := hagree.resumed runId hlog
    exact hfresh t' (Or.inl ht')
  · obtain ⟨-, hpending, hafter⟩ := approved_mem_rowEvents hrow
    simp only [HitlCall.runId, HitlCall.perform, status_approveHold] at hpending hafter
    rw [if_neg (fun hwrites => hrecorded ⟨hwrites.1, hpending⟩), hpending] at hafter
    cases hafter

/-- A registration that commits, for a run whose row is missing or pending. -/
theorem register_pending {tenantId : String} {tenant : Uuid} {contextSnapshot : ContextSnapshot}
    (htenant : parseUuid tenantId = some tenant)
    (hopen : statusOf stores.holds runId = none ∨ statusOf stores.holds runId = some .pending) :
    statusOf ((HitlCall.nodeRegisters .commits runId tenantId "" "" none contextSnapshot).perform
      stores).holds runId = some .pending := by
  simp only [HitlCall.perform, HitlHoldRepository.register, htenant]
  unfold statusOf at hopen ⊢
  rw [Table.find_insertOrIgnore]
  rcases hopen with hnone | hpending
  · rw [Option.map_eq_none_iff] at hnone
    simp [hnone]
  · obtain ⟨row, hrow, hstatus⟩ := Option.map_eq_some_iff.1 hpending
    simp [hrow, hstatus]

/-- An approval that finds a pending row after a rejection that succeeded. -/
theorem approve_after_rejected {body : HitlDecisionRequest} (hrejected : .rejected runId ∈ log)
    (hpending : statusOf stores.holds runId = some .pending) :
    ¬ Lawful (log ++ hitlRecorder.events stores (.approve .commits runId body)) := by
  obtain ⟨t, hresumed⟩ : ∃ t, (HitlCall.approve .commits runId body).answers stores =
      [.resumed runId t] := by
    rcases answers_approve .commits runId body stores with ⟨-, -, hnot⟩ | ⟨hresumed, -⟩
    · exact absurd hpending hnot
    · exact hresumed
  intro hlawful
  have hlast := (obeys_append_iff.1 (obeys_append_iff.1 hlawful).2).2
  rw [hresumed, obeys_singleton_iff] at hlast
  exact hlast.2.1 (List.mem_append_left _ hrejected)

/-- A rejection that succeeds without deciding the row can be followed by an
approval that is recorded. -/
theorem reject_unlawful {session : Transaction} {body : HitlDecisionRequest}
    (h : ¬ RecordsDecision stores (.reject session runId body)) :
    ∃ more t, hitlRecorder.machine.AllSteps (fun s call => RecordsDecision s.1 call)
        ((HitlCall.reject session runId body).perform stores,
          log ++ hitlRecorder.events stores (.reject session runId body)) more ∧
      hitlRecorder.machine.run ((HitlCall.reject session runId body).perform stores,
        log ++ hitlRecorder.events stores (.reject session runId body)) more = some t ∧
      ¬ Lawful t.2 := by
  let tenantId := "00000000000000000000000000000001"
  let register : HitlCall := .nodeRegisters .commits runId tenantId "" "" none
    { stepCount := 0, correlationId := "", hitlReason := "" }
  let approve : HitlCall := .approve .commits runId body
  let rejected := (HitlCall.reject session runId body).perform stores
  have hcommits : session ≠ .commits := fun hsession => h (Or.inl hsession)
  have hrecorded : ¬ (session.writes = true ∧ statusOf stores.holds runId = some .pending) :=
    fun hrecorded => h (Or.inr (Or.inl hrecorded))
  have hsettled : ¬ Settled stores.holds runId := fun hsettled => h (Or.inr (Or.inr hsettled))
  have hopen : statusOf rejected.holds runId = none ∨
      statusOf rejected.holds runId = some .pending := by
    have hsame : statusOf rejected.holds runId = statusOf stores.holds runId := by
      simp only [rejected, HitlCall.perform, status_rejectHold, true_and]
      exact if_neg hrecorded
    rw [hsame]
    unfold Settled at hsettled
    cases hstatus : statusOf stores.holds runId with
    | none => exact Or.inl rfl
    | some status =>
        cases status with
        | pending => exact Or.inr rfl
        | approved => simp [hstatus] at hsettled
        | rejected => simp [hstatus] at hsettled
  have hanswered : (HitlCall.reject session runId body).answers stores = [.rejected runId] := by
    rcases answers_reject session runId body stores with ⟨-, hsession, -⟩ | ⟨hrejected, -⟩
    · exact absurd hsession hcommits
    · exact hrejected
  have hpending : statusOf (register.perform rejected).holds runId = some .pending :=
    register_pending (show parseUuid tenantId = some 1 by decide +kernel) hopen
  have hbefore : .rejected runId ∈
      log ++ hitlRecorder.events stores (.reject session runId body) := by
    apply List.mem_append_right
    simp [hitlRecorder, hanswered]
  refine ⟨[register, approve], _, ?_, rfl, ?_⟩
  · exact ⟨trivial, fun _ _ => ⟨Or.inl rfl, fun _ _ => trivial⟩⟩
  · exact approve_after_rejected (List.mem_append_left _ hbefore) hpending

/-- From a lawful run, a call whose decision is not recorded leads out of the
law, at once or through recorded decisions alone. -/
theorem exists_unlawful_of_not_recordsDecision {memory : String → Option HitlHold}
    {calls : List HitlCall} {s : HitlStores × List HitlEvent} {call : HitlCall}
    (hall : hitlRecorder.machine.AllSteps (fun s call => RecordsDecision s.1 call)
      (initially memory) calls)
    (hrun : hitlRecorder.machine.run (initially memory) calls = some s)
    (h : ¬ RecordsDecision s.1 call) :
    ∃ more t, hitlRecorder.machine.AllSteps (fun s call => RecordsDecision s.1 call)
        (call.perform s.1, s.2 ++ hitlRecorder.events s.1 call) more ∧
      hitlRecorder.machine.run (call.perform s.1, s.2 ++ hitlRecorder.events s.1 call) more =
        some t ∧ ¬ Lawful t.2 := by
  have hagree : Agree s.1 s.2 := (hitlRecorder.obeys_of_allSteps (I := Agree)
    (fun _ _ _ => obeys_events) (fun _ _ _ => agree_step) (agree_initially memory) obeys_nil hall
    hrun).1
  cases call with
  | nodeRegisters => exact absurd trivial h
  | register => exact absurd trivial h
  | approve session runId body => exact ⟨[], _, trivial, rfl, approve_unlawful hagree h⟩
  | reject session runId body => exact reject_unlawful h

end Weakest

section Example

def fromNode (runId : String) : HitlCall :=
  .nodeRegisters .commits runId "00000000000000000000000000000001" "7" runId (some "anti_loop")
    { stepCount := 5, correlationId := "c", hitlReason := "anti_loop" }

def byAna : HitlDecisionRequest where
  decidedBy := "ana"

def stateAfter (calls : List HitlCall) : HitlStores × List HitlEvent :=
  (hitlRecorder.machine.run (initially fun _ => none) calls).getD (initially fun _ => none)

/-- The approval raises after its commit; the second rejection finds the row
rejected. -/
def recordedRun : List HitlCall :=
  [fromNode "a", .approve (.commitsThenFails "OperationalError") "a" byAna,
    .approve .commits "a" byAna, fromNode "b", .reject .commits "b" byAna,
    .reject (.fails "OperationalError") "b" byAna, .approve .commits "b" byAna]

theorem recordedRun_lawful : Lawful (stateAfter recordedRun).2 := by
  have hrun : (hitlRecorder.machine.run (initially fun _ => none) recordedRun).isSome = true := by
    decide +kernel
  refine lawful_of_recordsDecision (fun _ => none) recordedRun _ ?_ (eq_some_getD hrun)
  apply Machine.allSteps_of_trace
  have hall : (hitlRecorder.machine.trace (initially fun _ => none) recordedRun).all
      (fun p => decide (RecordsDecision p.1.1 p.2)) = true := by decide +kernel
  intro p hp
  exact of_decide_eq_true (List.all_eq_true.1 hall p hp)

/-- An approval of a run that nobody registered, while the database is down. -/
def unregisteredRun : List HitlCall := [.approve (.fails "OperationalError") "a" byAna]

/-- The rejection does not reach the database, and the approval does. -/
def rejectedRun : List HitlCall :=
  [fromNode "a", .reject (.fails "OperationalError") "a" byAna, .approve .commits "a" byAna]

def twiceApprovedRun : List HitlCall :=
  [fromNode "a", .approve .commits "a" byAna, .approve (.fails "OperationalError") "a" byAna]

theorem unrecorded_not_lawful :
    ¬ Lawful (stateAfter unregisteredRun).2 ∧ ¬ Lawful (stateAfter rejectedRun).2 ∧
      ¬ Lawful (stateAfter twiceApprovedRun).2 := by
  have hunregistered : (stateAfter unregisteredRun).2 = [.resumed "a" "a"] := by decide +kernel
  have hrejected : (stateAfter rejectedRun).2 =
      [.registered "a", .rejected "a", .approved "a", .resumed "a" "a"] := by decide +kernel
  have htwice : (stateAfter twiceApprovedRun).2 =
      [.registered "a", .approved "a", .resumed "a" "a", .resumed "a" "a"] := by decide +kernel
  rw [hunregistered, hrejected, htwice]
  refine ⟨?_, ?_, ?_⟩
  · intro h
    exact absurd (h [] (.resumed "a" "a") [] rfl).1 (by simp)
  · intro h
    have hresumed := h [.registered "a", .rejected "a", .approved "a"] (.resumed "a" "a") [] rfl
    exact hresumed.2.1 (by simp)
  · intro h
    have hresumed := h [.registered "a", .approved "a", .resumed "a" "a"] (.resumed "a" "a") [] rfl
    exact hresumed.2.2 "a" (by simp)

end Example

end Iara.Api
