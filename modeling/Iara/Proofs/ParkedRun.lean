import Iara.Proofs.HeldConversation

/-!
# Parked runs and their holds

A run that reaches the HITL node ends there with the flag set and no error,
whatever became of the hold.  So it is backed by a pending row exactly where the
row was written or was there before.
-/

namespace Iara.Workers

open Iara.Lib Iara.Persistence Iara.Graph

/-! ## The claim -/

/-- The graph with the sessions of the HITL node, statement by statement. -/
def withHoldSessions (deps : Deps) (sessions : Nat → HoldSession) : Deps :=
  { deps with sessionFactory := some fun draw => (sessions draw).transaction }

/-- The run id under which the HITL node registers its hold at a visit. -/
def parkedRunId (deps : Deps) (v : GraphVisit) : String :=
  v.pre.runId.getD (deps.uuids.gen v.worldBefore.draws)

/-- The run parks the conversation and signals no failure. -/
def Parks (s : GraphState) (run : List GraphVisit × Ending) : Prop :=
  (StateGraph.stateAfter s run.1).hitlRequested = some true ∧
    (StateGraph.stateAfter s run.1).failed = false ∧ run.2 = .finished

def PendingHold (holds : HitlHolds) (runId : String) : Prop :=
  ∃ r, holds.find runId = some r ∧ r.status = .pending

instance (holds : HitlHolds) (runId : String) : Decidable (PendingHold holds runId) :=
  decidable_of_iff ((holds.find runId).any fun r => decide (r.status = .pending)) (by
    simp [PendingHold, Option.any_eq_true])

instance (s : GraphState) (run : List GraphVisit × Ending) : Decidable (Parks s run) :=
  inferInstanceAs (Decidable (_ ∧ _ ∧ _))

/-- A run that parks leaves a pending hold of its id. -/
def ParksWithHold (s : GraphState) (w : World) (run : List GraphVisit × Ending)
    (runId : String) : Prop :=
  Parks s run → PendingHold (StateGraph.worldAfter w run.1).holds runId

instance (s : GraphState) (w : World) (run : List GraphVisit × Ending) (runId : String) :
    Decidable (ParksWithHold s w run runId) :=
  inferInstanceAs (Decidable (_ → _))

/-- The row of the run is there and pending, or there is none and the session
writes it. -/
def HoldGetsWritten (session : HoldSession) (tenantId : Option String) (runId : String)
    (holds : HitlHolds) : Prop :=
  match holds.find runId with
  | some r => r.status = .pending
  | none => (parseUuid (tenantId.getD "")).isSome = true ∧ session.writes = true

/-! ## The run up to the HITL node -/

section Run

variable {deps : Deps} {sessions : Nat → HoldSession} {limit : Nat} {s : GraphState} {w : World}
  {v : GraphVisit}

/-- Before the HITL node a run writes no hold, and it gets there without an error. -/
theorem before_hitl (hv : v ∈ ((buildConversationalGraph deps).execute limit .eligibility s w).1)
    (hnode : v.node = .hitl) :
    v.pre.tenantId = s.tenantId ∧ v.worldBefore.holds = w.holds ∧ v.pre.failed = false := by
  have hinv : (v.pre.tenantId = s.tenantId ∧ v.worldBefore.holds = w.holds ∧
      (v.node = .hitl → v.pre.failed = false)) ∧
      v = (buildConversationalGraph deps).superstep v.node v.pre v.worldBefore := by
    refine (buildConversationalGraph deps).visits_invariant
      (P := fun n t w' => t.tenantId = s.tenantId ∧ w'.holds = w.holds ∧
        (n = .hitl → t.failed = false)) ?_ ⟨rfl, rfl, fun h => by cases h⟩ v hv
    intro n t w' n' ht hroute
    have hn : n ≠ .hitl := by
      rintro rfl
      cases hroute
    refine ⟨?_, ((runNode_stores deps n t w').holds hn).trans ht.2.1, ?_⟩
    · have htenant := (runNode_update deps n t w').identifiers.2.1
      rw [superstep_post]
      simp [GraphState.merge, htenant, ht.1]
    · rintro rfl
      exact (route_to_hitl hroute).2.1
  exact ⟨hinv.1.1, hinv.1.2.1, hinv.1.2.2 hnode⟩

/-- What the HITL node does to the table of holds is what the statements of its
session do. -/
theorem hitlNode_holds_eq (sessions : Nat → HoldSession) (uuids : UuidSupply) (s : GraphState)
    (w : World) :
    ∃ reason snapshot,
      (hitlNode uuids (some fun draw => (sessions draw).transaction) s w).2.holds =
        (HitlHoldRepository.registerAndCommit (sessions w.draws)
          (s.runId.getD (uuids.gen w.draws)) (s.tenantId.getD "") (s.conversationId.getD "")
          (s.runId.getD (uuids.gen w.draws)) (some reason) snapshot w.holds).2 := by
  refine ⟨s.hitlReason.getD "unknown",
    ⟨s.steps, s.correlationId.getD "", s.hitlReason.getD "unknown"⟩, ?_⟩
  rw [HitlHoldRepository.registerAndCommit_holds]
  rfl

/-- After its last visit the run has the row of its id as the statements leave it. -/
theorem pendingHold_after_hitl (deps : Deps) (sessions : Nat → HoldSession) (v : GraphVisit) :
    PendingHold (hitlNode deps.uuids (some fun draw => (sessions draw).transaction) v.pre
        v.worldBefore).2.holds (parkedRunId deps v) ↔
      HoldGetsWritten (sessions v.worldBefore.draws) v.pre.tenantId (parkedRunId deps v)
        v.worldBefore.holds := by
  obtain ⟨reason, snapshot, hholds⟩ :=
    hitlNode_holds_eq sessions deps.uuids v.pre v.worldBefore
  rw [hholds, HitlHoldRepository.registerAndCommit_holds]
  unfold PendingHold HoldGetsWritten parkedRunId
  rewrite [HitlHoldRepository.find_register, HoldSession.writes_transaction]
  cases v.worldBefore.holds.find (v.pre.runId.getD (deps.uuids.gen v.worldBefore.draws)) <;>
    exact Iff.rfl

end Run

/-! ## The result -/

/-- A run that reaches the HITL node parks, and it is backed by a pending hold
exactly where that hold was there before or gets written. -/
theorem parksWithHold_iff (deps : Deps) (sessions : Nat → HoldSession) (limit : Nat)
    (s : GraphState) (w : World) (v : GraphVisit)
    (hv : v ∈ ((buildConversationalGraph (withHoldSessions deps sessions)).execute limit
      .eligibility s w).1) (hnode : v.node = .hitl) :
    let run := (buildConversationalGraph (withHoldSessions deps sessions)).execute limit
      .eligibility s w
    Parks s run ∧ (ParksWithHold s w run (parkedRunId deps v) ↔
      HoldGetsWritten (sessions v.worldBefore.draws) s.tenantId (parkedRunId deps v) w.holds) := by
  intro run
  obtain ⟨htenant, hholds, hfailed⟩ := before_hitl hv hnode
  obtain ⟨before, hrun⟩ := execute_of_hitl_visit hv hnode
  have hstate : StateGraph.stateAfter s run.1 = v.pre.merge
      (hitlNode deps.uuids (some fun draw => (sessions draw).transaction) v.pre
        v.worldBefore).1 := by
    rw [show run = _ from hrun, StateGraph.stateAfter_append]
    rfl
  have hworld : StateGraph.worldAfter w run.1 =
      (hitlNode deps.uuids (some fun draw => (sessions draw).transaction) v.pre
        v.worldBefore).2 := by
    rw [show run = _ from hrun, StateGraph.worldAfter_append]
    rfl
  have hparks : Parks s run := by
    refine ⟨?_, ?_, congrArg Prod.snd hrun⟩
    · rw [hstate]
      rfl
    · rw [hstate, GraphState.failed_merge_of_none rfl]
      exact hfailed
  refine ⟨hparks, ?_⟩
  have hiff := pendingHold_after_hitl deps sessions v
  rw [← hworld, htenant, hholds] at hiff
  unfold ParksWithHold
  rw [← hiff]
  exact ⟨fun h => h hparks, fun h _ => h⟩

section Example

/-- The hedging worker on a session that behaves alike at every use. -/
def heldRun (session : HoldSession) : List GraphVisit × Ending :=
  (buildConversationalGraph (withHoldSessions hedgingWorker.deps.deps fun _ => session)).execute 25
    .eligibility (hedgingWorker.startState greeting emptyRuntime)
    (JobConsumerWorker.startWorld emptyRuntime)

theorem heldRun_parksWithHold :
    ∃ v ∈ (heldRun {}).1, v.node = .hitl ∧
      ParksWithHold (hedgingWorker.startState greeting emptyRuntime)
        (JobConsumerWorker.startWorld emptyRuntime) (heldRun {})
        (parkedRunId hedgingWorker.deps.deps v) := by
  have hvisit : ∃ v ∈ (heldRun {}).1, v.node = .hitl ∧
      parkedRunId hedgingWorker.deps.deps v = UuidSupply.unary.gen 1 := by
    decide +kernel
  obtain ⟨v, hv, hnode, hid⟩ := hvisit
  refine ⟨v, hv, hnode, ?_⟩
  have h := parksWithHold_iff hedgingWorker.deps.deps (fun _ => {}) 25
    (hedgingWorker.startState greeting emptyRuntime)
    (JobConsumerWorker.startWorld emptyRuntime) v hv hnode
  refine h.2.2 ?_
  rw [hid]
  have hwrites : (parseUuid greeting.tenantId).isSome = true ∧
      ({} : HoldSession).writes = true := by
    decide +kernel
  exact hwrites

/-- The insert raises, say because the tenant has no row, and the run parks
without a hold. -/
theorem heldRun_without_hold :
    ∃ v ∈ (heldRun { insert := .raises "IntegrityError" false }).1, v.node = .hitl ∧
      ¬ ParksWithHold (hedgingWorker.startState greeting emptyRuntime)
        (JobConsumerWorker.startWorld emptyRuntime)
        (heldRun { insert := .raises "IntegrityError" false })
        (parkedRunId hedgingWorker.deps.deps v) := by
  decide +kernel

end Example

end Iara.Workers
