import Iara.Workers.History

/-!
# Labels without a path

Six of the conditional edges return keys of their path maps only.  The map of
the dispatch edge lacks `end`, which the edge returns once `error` is set, and
`error` is set there exactly if the node had a reply to enqueue and `enqueue`
raised.
-/

namespace Iara.Graph

open Iara.Lib Iara.Persistence

variable {deps : Deps}

/-! ## The edges -/

theorem eligibilityPaths_isSome (s : GraphState) :
    (eligibilityPaths (shouldContinueAfterEligibility s)).isSome = true := by
  unfold shouldContinueAfterEligibility
  split
  · rfl
  · split <;> rfl

theorem agentPaths_isSome (s : GraphState) :
    (agentPaths (shouldContinueAfterAgent s)).isSome = true := by
  unfold shouldContinueAfterAgent
  split
  · rfl
  · split
    · rfl
    · split <;> rfl

theorem guardrailsPaths_isSome (s : GraphState) :
    (guardrailsPaths (shouldContinueAfterGuardrails s)).isSome = true := by
  unfold shouldContinueAfterGuardrails
  split
  · rfl
  · split <;> rfl

/-- Every edge but the one out of the dispatch node declares what it returns. -/
theorem route_isSome {n : Node} (h : n ≠ .commandDispatch) (s : GraphState) :
    (route n s).isSome = true := by
  cases n with
  | eligibility => exact eligibilityPaths_isSome s
  | agent => exact agentPaths_isSome s
  | guardrails => exact guardrailsPaths_isSome s
  | commandDispatch => exact absurd rfl h
  | mediaUnderstanding =>
      simp only [route, shouldContinueAfterMedia]
      split <;> rfl
  | contextBuilder =>
      simp only [route, shouldContinueAfterContext]
      split <;> rfl
  | toolExecutor =>
      simp only [route, shouldContinueAfterTools]
      split <;> rfl
  | commandAssistant => rfl
  | hitl => rfl
  | memoryWriter => rfl

theorem route_commandDispatch_isSome_iff (s : GraphState) :
    (route .commandDispatch s).isSome = true ↔ s.failed = false := by
  simp only [route, shouldContinueAfterDispatch]
  cases s.failed with
  | true => simp [dispatchPaths]
  | false => simp [dispatchPaths]

/-! ## The dispatch node -/

/-- The state has what a command is built of, and the session of the insert
commits. -/
structure EnqueueSucceeds (service : OutboxService) (s : GraphState) (w : World) : Prop where
  tenant : ∃ tenantId, s.tenantId = some tenantId ∧ (parseUuid tenantId).isSome = true
  conversation : s.conversationId.isSome = true
  correlation : s.correlationId.isSome = true
  session : service.session w.draws = .commits

/-- The node has a reply to enqueue, and enqueueing it raises. -/
def DispatchRaises (deps : Deps) (s : GraphState) (w : World) : Prop :=
  PyStr.truthy (s.response.getD "") = true ∧ s.sent = false ∧
    ∃ service, deps.outboxService = some service ∧ ¬ EnqueueSucceeds service s w

theorem enqueueReply_ok_iff (uuids : UuidSupply) (service : OutboxService) (s : GraphState)
    (content : String) (w : World) :
    (enqueueReply uuids service s content w).1 = .ok () ↔ EnqueueSucceeds service s w := by
  unfold enqueueReply OutboxService.enqueue OutboxService.enqueueCommand
  constructor
  · intro h
    cases htenant : s.tenantId with
    | none => simp [htenant] at h
    | some tenantId =>
        cases hconversation : s.conversationId with
        | none => simp [htenant, hconversation] at h
        | some conversationId =>
            cases hparse : parseUuid tenantId with
            | none => simp [htenant, hconversation, hparse] at h
            | some tenant =>
                cases hcorrelation : s.correlationId with
                | none => simp [htenant, hconversation, hparse, hcorrelation] at h
                | some correlation =>
                    refine ⟨⟨tenantId, htenant, by simp [hparse]⟩, by simp [hconversation],
                      by simp [hcorrelation], ?_⟩
                    cases hsession : service.session w.draws with
                    | commits => rfl
                    | _ => simp [htenant, hconversation, hparse, hcorrelation, hsession] at h
  · rintro ⟨⟨tenantId, htenant, hparse⟩, hconversation, hcorrelation, hsession⟩
    obtain ⟨tenant, hparse⟩ := Option.isSome_iff_exists.1 hparse
    obtain ⟨conversationId, hconversation⟩ := Option.isSome_iff_exists.1 hconversation
    obtain ⟨correlation, hcorrelation⟩ := Option.isSome_iff_exists.1 hcorrelation
    simp [htenant, hconversation, hparse, hcorrelation, hsession]

theorem commandDispatchNode_error_iff (s : GraphState) (w : World) :
    (runNode deps .commandDispatch s w).1.error ≠ none ↔ DispatchRaises deps s w := by
  change (commandDispatchNode deps.uuids deps.outboxService s w).1.error ≠ none ↔ _
  unfold commandDispatchNode DispatchRaises
  simp only
  by_cases hgo : (!PyStr.truthy (s.response.getD "") || s.sent) = true
  · rw [if_pos hgo]
    rw [Bool.or_eq_true, Bool.not_eq_true'] at hgo
    rcases hgo with h | h <;> simp [h]
  · rw [if_neg hgo]
    rw [Bool.or_eq_true, Bool.not_eq_true', not_or, Bool.not_eq_false, Bool.not_eq_true] at hgo
    cases hservice : deps.outboxService with
    | none => simp [dispatchSent]
    | some service =>
        have hok := enqueueReply_ok_iff deps.uuids service s (s.response.getD "") w
        cases henqueue : (enqueueReply deps.uuids service s (s.response.getD "") w).1 with
        | ok result => simp [dispatchSent, henqueue, ← hok]
        | error exception => simp [dispatchFailed, henqueue, ← hok, hgo]

theorem failed_merge_of_some {s u : GraphState} {n : Node} (hu : NodeUpdate s n u)
    (h : u.error ≠ none) : (s.merge u).failed = true := by
  rcases hu.error with hnone | ⟨htruthy, -⟩
  · exact absurd hnone h
  · obtain ⟨e, he⟩ := Option.ne_none_iff_exists'.1 h
    rw [he] at htruthy
    simp only [GraphState.failed, GraphState.merge, he, Option.some_or]
    exact htruthy

/-- A dispatch that starts without an error leaves one exactly if it raises. -/
theorem failed_dispatch_iff {s : GraphState} {w : World} (h : s.failed = false) :
    (s.merge (runNode deps .commandDispatch s w).1).failed = true ↔ DispatchRaises deps s w := by
  rw [← commandDispatchNode_error_iff]
  constructor
  · intro hfailed hnone
    rw [GraphState.failed_merge_of_none hnone, h] at hfailed
    cases hfailed
  · exact failed_merge_of_some (runNode_update deps .commandDispatch s w)

/-! ## Runs -/

/-- Every label of the run has a path, and a run whose dispatch failed ends with
the error. -/
structure RoutingClosed (deps : Deps) (limit : Nat) (s : GraphState) (w : World) : Prop where
  labels : ∀ v ∈ ((buildConversationalGraph deps).execute limit .eligibility s w).1,
    (route v.node v.post).isSome = true
  failedDispatch : ∀ v ∈ ((buildConversationalGraph deps).execute limit .eligibility s w).1,
    v.node = .commandDispatch → v.post.failed = true →
      ((buildConversationalGraph deps).execute limit .eligibility s w).2 = .finished ∧
      (StateGraph.stateAfter s
        ((buildConversationalGraph deps).execute limit .eligibility s w).1).failed = true
  noException : ((buildConversationalGraph deps).execute limit .eligibility s w).2 ≠ .routingError

/-- The dispatch node starts without an error, and every visit is a superstep. -/
theorem pre_of_dispatch {limit : Nat} {s : GraphState} {w : World} {v : GraphVisit}
    (hv : v ∈ ((buildConversationalGraph deps).execute limit .eligibility s w).1) :
    (v.node = .commandDispatch → v.pre.failed = false) ∧
      v = (buildConversationalGraph deps).superstep v.node v.pre v.worldBefore := by
  refine (buildConversationalGraph deps).visits_invariant
    (P := fun n (t : GraphState) _ => n = .commandDispatch → t.failed = false) ?_ ?_ v hv
  · rintro n t w' n' - hroute rfl
    exact (route_to_commandDispatch hroute).2.1
  · intro h
    cases h

theorem failed_post_dispatch_iff {limit : Nat} {s : GraphState} {w : World} {v : GraphVisit}
    (hv : v ∈ ((buildConversationalGraph deps).execute limit .eligibility s w).1)
    (hnode : v.node = .commandDispatch) :
    v.post.failed = true ↔ DispatchRaises deps v.pre v.worldBefore := by
  obtain ⟨hpre, hself⟩ := pre_of_dispatch hv
  rw [← failed_dispatch_iff (hpre hnode)]
  have hpost : v.post =
      v.pre.merge (runNode deps .commandDispatch v.pre v.worldBefore).1 := by
    rw [← hnode]
    exact congrArg Visit.post hself
  rw [hpost]

/-- Where every visit's label has a path, no run ends with a routing exception. -/
theorem ending_ne_routingError {limit : Nat} {n : Node} {s : GraphState} {w : World}
    (h : ∀ v ∈ ((buildConversationalGraph deps).execute limit n s w).1,
      (route v.node v.post).isSome = true) :
    ((buildConversationalGraph deps).execute limit n s w).2 ≠ .routingError := by
  let g := buildConversationalGraph deps
  cases hlast : (g.execute limit n s w).1.getLast? with
  | none =>
      cases limit with
      | zero => simp [StateGraph.execute]
      | succ limit =>
          obtain ⟨rest, hrest, -⟩ := g.execute_succ_head limit n s w
          rw [hrest] at hlast
          simp at hlast
  | some v =>
      intro hend
      have hmem := List.mem_of_getLast? hlast
      rcases g.route_of_last hlast with ⟨-, hroute⟩ | ⟨hfinished, -⟩ | hlimit
      · have hsome := h v hmem
        have hnone : route v.node v.post = none := hroute
        rw [hnone] at hsome
        cases hsome
      · exact absurd (hend.symm.trans hfinished) (by decide)
      · exact absurd (hend.symm.trans hlimit) (by decide)

/-- The routing of a run is closed exactly if none of its dispatches raises. -/
theorem routingClosed_iff (deps : Deps) (limit : Nat) (s : GraphState) (w : World) :
    RoutingClosed deps limit s w ↔
      ∀ v ∈ ((buildConversationalGraph deps).execute limit .eligibility s w).1,
        v.node = .commandDispatch → ¬ DispatchRaises deps v.pre v.worldBefore := by
  constructor
  · intro hclosed v hv hnode hraises
    have hfailed := (failed_post_dispatch_iff hv hnode).2 hraises
    have hlabel := hclosed.labels v hv
    rw [hnode, route_commandDispatch_isSome_iff, hfailed] at hlabel
    cases hlabel
  · intro h
    have hlabels : ∀ v ∈ ((buildConversationalGraph deps).execute limit .eligibility s w).1,
        (route v.node v.post).isSome = true := by
      intro v hv
      by_cases hnode : v.node = .commandDispatch
      · rw [hnode, route_commandDispatch_isSome_iff]
        have hnot := mt (failed_post_dispatch_iff hv hnode).1 (h v hv hnode)
        simpa using hnot
      · exact route_isSome hnode v.post
    refine ⟨hlabels, ?_, ending_ne_routingError hlabels⟩
    intro v hv hnode hfailed
    exact absurd ((failed_post_dispatch_iff hv hnode).1 hfailed) (h v hv hnode)

end Iara.Graph

namespace Iara.Workers

open Iara.Lib Iara.Graph JobConsumerWorker

/-- A worker without tools whose outbox service cannot open a session. -/
def brokenOutbox : ProductionDeps :=
  { (plainWorker parrot).deps with outboxService := { session := fun _ => .fails "OSError" } }

def greeted : GraphState :=
  (plainWorker parrot).startState greeting emptyRuntime

/-- A reply that cannot be enqueued ends the run with a routing exception. -/
theorem broken_outbox_routingError :
    ((buildProductionGraph brokenOutbox).execute 25 .eligibility greeted
        (startWorld emptyRuntime)).2 = .routingError ∧
      ¬ RoutingClosed brokenOutbox.deps 25 greeted (startWorld emptyRuntime) := by
  have hend : ((buildProductionGraph brokenOutbox).execute 25 .eligibility greeted
      (startWorld emptyRuntime)).2 = .routingError := by decide +kernel
  exact ⟨hend, fun h => h.noException hend⟩

end Iara.Workers
