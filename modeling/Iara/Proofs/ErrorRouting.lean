import Iara.Workers.History

/-!
# Errors of earlier runs

Only the edges read `error`, and no run clears it.  So a run routes by its own
errors exactly if its thread's checkpoint holds none, or if the eligibility edge
does not lead to an edge that reads it.
-/

namespace Iara.Graph

open Iara.Lib

variable {deps : Deps}

theorem merge_setError (s u : GraphState) (e : Option String) :
    GraphState.merge { s with error := e } u = { s.merge u with error := u.error.or e } := rfl

theorem truthyOption_or_congr {a b c : Option String}
    (h : PyStr.truthyOption b = PyStr.truthyOption c) :
    PyStr.truthyOption (a.or b) = PyStr.truthyOption (a.or c) := by
  cases a with
  | none => exact h
  | some x => rfl

theorem route_setError {s : GraphState} {e : Option String} (n : Node)
    (h : PyStr.truthyOption e = PyStr.truthyOption s.error) :
    route n { s with error := e } = route n s := by
  have hfailed : GraphState.failed { s with error := e } = s.failed := h
  cases n with
  | mediaUnderstanding => simp only [route, shouldContinueAfterMedia, hfailed]
  | contextBuilder => simp only [route, shouldContinueAfterContext, hfailed]
  | agent =>
      simp only [route, shouldContinueAfterAgent, hfailed, GraphState.held]
      rfl
  | toolExecutor => simp only [route, shouldContinueAfterTools, hfailed]
  | guardrails =>
      simp only [route, shouldContinueAfterGuardrails, hfailed, GraphState.held]
      rfl
  | commandDispatch => simp only [route, shouldContinueAfterDispatch, hfailed]
  | _ => rfl

/-- Two errors that the edges cannot tell apart lead through the same nodes. -/
theorem nodes_setError {limit : Nat} {n : Node} {s : GraphState} {w : World} {e : Option String}
    (h : PyStr.truthyOption e = PyStr.truthyOption s.error) :
    ((buildConversationalGraph deps).execute limit n { s with error := e } w).1.map Visit.node =
      ((buildConversationalGraph deps).execute limit n s w).1.map Visit.node := by
  induction limit generalizing n s w e with
  | zero => rfl
  | succ limit ih =>
      let g := buildConversationalGraph deps
      have hpost : (g.superstep n { s with error := e } w).post =
          { (g.superstep n s w).post with error := (runNode deps n s w).1.error.or e } := by
        rw [superstep_post, runNode_setError, merge_setError]
        rfl
      have hworld : (g.superstep n { s with error := e } w).worldAfter =
          (g.superstep n s w).worldAfter := by
        rw [superstep_worldAfter, runNode_setError]
        rfl
      have htruthy : PyStr.truthyOption ((runNode deps n s w).1.error.or e) =
          PyStr.truthyOption (g.superstep n s w).post.error := truthyOption_or_congr h
      have hroute : g.route n (g.superstep n { s with error := e } w).post =
          g.route n (g.superstep n s w).post := by
        rw [hpost]
        exact route_setError n htruthy
      cases hnext : g.route n (g.superstep n s w).post with
      | none => rw [g.execute_routingError hnext, g.execute_routingError (hroute.trans hnext)]; rfl
      | some next =>
          cases next with
          | finish => rw [g.execute_finish hnext, g.execute_finish (hroute.trans hnext)]; rfl
          | goto n' =>
              rw [g.execute_goto hnext, g.execute_goto (hroute.trans hnext), hpost, hworld]
              simp only [List.map_cons, StateGraph.node_superstep]
              rw [ih htruthy]

/-! ## From the eligibility node -/

theorem agent_mem_nodes {limit : Nat} {s : GraphState} {w : World}
    (h : AcceptsMessage deps s w) (hfailed : s.failed = false) :
    Node.agent ∈
      ((buildConversationalGraph deps).execute (limit + 4) .eligibility s w).1.map Visit.node := by
  obtain ⟨before, s₃, w₃, hrun, -⟩ := execute_to_agent limit h hfailed
  obtain ⟨rest, hrest, -⟩ := (buildConversationalGraph deps).execute_succ_head limit .agent s₃ w₃
  rw [hrun, hrest]
  simp

/-- Where the message is not accepted, no edge on the way reads the error. -/
theorem nodes_setError_of_not_accepted {limit : Nat} {s : GraphState} {w : World}
    {e : Option String} (h : ¬ AcceptsMessage deps s w) :
    ((buildConversationalGraph deps).execute limit .eligibility
        { s with error := e } w).1.map Visit.node =
      ((buildConversationalGraph deps).execute limit .eligibility s w).1.map Visit.node := by
  let g := buildConversationalGraph deps
  cases limit with
  | zero => rfl
  | succ limit =>
      have hroute : g.route .eligibility (g.superstep .eligibility { s with error := e } w).post =
          g.route .eligibility (g.superstep .eligibility s w).post := rfl
      cases hnext : g.route .eligibility (g.superstep .eligibility s w).post with
      | none => rw [g.execute_routingError hnext, g.execute_routingError (hroute.trans hnext)]; rfl
      | some next =>
          cases next with
          | finish => rw [g.execute_finish hnext, g.execute_finish (hroute.trans hnext)]; rfl
          | goto n' =>
              have hn' := route_eligibility_of_not_accepted h hnext
              subst hn'
              rw [g.execute_goto hnext, g.execute_goto (hroute.trans hnext)]
              cases limit with
              | zero => rfl
              | succ limit => rw [g.execute_finish rfl, g.execute_finish rfl]; rfl

end Iara.Graph

namespace Iara.Workers

open Iara.Lib Iara.Graph

namespace JobConsumerWorker

/-- The runtime without the error that earlier runs left on a thread. -/
def clearError (rt : Runtime) (thread : String) : Runtime :=
  { rt with
    checkpoints := Function.update rt.checkpoints thread
      { rt.checkpoints thread with error := none } }

/-- The run goes the way it would go without the error of earlier runs, and an
accepted message reaches the agent. -/
def RoutesByOwnErrors (worker : JobConsumerWorker) (rt : Runtime) (payload : JobPayload) : Prop :=
  worker.visitedNodes rt payload = worker.visitedNodes (clearError rt payload.threadId) payload ∧
    (worker.Accepts rt payload → Node.agent ∈ worker.visitedNodes rt payload)

variable {worker : JobConsumerWorker} {rt : Runtime}

theorem startState_clearError (payload : JobPayload) :
    worker.startState payload (clearError rt payload.threadId) =
      { worker.startState payload rt with error := none } := by
  simp only [startState, clearError, Function.update_self, merge_setError]
  rfl

theorem routesByOwnErrors_iff (payload : JobPayload) :
    worker.RoutesByOwnErrors rt payload ↔
      ((rt.checkpoints payload.threadId).failed = false ∨ ¬ worker.Accepts rt payload) := by
  obtain ⟨limit, hlimit⟩ : ∃ limit, worker.langGraph.recursionLimit = limit + 4 :=
    Nat.exists_eq_add_of_le' (Nat.le_trans (by decide) worker.langGraph.le_recursionLimit)
  have hcleared : worker.visitedNodes (clearError rt payload.threadId) payload =
      ((buildConversationalGraph worker.deps.deps).execute worker.langGraph.recursionLimit
        .eligibility { worker.startState payload rt with error := none }
        (startWorld rt)).1.map Visit.node := by
    unfold visitedNodes ainvoke
    rw [startState_clearError]
    rfl
  have hstart := failed_startState worker rt payload
  unfold RoutesByOwnErrors
  rw [hcleared]
  constructor
  · rintro ⟨-, hreaches⟩
    by_contra hnot
    push Not at hnot
    obtain ⟨hfailed, haccepts⟩ := hnot
    have hnodes : worker.visitedNodes rt payload = [.eligibility, .mediaUnderstanding] := by
      unfold visitedNodes ainvoke
      rw [hlimit]
      exact nodes_of_failed haccepts (hstart.trans (by simpa using hfailed))
    have hmem := hreaches haccepts
    rw [hnodes] at hmem
    revert hmem
    decide
  · rintro (hfailed | haccepts)
    · constructor
      · refine (nodes_setError ?_).symm
        exact (hstart.trans hfailed).symm
      · intro haccepts
        unfold visitedNodes ainvoke
        rw [hlimit]
        exact agent_mem_nodes haccepts (hstart.trans hfailed)
    · exact ⟨(nodes_setError_of_not_accepted haccepts).symm, fun h => absurd h haccepts⟩

end JobConsumerWorker

open JobConsumerWorker

/-- After every history of deliveries, the run of the next job routes by its own
errors if and only if its thread's checkpoint holds no error, or the job is not
accepted as an ordinary message. -/
theorem routesByOwnErrors_iff_checkpoint_clean (worker : JobConsumerWorker) (start : Runtime)
    (ds : List Delivery) (payload : JobPayload) :
    worker.RoutesByOwnErrors (worker.deliverAll start ds) payload ↔
      (((worker.deliverAll start ds).checkpoints payload.threadId).failed = false ∨
        ¬ worker.Accepts (worker.deliverAll start ds) payload) :=
  routesByOwnErrors_iff payload

/-- Fails on its first call and answers later. -/
def flaky : Llm where
  ainvoke draw _ _ :=
    if draw < 5 then .error "APIConnectionError" else .ok { content := .text "Oi" }

/-- After a job whose model call failed, the next accepted message on the thread
ends after the media node. -/
theorem question_misses_agent :
    (plainWorker flaky).visitedNodes
        ((plainWorker flaky).deliverAll emptyRuntime [{ payload := greeting }]) question =
        [.eligibility, .mediaUnderstanding] ∧
      ¬ (plainWorker flaky).RoutesByOwnErrors
        ((plainWorker flaky).deliverAll emptyRuntime [{ payload := greeting }]) question := by
  have hfailed : (((plainWorker flaky).deliverAll emptyRuntime
      [{ payload := greeting }]).checkpoints question.threadId).failed = true := by
    decide +kernel
  have haccepts : (plainWorker flaky).Accepts
      ((plainWorker flaky).deliverAll emptyRuntime [{ payload := greeting }]) question := by
    unfold Accepts AcceptsMessage
    decide +kernel
  refine ⟨by decide +kernel, ?_⟩
  rw [routesByOwnErrors_iff, hfailed]
  rintro (h | h)
  · cases h
  · exact h haccepts

end Iara.Workers
