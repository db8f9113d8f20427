import Iara.Workers.History

/-!
# The iteration guard

`step_count` counts the steps of all runs on a thread, because `_handle_job` does
not reset it.  A run reaches the agent after three steps, so it gets to call the
model exactly if three more steps stay below the guard.
-/

namespace Iara.Workers

open Iara.Lib Iara.Graph

namespace JobConsumerWorker

/-- The calls a run makes, in order. -/
def runCalls (worker : JobConsumerWorker) (rt : Runtime) (payload : JobPayload) : List Call :=
  (StateGraph.worldAfter (startWorld rt) (worker.ainvoke payload rt).1).calls.drop
    rt.world.calls.length

/-- The agent calls the model, and does so before its guard trips. -/
def CallsLlmFirst (calls : List Call) : Prop :=
  ∃ before after, calls = before ++ .agentLlm :: after ∧ Call.maxIterations ∉ before

theorem callsLlmFirst_cons {c : Call} {rest : List Call} (hc : c = .agentLlm ∨ c = .maxIterations) :
    CallsLlmFirst (c :: rest) ↔ c = .agentLlm := by
  constructor
  · rintro ⟨before, after, hcalls, hguard⟩
    cases before with
    | nil => exact (List.cons.inj hcalls).1
    | cons b before =>
        rcases hc with hc | hc
        · exact hc
        · have hb : b = .maxIterations := by
            rw [← (List.cons.inj hcalls).1, hc]
          exact absurd (hb ▸ List.mem_cons_self) hguard
  · rintro rfl
    exact ⟨[], rest, rfl, by simp⟩

variable {worker : JobConsumerWorker} {rt : Runtime} {payload : JobPayload}

/-- A run that reaches the agent is one of an accepted message without an error. -/
theorem accepts_of_agent_mem (h : Node.agent ∈ worker.visitedNodes rt payload) :
    worker.Accepts rt payload ∧ (worker.startState payload rt).failed = false := by
  have haccepts : worker.Accepts rt payload := by
    by_contra hnot
    obtain ⟨v, hv, hnode⟩ := List.mem_map.1 h
    rcases nodes_of_not_accepted hnot v hv with hn | hn
    · rw [hn] at hnode
      cases hnode
    · rw [hn] at hnode
      cases hnode
  refine ⟨haccepts, ?_⟩
  by_contra hfailed
  obtain ⟨limit, hlimit⟩ : ∃ limit, worker.langGraph.recursionLimit = limit + 2 :=
    Nat.exists_eq_add_of_le' (Nat.le_trans (by decide) worker.langGraph.le_recursionLimit)
  have hnodes : worker.visitedNodes rt payload = [.eligibility, .mediaUnderstanding] := by
    unfold visitedNodes ainvoke
    rw [hlimit]
    exact nodes_of_failed haccepts (by simpa using hfailed)
  rw [hnodes] at h
  revert h
  decide

/-- The first call of a run that reaches the agent. -/
theorem runCalls_eq (h : Node.agent ∈ worker.visitedNodes rt payload) :
    ∃ rest, worker.runCalls rt payload =
      (if maxToolIterations * 2 ≤ (rt.checkpoints payload.threadId).steps + 3
        then .maxIterations else .agentLlm) :: rest := by
  obtain ⟨haccepts, hfailed⟩ := accepts_of_agent_mem h
  obtain ⟨limit, hlimit⟩ : ∃ limit, worker.langGraph.recursionLimit = limit + 4 :=
    Nat.exists_eq_add_of_le' (Nat.le_trans (by decide) worker.langGraph.le_recursionLimit)
  obtain ⟨before, s₃, w₃, hrun, hsteps, hcalls, hworld⟩ :=
    execute_to_agent limit haccepts hfailed
  let g := buildConversationalGraph worker.deps.deps
  obtain ⟨tail, htail, hfrom⟩ := g.execute_succ_head limit .agent s₃ w₃
  have hagent : (g.superstep .agent s₃ w₃).worldAfter.calls = w₃.calls ++
      [if maxToolIterations * 2 ≤ s₃.steps then .maxIterations else .agentLlm] :=
    agentNode_calls worker.deps.llm
  obtain ⟨more, hmore⟩ : ∃ more, (StateGraph.worldAfter (g.superstep .agent s₃ w₃).worldAfter
      tail).calls = (g.superstep .agent s₃ w₃).worldAfter.calls ++ more := by
    rcases hfrom with rfl | ⟨n', rfl⟩
    · exact ⟨[], (List.append_nil _).symm⟩
    · exact (run_effect _ _ _ _).calls
  refine ⟨more, ?_⟩
  unfold runCalls ainvoke buildProductionGraph
  rw [hlimit, hrun, StateGraph.worldAfter_append, hworld, htail, StateGraph.worldAfter_cons, hmore,
    hagent, hcalls, hsteps, steps_startState, List.append_assoc]
  exact List.drop_left

end JobConsumerWorker

open JobConsumerWorker

/-- After every history of deliveries, a run that reaches the agent calls the
model ahead of the guard if and only if the checkpointed step count of its thread
leaves room for the three steps to the agent. -/
theorem callsLlmFirst_iff_checkpoint_steps (worker : JobConsumerWorker) (start : Runtime)
    (ds : List Delivery) (payload : JobPayload)
    (h : Node.agent ∈ worker.visitedNodes (worker.deliverAll start ds) payload) :
    CallsLlmFirst (worker.runCalls (worker.deliverAll start ds) payload) ↔
      ((worker.deliverAll start ds).checkpoints payload.threadId).steps + 3 <
        maxToolIterations * 2 := by
  obtain ⟨rest, hcalls⟩ := runCalls_eq h
  rw [hcalls]
  by_cases hguard : maxToolIterations * 2 ≤
      ((worker.deliverAll start ds).checkpoints payload.threadId).steps + 3
  · rw [if_pos hguard, callsLlmFirst_cons (Or.inr rfl)]
    constructor
    · intro hcall
      cases hcall
    · intro hroom
      omega
  · rw [if_neg hguard, callsLlmFirst_cons (Or.inl rfl)]
    constructor
    · intro _
      omega
    · intro _
      rfl

/-- The first job of an empty runtime. -/
theorem greeting_callsLlmFirst :
    CallsLlmFirst ((plainWorker parrot).runCalls emptyRuntime greeting) :=
  (callsLlmFirst_iff_checkpoint_steps (plainWorker parrot) emptyRuntime [] greeting
    (by decide +kernel)).2 (by decide +kernel)

/-- The second job on the thread reaches the agent and gets the apology without
a call. -/
theorem question_trips_guard :
    Node.agent ∈ (plainWorker parrot).visitedNodes
        ((plainWorker parrot).deliverAll emptyRuntime [{ payload := greeting }]) question ∧
      ¬ CallsLlmFirst ((plainWorker parrot).runCalls
        ((plainWorker parrot).deliverAll emptyRuntime [{ payload := greeting }]) question) := by
  have hreaches : Node.agent ∈ (plainWorker parrot).visitedNodes
      ((plainWorker parrot).deliverAll emptyRuntime [{ payload := greeting }]) question := by
    decide +kernel
  have hguard : maxToolIterations * 2 ≤ (((plainWorker parrot).deliverAll emptyRuntime
      [{ payload := greeting }]).checkpoints question.threadId).steps + 3 := by
    decide +kernel
  refine ⟨hreaches, ?_⟩
  obtain ⟨rest, hcalls⟩ := runCalls_eq hreaches
  rw [hcalls, if_pos hguard, callsLlmFirst_cons (Or.inr rfl)]
  intro hcall
  cases hcall

end Iara.Workers
