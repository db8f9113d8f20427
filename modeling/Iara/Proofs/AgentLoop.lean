import Iara.Graph.Loop
import Iara.Workers.History

/-!
# The agent loop ends

Every run takes finitely many steps, from any step count.  From a fresh state
three steps lead to the agent, and its guard leaves it four turns with the
model.
-/

namespace Iara.Graph

open Iara.Lib Iara.Persistence

variable {deps : Deps} {s : GraphState} {w : World}

/-- The turns that are left, a cost of the tools in each, and one of the last visit
of the agent. -/
def loopBudget (tools last : Nat) : Node → Nat → Nat
  | .eligibility, k => turnsLeft (k + 3) + last
  | .mediaUnderstanding, k => turnsLeft (k + 2) + last
  | .contextBuilder, k => turnsLeft (k + 1) + last
  | .agent, k => turnsLeft k + last
  | .toolExecutor, k => tools + turnsLeft (k + 1) + last
  | _, _ => 0

theorem agent_budget : (buildConversationalGraph deps).Budget (StateGraph.visitTo .agent)
    (fun n s => loopBudget 0 1 n s.steps) := by
  refine budget_of_steps (fun n _ => if n = .agent then 1 else 0) (loopBudget 0 1)
    (fun n k => ?_) fun n n' k hedge hroom => ?_
  · cases n <;> simp [loopBudget]
  · cases hedge
    case request =>
      have hroom := hroom rfl
      simp only [loopBudget, turnsLeft, maxToolIterations, if_true] at *
      omega
    all_goals simp [loopBudget, turnsLeft]

theorem tools_budget : (buildConversationalGraph deps).Budget (StateGraph.visitTo .toolExecutor)
    (fun n s => loopBudget 1 0 n s.steps) := by
  refine budget_of_steps (fun n _ => if n = .toolExecutor then 1 else 0) (loopBudget 1 0)
    (fun n k => ?_) fun n n' k hedge hroom => ?_
  · cases n <;> simp [loopBudget]
  · cases hedge
    case request =>
      have hroom := hroom rfl
      simp [loopBudget, turnsLeft, maxToolIterations] at *
      omega
    all_goals simp [loopBudget, turnsLeft]

/-! ## Calls of the model -/

/-- The agent calls the model below its guard. -/
def modelTurn : Node → Nat → Nat
  | .agent, k => if k < maxToolIterations * 2 then 1 else 0
  | _, _ => 0

def modelCost (v : GraphVisit) : Nat := modelTurn v.node v.pre.steps

theorem modelTurn_request {k : Nat} (h : k < maxToolIterations * 2) :
    modelTurn .agent k + turnsLeft (k + 2) = turnsLeft k := by
  have hturn : modelTurn .agent k = 1 := if_pos h
  unfold turnsLeft maxToolIterations at *
  omega

theorem modelTurn_le (k : Nat) : modelTurn .agent k ≤ turnsLeft k := by
  by_cases h : k < maxToolIterations * 2
  · rw [← modelTurn_request h]
    exact Nat.le_add_right _ _
  · have hturn : modelTurn .agent k = 0 := if_neg h
    rw [hturn]
    exact Nat.zero_le _

theorem model_budget : (buildConversationalGraph deps).Budget modelCost
    (fun n s => loopBudget 0 0 n s.steps) := by
  refine budget_of_steps modelTurn (loopBudget 0 0) (fun n k => ?_) fun n n' k hedge hroom => ?_
  · cases n with
    | agent => exact modelTurn_le k
    | _ => exact Nat.zero_le _
  · cases hedge with
    | request => simpa [loopBudget] using Nat.le_of_eq (modelTurn_request (hroom rfl))
    | answer => exact modelTurn_le k
    | _ => simp [loopBudget, modelTurn]

/-- How often the agent has called the model. -/
def modelCalls (w : World) : Nat := w.calls.count .agentLlm

theorem modelCalls_storeFacts (store : PostgresMemoryStore) (conversationId : String) (i : Nat)
    (facts : List String) (w : World) :
    modelCalls (storeFacts store conversationId i facts w) = modelCalls w := by
  induction facts generalizing i w with
  | nil => rfl
  | cons fact rest ih =>
      have hlog : modelCalls (w.draw.log (.memoryStore (conversationId ++ ":fact_" ++ toString i)
          fact)) = modelCalls w := by
        simp [modelCalls]
      unfold storeFacts
      simp only
      split
      · exact (ih _ _).trans hlog
      · exact hlog

theorem modelCalls_memoryWriter (text : PyText) (store : Option PostgresMemoryStore)
    (llm : Option Llm) (s : GraphState) (w : World) :
    modelCalls (memoryWriterNode text store llm s w).2 = modelCalls w := by
  unfold memoryWriterNode
  simp only
  split
  · split
    · rfl
    · split
      · simp [modelCalls]
      · rw [modelCalls_storeFacts]
        simp [modelCalls]
  · rfl

theorem modelCalls_superstep (n : Node) (s : GraphState) (w : World) :
    modelCalls ((buildConversationalGraph deps).superstep n s w).worldAfter ≤
      modelCalls w + modelCost ((buildConversationalGraph deps).superstep n s w) := by
  rw [superstep_worldAfter]
  by_cases hagent : n = .agent
  · subst hagent
    unfold runNode
    cases hllm : deps.llm with
    | none => exact Nat.le_add_right _ _
    | some llm =>
        unfold modelCalls
        rw [agentNode_calls, List.count_append]
        by_cases hguard : maxToolIterations * 2 ≤ s.steps
        · simp [if_pos hguard]
        · have hcost : modelCost ((buildConversationalGraph deps).superstep .agent s w) = 1 :=
            if_pos (Nat.lt_of_not_le hguard)
          simp [if_neg hguard, hcost]
  · by_cases hwriter : n = .memoryWriter
    · subst hwriter
      unfold runNode
      rw [modelCalls_memoryWriter]
      exact Nat.le_add_right _ _
    · unfold modelCalls
      rw [runNode_calls hagent hwriter]
      exact Nat.le_add_right _ _

/-- From every state a run ends of itself, the same under every larger limit of
steps; from a fresh state the agent runs at most five times, calls the model at
most four times and gets tools executed at most four times. -/
theorem agent_loop_ends (deps : Deps) (s : GraphState) (w : World) :
    (∀ limit, 16 ≤ limit →
      ((buildConversationalGraph deps).execute limit .eligibility s w).2 ≠ .recursionLimit ∧
        (buildConversationalGraph deps).execute limit .eligibility s w =
          (buildConversationalGraph deps).execute 16 .eligibility s w) ∧
    (s.steps = 0 → ∀ limit,
      let run := ((buildConversationalGraph deps).execute limit .eligibility s w).1
      (run.map Visit.node).count .agent ≤ 5 ∧
        modelCalls (StateGraph.worldAfter w run) ≤ modelCalls w + 4 ∧
        (run.map Visit.node).count .toolExecutor ≤ 4) := by
  have hends : ∀ limit, 16 ≤ limit →
      ((buildConversationalGraph deps).execute limit .eligibility s w).2 ≠ .recursionLimit :=
    fun limit hlimit => run_terminates hlimit
  refine ⟨fun limit hlimit => ⟨hends limit hlimit, ?_⟩, fun hfresh limit => ⟨?_, ?_, ?_⟩⟩
  · exact (buildConversationalGraph deps).execute_of_le (hends 16 (Nat.le_refl _)) hlimit
  · rw [StateGraph.count_eq_sum_visitTo]
    have hsum := (agent_budget : (buildConversationalGraph deps).Budget _ _).sum_le limit
      .eligibility s w
    rw [hfresh] at hsum
    exact hsum
  · have hspent : modelCalls (StateGraph.worldAfter w
        ((buildConversationalGraph deps).execute limit .eligibility s w).1) ≤ modelCalls w +
          (((buildConversationalGraph deps).execute limit .eligibility s w).1.map modelCost).sum :=
      StateGraph.spent_le_sum modelCalls_superstep limit .eligibility s w
    have hsum := (model_budget : (buildConversationalGraph deps).Budget _ _).sum_le limit
      .eligibility s w
    rw [hfresh] at hsum
    exact Nat.le_trans hspent (Nat.add_le_add_left hsum _)
  · rw [StateGraph.count_eq_sum_visitTo]
    have hsum := (tools_budget : (buildConversationalGraph deps).Budget _ _).sum_le limit
      .eligibility s w
    rw [hfresh] at hsum
    exact hsum

section Example

open Iara.Workers

/-- Asks for a tool at every turn. -/
def insatiable : Llm where
  ainvoke _ _ _ :=
    .ok { content := .text "", toolCalls := [{ id := some "call", name := "search", args := [] }] }

def insatiableDeps : Deps := (plainWorker insatiable).deps.deps

def firstMessage : GraphState := greeting.initialState "correlation" "run"

/-- The bounds are met by a model that never stops asking. -/
theorem insatiable_loop_ends :
    ((buildConversationalGraph insatiableDeps).execute 25 .eligibility firstMessage {}).2 ≠
        .recursionLimit ∧
      (((buildConversationalGraph insatiableDeps).execute 25 .eligibility firstMessage {}).1.map
        Visit.node).count .agent = 5 ∧
      (((buildConversationalGraph insatiableDeps).execute 25 .eligibility firstMessage {}).1.map
        Visit.node).count .toolExecutor ≤ 4 :=
  ⟨((agent_loop_ends insatiableDeps firstMessage {}).1 25 (by decide)).1, by decide +kernel,
    ((agent_loop_ends insatiableDeps firstMessage {}).2 (by decide +kernel) 25).2.2⟩

end Example

end Iara.Graph
