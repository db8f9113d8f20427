import Iara.Graph.Runs

/-!
# The agent loop

The edges of the graph, the ways the agent node can end, and a budget of visits
for the nodes of the loop.  The agent asks for tools only below its guard, and
every turn of the loop takes two steps towards it.
-/

namespace Iara.Graph

open Iara.Lib Iara.Persistence

variable {deps : Deps} {s u : GraphState} {w : World} {n n' : Node}

/-! ## Edges -/

inductive GraphEdge : Node → Node → Prop
  | admin : GraphEdge .eligibility .commandAssistant
  | message : GraphEdge .eligibility .mediaUnderstanding
  | media : GraphEdge .mediaUnderstanding .contextBuilder
  | context : GraphEdge .contextBuilder .agent
  | request : GraphEdge .agent .toolExecutor
  | answer : GraphEdge .agent .guardrails
  | results : GraphEdge .toolExecutor .agent
  | hold : GraphEdge .guardrails .hitl
  | dispatch : GraphEdge .guardrails .commandDispatch
  | memory : GraphEdge .commandDispatch .memoryWriter

theorem edge_of_route (h : route n s = some (.goto n')) : GraphEdge n n' := by
  have heligibility : ∀ l, eligibilityPaths l = some (.goto n') → GraphEdge .eligibility n' := by
    intro l hl
    cases l <;> cases hl <;> constructor
  have hmedia : ∀ l, mediaPaths l = some (.goto n') → GraphEdge .mediaUnderstanding n' := by
    intro l hl
    cases l <;> cases hl
    constructor
  have hcontext : ∀ l, contextPaths l = some (.goto n') → GraphEdge .contextBuilder n' := by
    intro l hl
    cases l <;> cases hl
    constructor
  have hagent : ∀ l, agentPaths l = some (.goto n') → GraphEdge .agent n' := by
    intro l hl
    cases l <;> cases hl <;> constructor
  have htools : ∀ l, toolPaths l = some (.goto n') → GraphEdge .toolExecutor n' := by
    intro l hl
    cases l <;> cases hl
    constructor
  have hguardrails : ∀ l, guardrailsPaths l = some (.goto n') → GraphEdge .guardrails n' := by
    intro l hl
    cases l <;> cases hl <;> constructor
  cases n with
  | eligibility => exact heligibility _ h
  | mediaUnderstanding => exact hmedia _ h
  | contextBuilder => exact hcontext _ h
  | agent => exact hagent _ h
  | toolExecutor => exact htools _ h
  | guardrails => exact hguardrails _ h
  | commandDispatch =>
      obtain rfl := route_commandDispatch h
      exact .memory
  | commandAssistant => cases h
  | hitl => cases h
  | memoryWriter => cases h

/-! ## The agent -/

/-- The tool calls that the model asks for in a visit of the agent. -/
def requestedCalls (llm : Option Llm) (s : GraphState) (w : World) : List LlmToolCall :=
  match llm with
  | none => []
  | some llm =>
      if maxToolIterations * 2 ≤ s.steps then []
      else
        match llm.ainvoke w.draws (s.metadataOrEmpty.lcToolDefinitions.getD []) (llmInput s) with
        | .error _ => []
        | .ok response => response.toolCalls

def pendingOf (calls : List LlmToolCall) : List PendingToolCall :=
  calls.map fun tc => { callId := tc.id, toolName := tc.name, arguments := tc.args }

/-- What the agent node returns: without a request it leaves nothing pending, or
raises. -/
inductive AgentOutcome (llm : Option Llm) (s : GraphState) (w : World) : GraphState → Prop
  | text (hnone : requestedCalls llm s w = []) (text) : AgentOutcome llm s w
      { agentResponse := some (some text)
        toolCallsPending := some []
        stepCount := some (s.steps + 1) }
  | failed (hnone : requestedCalls llm s w = []) (exception) : AgentOutcome llm s w
      { error := some ("Agent execution failed: " ++ exception)
        stepCount := some (s.steps + 1) }
  | requested (hcalls : requestedCalls llm s w ≠ []) (text content) : AgentOutcome llm s w
      { agentResponse := some text
        toolCallsPending := some (pendingOf (requestedCalls llm s w))
        messages := some [.assistant content (requestedCalls llm s w)]
        stepCount := some (s.steps + 1) }
  | answered (hnone : requestedCalls llm s w = []) (text appended)
      (happended : ∀ m ∈ appended, ∃ content, m = Message.assistant content []) :
      AgentOutcome llm s w
      { agentResponse := some text
        toolCallsPending := some []
        messages := some appended
        stepCount := some (s.steps + 1) }

theorem agentNode_outcome (llm : Option Llm) (s : GraphState) (w : World) :
    AgentOutcome llm s w (agentNode llm s w).1 := by
  unfold agentNode
  cases llm with
  | none => exact .text rfl _
  | some llm =>
      simp only
      split
      next hguard =>
        have hnone : requestedCalls (some llm) s w = [] := if_pos hguard
        exact .text hnone _
      next hroom =>
        cases hanswer : llm.ainvoke w.draws (s.metadataOrEmpty.lcToolDefinitions.getD [])
            (llmInput s) with
        | error exception =>
            have hnone : requestedCalls (some llm) s w = [] := by
              simp [requestedCalls, hanswer]
            exact .failed hnone exception
        | ok response =>
            have hrequested : requestedCalls (some llm) s w = response.toolCalls := by
              simp [requestedCalls, hroom, hanswer]
            by_cases hcalls : response.toolCalls = []
            · have hnone := hrequested.trans hcalls
              cases htext : extractText response.content with
              | none =>
                  have hanswered := AgentOutcome.answered hnone none [] (by simp)
                  simpa [hcalls, htext] using hanswered
              | some t =>
                  have hanswered := AgentOutcome.answered hnone (some t) [.assistant t []]
                    fun m hm => ⟨t, List.mem_singleton.mp hm⟩
                  simpa [hcalls, htext] using hanswered
            · have hsome : requestedCalls (some llm) s w ≠ [] := by
                rw [hrequested]
                exact hcalls
              have houtcome := AgentOutcome.requested hsome (extractText response.content)
                ((extractText response.content).getD "")
              simpa [hrequested, hcalls, pendingOf] using houtcome

theorem room_of_requested {llm : Option Llm} (h : requestedCalls llm s w ≠ []) :
    s.steps < maxToolIterations * 2 := by
  by_contra hguard
  refine h ?_
  unfold requestedCalls
  cases llm with
  | none => rfl
  | some llm => exact if_pos (Nat.le_of_not_lt hguard)

/-- The agent is left for the tools only after a request. -/
theorem requested_of_route
    (h : route .agent (s.merge (runNode deps .agent s w).1) = some (.goto .toolExecutor)) :
    requestedCalls deps.llm s w ≠ [] := by
  simp only [route, shouldContinueAfterAgent] at h
  split at h
  · cases h
  next hfailed =>
    split at h
    · cases h
    · split at h
      next hpending =>
        have houtcome := agentNode_outcome deps.llm s w
        unfold runNode at hfailed hpending
        generalize (agentNode deps.llm s w).1 = u at houtcome hfailed hpending
        cases houtcome with
        | text hnone text => exact absurd rfl hpending
        | failed hnone exception =>
            exact absurd (by simp [GraphState.failed, GraphState.merge, PyStr.truthyOption,
              PyStr.truthy]) hfailed
        | requested hcalls text content => exact hcalls
        | answered hnone text appended happended => exact absurd rfl hpending
      next => cases h

/-! ## Budgets -/

/-- The turns that the agent still has for the model, at a step count. -/
def turnsLeft (steps : Nat) : Nat := (maxToolIterations * 2 + 1 - steps) / 2

/-- A budget by node and step count: every edge takes one step, and the edge to
the tools is there only below the guard. -/
theorem budget_of_steps (cost Φ : Node → Nat → Nat) (hpays : ∀ n k, cost n k ≤ Φ n k)
    (hcarries : ∀ n n' k, GraphEdge n n' →
      (n' = .toolExecutor → k < maxToolIterations * 2) → cost n k + Φ n' (k + 1) ≤ Φ n k) :
    (buildConversationalGraph deps).Budget (fun v => cost v.node v.pre.steps)
      (fun n s => Φ n s.steps) where
  pays n s _ := hpays n s.steps
  carries n s w n' hroute := by
    have hedge := edge_of_route hroute
    have hroom : n' = .toolExecutor → s.steps < maxToolIterations * 2 := by
      rintro rfl
      cases hedge
      exact room_of_requested (requested_of_route hroute)
    rw [superstep_post, steps_post]
    exact hcarries n n' s.steps hedge hroom

/-- How many visits are left from a node on. -/
def visitsLeft : Node → Nat → Nat
  | .eligibility, k => 2 * turnsLeft (k + 3) + 7
  | .mediaUnderstanding, k => 2 * turnsLeft (k + 2) + 6
  | .contextBuilder, k => 2 * turnsLeft (k + 1) + 5
  | .agent, k => 2 * turnsLeft k + 4
  | .toolExecutor, k => 2 * turnsLeft (k + 1) + 5
  | .guardrails, _ => 3
  | .commandDispatch, _ => 2
  | _, _ => 1

theorem visits_budget : (buildConversationalGraph deps).Budget (fun _ => 1)
    (fun n s => visitsLeft n s.steps) := by
  refine budget_of_steps (fun _ _ => 1) visitsLeft (fun n k => ?_) fun n n' k hedge hroom => ?_
  · cases n <;> simp only [visitsLeft] <;> omega
  · cases hedge
    case request =>
      have hroom := hroom rfl
      simp only [visitsLeft, turnsLeft, maxToolIterations] at *
      omega
    all_goals
      simp only [visitsLeft, turnsLeft]
      omega

/-- A run of the graph ends after at most fifteen visits, whatever the step count
it starts from. -/
theorem run_terminates {limit : Nat} (hlimit : 15 < limit) :
    ((buildConversationalGraph deps).execute limit .eligibility s w).2 ≠ .recursionLimit := by
  refine visits_budget.terminates (Nat.lt_of_le_of_lt ?_ hlimit)
  simp only [visitsLeft, turnsLeft, maxToolIterations]
  omega

end Iara.Graph
