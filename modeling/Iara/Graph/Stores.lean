import Iara.Graph.Frame
import Iara.Tools.GatewayEffects

/-!
# Which node writes which store

The follow-up queue belongs to the tool executor, the table of holds to the HITL
node, and a tool turn is the execution of one pending call.
-/

namespace Iara.Graph

open Iara.Lib Iara.Persistence Iara.Tools

variable {s : GraphState} {w w' : World} {n : Node}

structure NodeStores (n : Node) (w w' : World) : Prop where
  followUps : n ≠ .toolExecutor → w'.followUps = w.followUps
  holds : n ≠ .hitl → w'.holds = w.holds

namespace NodeStores

theorem of_eq (hfollowUps : w'.followUps = w.followUps) (hholds : w'.holds = w.holds) :
    NodeStores n w w' :=
  ⟨fun _ => hfollowUps, fun _ => hholds⟩

theorem refl : NodeStores n w w := of_eq rfl rfl

theorem trans {w₁ w₂ w₃ : World} (h₁ : NodeStores n w₁ w₂) (h₂ : NodeStores n w₂ w₃) :
    NodeStores n w₁ w₃ :=
  ⟨fun hn => (h₂.followUps hn).trans (h₁.followUps hn),
    fun hn => (h₂.holds hn).trans (h₁.holds hn)⟩

theorem of_draw : NodeStores n w w.draw := of_eq rfl rfl

theorem of_log (c : Call) : NodeStores n w (w.draw.log c) := of_eq rfl rfl

end NodeStores

theorem executeToolCall_stores (uuids : UuidSupply) (gateway : AgentToolMcpGateway)
    (tc : PendingToolCall) :
    NodeStores .toolExecutor w (executeToolCall uuids gateway s tc w).2 := by
  refine ⟨fun h => absurd rfl h, fun _ => ?_⟩
  unfold executeToolCall
  split
  · rfl
  · simp only
    split <;> rfl

theorem executeToolCalls_stores (uuids : UuidSupply) (gateway : AgentToolMcpGateway)
    (pending : List PendingToolCall) :
    NodeStores .toolExecutor w (executeToolCalls uuids gateway s pending w).2 := by
  induction pending generalizing w with
  | nil => exact .refl
  | cons tc rest ih => exact (executeToolCall_stores uuids gateway tc).trans ih

theorem storeFacts_stores (store : PostgresMemoryStore) (conversationId : String) (i : Nat)
    (facts : List String) : NodeStores n w (storeFacts store conversationId i facts w) := by
  induction facts generalizing i w with
  | nil => exact .refl
  | cons fact rest ih =>
      unfold storeFacts
      simp only
      split
      · exact (NodeStores.of_log _).trans (ih _)
      · exact .of_log _

theorem enqueueReply_stores (uuids : UuidSupply) (service : OutboxService) (content : String) :
    NodeStores n w (enqueueReply uuids service s content w).2 := by
  unfold enqueueReply
  split <;> exact .of_eq rfl rfl

theorem runNode_stores (deps : Deps) (n : Node) (s : GraphState) (w : World) :
    NodeStores n w (runNode deps n s w).2 := by
  cases n with
  | eligibility => exact .refl
  | commandAssistant => exact .refl
  | mediaUnderstanding =>
      unfold runNode mediaUnderstandingNode
      cases deps.mediaSubgraph with
      | none => exact .refl
      | some subgraph =>
          simp only
          split
          · exact .refl
          · exact .of_draw
  | contextBuilder => exact .of_draw
  | agent =>
      unfold runNode agentNode
      cases deps.llm with
      | none => exact .refl
      | some llm =>
          simp only
          split
          · exact .of_eq rfl rfl
          · split <;> exact .of_log _
  | toolExecutor =>
      unfold runNode toolExecutorNode
      simp only
      split
      · exact .refl
      · cases deps.gateway with
        | none => exact .refl
        | some gateway => exact executeToolCalls_stores _ _ _
  | guardrails =>
      unfold runNode guardrailsNode
      simp only
      repeat' split
      all_goals exact .refl
  | hitl =>
      refine ⟨fun _ => ?_, fun h => absurd rfl h⟩
      unfold runNode hitlNode
      cases deps.sessionFactory <;> rfl
  | commandDispatch =>
      unfold runNode commandDispatchNode
      simp only
      split
      · exact .refl
      · cases deps.outboxService with
        | none => exact .refl
        | some service =>
            simp only
            split <;> exact enqueueReply_stores _ _ _
  | memoryWriter =>
      unfold runNode memoryWriterNode
      simp only
      split
      · split
        · exact .refl
        · split
          · exact .of_log _
          · exact (NodeStores.of_log _).trans (storeFacts_stores _ _ _ _)
      · exact .refl

/-! ## Tool turns -/

/-- One pending call, in the state of the node and the world it is executed in. -/
structure ToolTurn where
  state : GraphState
  call : PendingToolCall
  world : World

namespace ToolTurn

variable (uuids : UuidSupply) (gateway : AgentToolMcpGateway) (turn : ToolTurn)

def execute : ToolResult × World :=
  executeToolCall uuids gateway turn.state turn.call turn.world

def request : Except String ToolInvocationRequest :=
  toolRequest uuids turn.state turn.call turn.world.draws

/-- What the call has the executor enqueue. -/
def effect (request : ToolInvocationRequest) : Option ToolEffect :=
  gateway.effect turn.world.draw.draws request

end ToolTurn

/-- The turns of the loop over the pending calls. -/
def toolTurns (uuids : UuidSupply) (gateway : AgentToolMcpGateway) (state : GraphState) :
    List PendingToolCall → World → List ToolTurn
  | [], _ => []
  | tc :: rest, world =>
      let turn : ToolTurn := ⟨state, tc, world⟩
      turn :: toolTurns uuids gateway state rest (turn.execute uuids gateway).2

/-- What every turn preserves the loop preserves. -/
theorem executeToolCalls_induction {P : World → Prop} (uuids : UuidSupply)
    (gateway : AgentToolMcpGateway) (state : GraphState) (pending : List PendingToolCall)
    {world : World} (hstart : P world)
    (hstep : ∀ tc w, P w → P (executeToolCall uuids gateway state tc w).2) :
    P (executeToolCalls uuids gateway state pending world).2 := by
  induction pending generalizing world with
  | nil => exact hstart
  | cons tc rest ih => exact ih (hstep tc world hstart)

/-- The turns of a visit of the tool executor. -/
def visitTurns (uuids : UuidSupply) (gateway : AgentToolMcpGateway)
    (v : Visit Node GraphState World) : List ToolTurn :=
  if v.node = .toolExecutor then
    toolTurns uuids gateway v.pre (v.pre.toolCallsPending.getD []) v.worldBefore
  else []

end Iara.Graph
