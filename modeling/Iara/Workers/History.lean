import Iara.Graph.Runs
import Iara.Workers.JobConsumer

/-!
# Histories of deliveries

What one delivery can do to the world and to the checkpoint of its thread, and
what follows for histories.
-/

namespace Iara.Workers

open Iara.Lib Iara.Persistence Iara.Graph

/-- No row of the outbox is a reply of a run whose id is yet to be drawn. -/
def FreshReplies (uuids : UuidSupply) (w : World) : Prop :=
  ∀ i, w.draws ≤ i → ∀ r ∈ w.outbox.rows, r.idempotencyKey ≠ responseKey (some (uuids.gen i))

theorem freshReplies_of_empty (uuids : UuidSupply) {w : World} (h : w.outbox.rows = []) :
    FreshReplies uuids w := by
  intro i _ r hr
  simp [h] at hr

/-- The key of a tool call is never the key of a reply. -/
theorem responseKey_ne_of_isToolRow {uuids : UuidSupply} {i : Nat} {runId : Option String}
    {r : OutboxRow} (h : IsToolRow (some (uuids.gen i)) r) :
    r.idempotencyKey ≠ responseKey runId := by
  obtain ⟨callId, hkey⟩ := h
  rw [hkey]
  have hne := uuids.gen_append_colon_ne i "response" callId (runId.getD "None") (by decide)
  simpa [responseKey, String.append_assoc] using hne

theorem responseKey_injective {uuids : UuidSupply} {i j : Nat}
    (h : responseKey (some (uuids.gen i)) = responseKey (some (uuids.gen j))) : i = j := by
  have hlist := congrArg String.toList h
  simp only [responseKey, Option.getD_some, String.toList_append] at hlist
  exact uuids.gen_injective (String.toList_injective (List.append_cancel_left hlist))

theorem FreshReplies.of_effect {uuids : UuidSupply} {d : Nat} {w w' : World}
    (h : FreshReplies uuids w) (hd : d < w.draws)
    (heffect : RunEffect (some (uuids.gen d)) w w') : FreshReplies uuids w' := by
  intro i hi r hr hkey
  obtain ⟨rows, hrows, hof⟩ := heffect.outbox
  rw [hrows, List.mem_append] at hr
  have hdraws := heffect.draws
  rcases hr with hr | hr
  · exact h i (by omega) r hr hkey
  · rcases hof r hr with htool | hreply
    · exact responseKey_ne_of_isToolRow htool hkey
    · have heq := responseKey_injective (hreply.symm.trans hkey)
      omega

namespace JobConsumerWorker

variable {worker : JobConsumerWorker} {rt : Runtime} {d : Delivery}

theorem interruptedWorld_effect {payload : JobPayload} {v : GraphVisit}
    (hv : v ∈ (worker.ainvoke payload rt).1) (toolCalls : Nat) :
    RunEffect (some (worker.runId rt)) (startWorld rt) (worker.interruptedWorld v toolCalls) := by
  obtain ⟨⟨hsame, hbefore, -⟩, -⟩ := visit_effect hv
  unfold interruptedWorld
  split
  · exact hbefore.trans (.of_node (executeToolCalls_effect _ _ _) hsame.runId)
  · exact hbefore

/-- A delivery that runs the graph does to the world what a run can do. -/
theorem worldAfter_effect (h : runsGraph d = true) :
    RunEffect (some (worker.runId rt)) (startWorld rt) (worker.worldAfter rt d) := by
  have hwhole : RunEffect (some (worker.runId rt)) (startWorld rt)
      (StateGraph.worldAfter (startWorld rt) (worker.ainvoke d.payload rt).1) :=
    run_effect _ _ (worker.startState d.payload rt) _
  unfold worldAfter
  simp only [h, if_true]
  split
  · exact hwhole
  · split
    next v hv => exact interruptedWorld_effect (List.mem_of_getElem? hv) _
    next => exact hwhole

theorem deliver_world_of_not_runs (worker : JobConsumerWorker) (rt : Runtime)
    (h : runsGraph d = false) : (worker.deliver rt d).world = rt.world := by
  simp [deliver, worldAfter, h]

theorem FreshReplies.start (h : FreshReplies worker.deps.uuids rt.world) :
    FreshReplies worker.deps.uuids (startWorld rt) := by
  intro i hi
  simp only [startWorld, World.draw_draws] at hi
  exact h i (by omega)

/-- Freshness is kept by every delivery, hence along every history. -/
theorem FreshReplies.deliver (h : FreshReplies worker.deps.uuids rt.world) (d : Delivery) :
    FreshReplies worker.deps.uuids (worker.deliver rt d).world := by
  cases hruns : runsGraph d with
  | false =>
      rw [deliver_world_of_not_runs worker rt hruns]
      exact h
  | true => exact (FreshReplies.start h).of_effect (Nat.lt_succ_self _) (worldAfter_effect hruns)

theorem FreshReplies.deliverAll (h : FreshReplies worker.deps.uuids rt.world)
    (ds : List Delivery) : FreshReplies worker.deps.uuids (worker.deliverAll rt ds).world := by
  induction ds generalizing rt with
  | nil => exact h
  | cons d ds ih => exact ih (FreshReplies.deliver h d)

/-! ## Checkpoints -/

/-- The state a delivery leaves in its thread's checkpoint. -/
theorem checkpointAfter_eq (worker : JobConsumerWorker) (rt : Runtime) (d : Delivery) :
    worker.checkpointAfter rt d = rt.checkpoints d.payload.threadId ∨
      worker.checkpointAfter rt d =
        StateGraph.stateAfter (worker.startState d.payload rt) (worker.persistedVisits rt d) := by
  unfold checkpointAfter
  split
  · exact Or.inr rfl
  · exact Or.inl rfl

/-- A checkpoint knows of the first visits of a run, up to some point. -/
theorem persistedVisits_eq_take (worker : JobConsumerWorker) (rt : Runtime) (d : Delivery) :
    ∃ k, worker.persistedVisits rt d = (worker.ainvoke d.payload rt).1.take k := by
  obtain ⟨k, hcommitted⟩ : ∃ k, worker.committed (worker.ainvoke d.payload rt) =
      (worker.ainvoke d.payload rt).1.take k := by
    unfold committed
    split
    · split
      · exact ⟨_, List.take_length.symm⟩
      · exact ⟨_, List.dropLast_eq_take⟩
    · exact ⟨_, List.take_length.symm⟩
  unfold persistedVisits
  split
  · simp only
    split
    · exact ⟨k, hcommitted⟩
    · rw [hcommitted, List.take_take]
      exact ⟨_, rfl⟩
  · exact ⟨0, rfl⟩

theorem persistedVisits_subset {v : GraphVisit} (hv : v ∈ worker.persistedVisits rt d) :
    v ∈ (worker.ainvoke d.payload rt).1 := by
  obtain ⟨k, htake⟩ := worker.persistedVisits_eq_take rt d
  rw [htake] at hv
  exact List.mem_of_mem_take hv

/-- A delivery with a persisted visit has written its thread's checkpoint. -/
theorem checkpointAfter_of_mem {v : GraphVisit} (hv : v ∈ worker.persistedVisits rt d) :
    worker.checkpointAfter rt d =
      StateGraph.stateAfter (worker.startState d.payload rt) (worker.persistedVisits rt d) := by
  have hruns : runsGraph d = true := by
    by_contra hnot
    simp [persistedVisits, hnot] at hv
  have hwritten : (d.interruption.map fun i => i.persisted.isSome).getD true = true := by
    cases hinterruption : d.interruption with
    | none => rfl
    | some i =>
        cases hpersisted : i.persisted with
        | none => simp [persistedVisits, hruns, hinterruption, hpersisted] at hv
        | some k => simp [hpersisted]
  simp [checkpointAfter, hruns, hwritten]

/-- What holds in the checkpoint, survives the input of a run and is kept by
every step, holds in the checkpoint after the delivery. -/
theorem checkpointAfter_induction {P : GraphState → Prop}
    (hcheckpoint : P (rt.checkpoints d.payload.threadId))
    (hstart : P (rt.checkpoints d.payload.threadId) → P (worker.startState d.payload rt))
    (hstep : ∀ n s u, NodeUpdate s n u → P s → P (s.merge u)) :
    P (worker.checkpointAfter rt d) := by
  rcases worker.checkpointAfter_eq rt d with h | h
  · rw [h]
    exact hcheckpoint
  · rw [h]
    have hall : ∀ v ∈ worker.persistedVisits rt d, P v.post := by
      intro v hv
      refine ((buildConversationalGraph worker.deps.deps).visits_preserve
        (P := fun t _ => P t) ?_ (hstart hcheckpoint) v (persistedVisits_subset hv)).2
      intro m t w' ht
      exact hstep m t _ (runNode_update _ _ _ _) ht
    exact StateGraph.stateAfter_induction (hstart hcheckpoint) hall

/-- The routing of a run, as the nodes it leads through. -/
def visitedNodes (worker : JobConsumerWorker) (rt : Runtime) (payload : JobPayload) : List Node :=
  (worker.ainvoke payload rt).1.map Visit.node

/-- The job is accepted as an ordinary message, not as an admin command. -/
def Accepts (worker : JobConsumerWorker) (rt : Runtime) (payload : JobPayload) : Prop :=
  AcceptsMessage worker.deps.deps (worker.startState payload rt) (startWorld rt)

/-- The dispatch visit of a run is one application of the dispatch node. -/
theorem dispatch_visit {payload : JobPayload} {v : GraphVisit}
    (hv : v ∈ (worker.ainvoke payload rt).1) (hnode : v.node = .commandDispatch) :
    v.post = v.pre.merge (commandDispatchNode worker.deps.uuids
        (some worker.deps.outboxService) v.pre v.worldBefore).1 ∧
      v.worldAfter = (commandDispatchNode worker.deps.uuids
        (some worker.deps.outboxService) v.pre v.worldBefore).2 := by
  have hself := (visit_effect hv).2
  rw [hnode] at hself
  constructor
  · rw [hself]
    rfl
  · rw [hself]
    rfl

theorem executedVisits_subset {v : GraphVisit} (hv : v ∈ worker.executedVisits rt d) :
    v ∈ (worker.ainvoke d.payload rt).1 := by
  unfold executedVisits at hv
  split at hv
  · simp only at hv
    split at hv
    · exact hv
    · exact List.mem_of_mem_take hv
  · cases hv

/-! ## The flag of a sent reply -/

theorem sent_startState (worker : JobConsumerWorker) (rt : Runtime) (payload : JobPayload) :
    (worker.startState payload rt).sent = (rt.checkpoints payload.threadId).sent := rfl

theorem failed_startState (worker : JobConsumerWorker) (rt : Runtime) (payload : JobPayload) :
    (worker.startState payload rt).failed = (rt.checkpoints payload.threadId).failed := rfl

theorem steps_startState (worker : JobConsumerWorker) (rt : Runtime) (payload : JobPayload) :
    (worker.startState payload rt).steps = (rt.checkpoints payload.threadId).steps := rfl

/-- Once a thread's checkpoint has a sent reply, it keeps it. -/
theorem sent_checkpointAfter (h : (rt.checkpoints d.payload.threadId).sent = true) :
    (worker.checkpointAfter rt d).sent = true := by
  exact checkpointAfter_induction (P := fun s => s.sent = true) h id fun _ _ _ => sent_merge

/-- A persisted visit that ends with a sent reply leaves it in the checkpoint. -/
theorem sent_checkpointAfter_of_mem {v : GraphVisit} (hv : v ∈ worker.persistedVisits rt d)
    (hsent : v.post.sent = true) : (worker.checkpointAfter rt d).sent = true := by
  obtain ⟨k, htake⟩ := worker.persistedVisits_eq_take rt d
  rw [checkpointAfter_of_mem hv]
  rw [htake] at hv ⊢
  exact sent_stateAfter_of_mem hv hsent

end JobConsumerWorker

/-! ## A worker to run -/

section Example

open Iara.Tools

/-- A worker without tools whose sessions all commit. -/
def plainWorker (llm : Llm) : JobConsumerWorker where
  deps :=
    { uuids := .unary
      filters :=
        { text := plainText
          containsBlockedContent := fun _ => false
          lowConfidencePatterns := [] }
      llm := llm
      registry := ⟨[]⟩
      gateway :=
        { registry := ⟨[]⟩
          policyGuard := { text := plainText }
          executor :=
            { text := plainText
              uuids := .unary
              tenantId := "__production__"
              outboxService := none
              followUpRepo := none
              handleRead := fun _ _ _ => .ok []
              buildFollowupSchedulePayload := fun _ _ _ _ _ _ => .error "ValueError" } }
      outboxService := { session := fun _ => .commits }
      mediaSubgraph := { processFromDicts := fun _ _ => .ok [] }
      authGuard := { text := plainText }
      sessionFactory := fun _ => .commits }
  langGraph := { commitsFailedRouting := false }

/-- Answers every call alike. -/
def parrot : Llm where
  ainvoke _ _ _ := .ok { content := .text "Oi" }

def greeting : JobPayload where
  tenantId := "00000000000000000000000000000001"
  conversationId := "7"
  idempotencyKey := "a"
  content := some "Oi"

def question : JobPayload :=
  { greeting with idempotencyKey := "b", content := some "Que horas são?" }

def emptyRuntime : Runtime where
  checkpoints _ := {}
  world := {}

theorem freshReplies_emptyRuntime (uuids : UuidSupply) :
    FreshReplies uuids emptyRuntime.world := freshReplies_of_empty uuids rfl

end Example

end Iara.Workers
