import Iara.Api.Hitl
import Iara.Graph.Stores
import Iara.Workers.History

/-!
# Resuming a held conversation

The node registers a hold under the id of the run, and the worker runs the graph
on the thread of the conversation.  So an approval updates a thread that no job
ever runs on, and the conversation stays cut off at the agent.
-/

namespace Iara.Workers

open Iara.Lib Iara.Persistence Iara.Graph Iara.Api

/-! ## The claim -/

/-- The run of the job ends at the agent because of the hitl flag. -/
def CutOff (worker : JobConsumerWorker) (rt : Runtime) (payload : JobPayload) : Prop :=
  ∃ v ∈ (worker.ainvoke payload rt).1,
    v.node = .agent ∧ shouldContinueAfterAgent v.post = .hitlInterrupt

/-- The nodes up to the agent, and the command assistant. -/
def upToAgent : List Node :=
  [.eligibility, .commandAssistant, .mediaUnderstanding, .contextBuilder, .agent]

section Claim

variable (worker : JobConsumerWorker) (graph : Option Resumption)
  (memory : String → Option HitlHold) (body : HitlDecisionRequest)

/-- The approval of a hold resumes the conversation of the thread: the next job
is not cut off, whatever else has happened meanwhile. -/
structure Resumable (rt : Runtime) (hold : HitlHoldRecord) (threadId : String) : Prop where
  stores : hold.threadId = threadId
  releases :
    ((approveAndResume graph memory hold.runId body rt).checkpoints threadId).hitlRequested =
    some false
  continues : ∀ rt', rt'.checkpoints threadId =
      (approveAndResume graph memory hold.runId body rt).checkpoints threadId →
    ∀ payload : JobPayload, payload.threadId = threadId → ¬ CutOff worker rt' payload

/-- Whatever is delivered later, no job of the thread gets past the agent. -/
def StaysCutOff (rt : Runtime) (threadId : String) : Prop :=
  ∀ ds, ∀ payload : JobPayload, payload.threadId = threadId →
    ∀ v ∈ (worker.ainvoke payload (worker.deliverAll rt ds)).1, v.node ∈ upToAgent

end Claim

/-! ## What a run registers -/

section Registered

variable {worker : JobConsumerWorker} {rt : Runtime} {d : Delivery} {hold : HitlHoldRecord}

/-- The node registers a hold under the id of the run. -/
theorem hitlNode_holds {uuids : UuidSupply} {session : Option (Nat → Transaction)}
    {s : GraphState} {w : World} {runId : String} (hrun : s.runId = some runId)
    (h : hold ∈ (hitlNode uuids session s w).2.holds.rows) :
    hold ∈ w.holds.rows ∨ hold.threadId = runId := by
  unfold hitlNode at h
  cases session with
  | none => exact Or.inl h
  | some session =>
      simp only [hrun, Option.getD_some] at h
      rcases HitlHoldRepository.register_cases (session w.draws) runId (s.tenantId.getD "")
        (s.conversationId.getD "") runId (some (s.hitlReason.getD "unknown")) _ w.holds
        with hsame | ⟨record, -, hthread, -, hinsert⟩
      · rw [hsame] at h
        exact Or.inl h
      · rw [hinsert] at h
        rcases Table.mem_insertOrIgnore h with hold' | ⟨rfl, -⟩
        · exact Or.inl hold'
        · exact Or.inr hthread

theorem runNode_holds {deps : Deps} {n : Node} {s : GraphState} {w : World} {runId : String}
    (hrun : s.runId = some runId) (h : hold ∈ (runNode deps n s w).2.holds.rows) :
    hold ∈ w.holds.rows ∨ (n = .hitl ∧ hold.threadId = runId) := by
  by_cases hn : n = .hitl
  · subst hn
    rcases hitlNode_holds hrun h with hold' | hthread
    · exact Or.inl hold'
    · exact Or.inr ⟨rfl, hthread⟩
  · rw [(runNode_stores deps n s w).holds hn] at h
    exact Or.inl h

/-- A hold that is new after a part of a run was registered by a visit of the
HITL node, under the id of the run. -/
theorem visits_holds {limit : Nat} {n : Node} {s : GraphState} {w : World} {deps : Deps}
    {runId : String} (hrun : s.runId = some runId) (k : Nat)
    (h : hold ∈ (StateGraph.worldAfter w
      (((buildConversationalGraph deps).execute limit n s w).1.take k)).holds.rows) :
    hold ∈ w.holds.rows ∨ (hold.threadId = runId ∧
      ∃ v ∈ ((buildConversationalGraph deps).execute limit n s w).1, v.node = .hitl) := by
  let g := buildConversationalGraph deps
  induction limit generalizing n s w k with
  | zero =>
      simp only [StateGraph.execute, List.take_nil, StateGraph.worldAfter_nil] at h
      exact Or.inl h
  | succ limit ih =>
      obtain ⟨rest, hrest, hfrom⟩ := g.execute_succ_head limit n s w
      cases k with
      | zero => exact Or.inl h
      | succ k =>
          rw [hrest, List.take_succ_cons, StateGraph.worldAfter_cons] at h
          have hrun' : (g.superstep n s w).post.runId = some runId :=
            (SameRun.merge ⟨rfl, rfl⟩ (runNode_update deps n s w)).runId.trans hrun
          have htail : hold ∈ (g.superstep n s w).worldAfter.holds.rows ∨
              (hold.threadId = runId ∧ ∃ v ∈ rest, v.node = .hitl) := by
            rcases hfrom with rfl | ⟨n', rfl⟩
            · rw [List.take_nil] at h
              exact Or.inl h
            · exact ih hrun' k h
          rw [hrest]
          rcases htail with hhere | ⟨hthread, v, hv, hnode⟩
          · rcases runNode_holds hrun hhere with hold' | ⟨hnode, hthread⟩
            · exact Or.inl hold'
            · exact Or.inr ⟨hthread, g.superstep n s w, List.mem_cons_self, hnode⟩
          · exact Or.inr ⟨hthread, v, List.mem_cons_of_mem _ hv, hnode⟩

/-- The holds after a delivery are those after some visits of its run. -/
theorem deliver_holds_eq (worker : JobConsumerWorker) (rt : Runtime) (d : Delivery) :
    ∃ k, (worker.deliver rt d).world.holds = (StateGraph.worldAfter
      (JobConsumerWorker.startWorld rt) ((worker.ainvoke d.payload rt).1.take k)).holds := by
  change ∃ k, (worker.worldAfter rt d).holds = _
  have hwhole : (StateGraph.worldAfter (JobConsumerWorker.startWorld rt)
      (worker.ainvoke d.payload rt).1).holds = (StateGraph.worldAfter
        (JobConsumerWorker.startWorld rt) ((worker.ainvoke d.payload rt).1.take
          (worker.ainvoke d.payload rt).1.length)).holds := by
    rw [List.take_length]
  unfold JobConsumerWorker.worldAfter
  split
  · simp only
    split
    · exact ⟨_, hwhole⟩
    · next i hi =>
      split
      · next v hv =>
        refine ⟨i.executed, ?_⟩
        have hbefore := StateGraph.worldBefore_of_getElem? _ hv
        rw [← show v.worldBefore = StateGraph.worldAfter (JobConsumerWorker.startWorld rt)
          ((worker.ainvoke d.payload rt).1.take i.executed) from hbefore]
        unfold JobConsumerWorker.interruptedWorld
        split
        · exact (executeToolCalls_stores _ _ _).holds (by decide)
        · rfl
      · exact ⟨_, hwhole⟩
  · exact ⟨0, rfl⟩

/-- A hold that is new after a delivery was registered by the HITL node of its
run, under the id of the run. -/
theorem deliver_holds (h : hold ∈ (worker.deliver rt d).world.holds.rows)
    (hnew : hold ∉ rt.world.holds.rows) :
    hold.threadId = worker.runId rt ∧
      ∃ v ∈ (worker.ainvoke d.payload rt).1, v.node = .hitl := by
  obtain ⟨k, hholds⟩ := deliver_holds_eq worker rt d
  rw [hholds] at h
  have hrun : (worker.startState d.payload rt).runId = some (worker.runId rt) := rfl
  exact (visits_holds hrun k h).resolve_left hnew

theorem hitlNode_keeps {uuids : UuidSupply} {session : Option (Nat → Transaction)}
    {s : GraphState} {w : World} (h : hold ∈ w.holds.rows) :
    hold ∈ (hitlNode uuids session s w).2.holds.rows := by
  unfold hitlNode
  cases session with
  | none => exact h
  | some session =>
      simp only
      rcases HitlHoldRepository.register_cases (session w.draws)
        (s.runId.getD (uuids.gen w.draws)) (s.tenantId.getD "") (s.conversationId.getD "")
        (s.runId.getD (uuids.gen w.draws)) (some (s.hitlReason.getD "unknown")) _ w.holds
        with hsame | ⟨record, -, -, -, hinsert⟩
      · rw [hsame]
        exact h
      · rw [hinsert]
        exact Table.mem_insertOrIgnore_of_mem h

theorem runNode_keeps {deps : Deps} {n : Node} {s : GraphState} {w : World}
    (h : hold ∈ w.holds.rows) : hold ∈ (runNode deps n s w).2.holds.rows := by
  by_cases hn : n = .hitl
  · subst hn
    exact hitlNode_keeps h
  · rw [(runNode_stores deps n s w).holds hn]
    exact h

/-- No delivery takes a hold out of the table or changes it. -/
theorem deliver_keeps (d : Delivery) (h : hold ∈ rt.world.holds.rows) :
    hold ∈ (worker.deliver rt d).world.holds.rows := by
  obtain ⟨k, hholds⟩ := deliver_holds_eq worker rt d
  have hstart : hold ∈ (JobConsumerWorker.startWorld rt).holds.rows := h
  rw [hholds]
  refine StateGraph.worldAfter_induction (P := fun (w : World) => hold ∈ w.holds.rows) hstart ?_
  intro v hv
  refine ((buildConversationalGraph worker.deps.deps).visits_preserve
    (P := fun _ (w : World) => hold ∈ w.holds.rows) ?_ hstart v (List.mem_of_mem_take hv)).2
  intro n s w hw
  exact runNode_keeps hw

theorem deliverAll_keeps (ds : List Delivery) (h : hold ∈ rt.world.holds.rows) :
    hold ∈ (worker.deliverAll rt ds).world.holds.rows := by
  induction ds generalizing rt with
  | nil => exact h
  | cons d ds ih => exact ih (deliver_keeps d h)

/-- The thread of a conversation is not the id of a run. -/
theorem runId_ne_threadId (worker : JobConsumerWorker) (rt : Runtime) (payload : JobPayload) :
    worker.runId rt ≠ payload.threadId := by
  intro h
  have hcolon : ':' ∈ payload.threadId.toList := by
    unfold JobPayload.threadId
    simp
  rw [← h] at hcolon
  exact worker.deps.uuids.colon_notMem_gen _ hcolon

end Registered

/-! ## What an approval touches -/

section Approved

variable {graph : Option Resumption} {memory : String → Option HitlHold}
  {body : HitlDecisionRequest} {rt : Runtime} {hold : HitlHoldRecord} {threadId : String}

/-- With the database up, an approval resumes the thread of the row or nothing. -/
theorem approveHold_resume (stores : HitlStores) {resumed : String × String}
    (hfind : stores.holds.find hold.runId = some hold) (hthread : hold.threadId ≠ "")
    (h : (HitlRouter.approveHold (some .commits) hold.runId body stores).resume = some resumed) :
    resumed.2 = hold.threadId := by
  have hrow : (HitlHoldRepository.approve hold.runId stores.holds).1 =
      ((some hold).filter fun r => r.status = .pending).map
        fun r => { r with status := .approved } := by
    rw [← hfind]
    rfl
  have hor : ∀ other, HitlRouter.threadOr (some hold.threadId) other = hold.threadId := by
    intro other
    simp [HitlRouter.threadOr, PyStr.truthyOption, PyStr.truthy, hthread]
  simp only [HitlRouter.approveHold, inSession, Transaction.close, hrow] at h
  by_cases hpending : hold.status = .pending
  · simp only [Option.filter_some, hpending, decide_true, if_true, Option.map_some,
      HitlRouter.approveInMemory, Bool.true_eq_false, and_false, if_false,
      Option.some.injEq] at h
    rw [← h]
    exact hor _
  · simp only [Option.filter_some, hpending, decide_false, Bool.false_eq_true, if_false,
      Option.map_none] at h
    cases h

theorem resumeGraph_checkpoints (graph : Option Resumption) (rt : Runtime) {t : String}
    (ht : t ≠ threadId) : (resumeGraph graph threadId rt).checkpoints t = rt.checkpoints t := by
  unfold resumeGraph
  split
  · rfl
  · exact Function.update_of_ne ht _ _

/-- The approval of a hold leaves every other thread alone. -/
theorem approveAndResume_checkpoints (hmem : hold ∈ rt.world.holds.rows)
    (hthread : hold.threadId ≠ "") (hne : threadId ≠ hold.threadId) :
    (approveAndResume graph memory hold.runId body rt).checkpoints threadId =
      rt.checkpoints threadId := by
  have hfind : rt.world.holds.find hold.runId = some hold :=
    Table.find_eq_some_iff.2 ⟨hmem, rfl⟩
  unfold approveAndResume
  simp only
  split
  · rfl
  · next runId resumedThread hresume =>
      have hresumed : resumedThread = hold.threadId :=
        approveHold_resume ⟨rt.world.holds, memory⟩ hfind hthread hresume
      rw [resumeGraph_checkpoints graph _ (hresumed ▸ hne)]

end Approved

/-! ## The flag stays -/

theorem route_of_held {n n' : Node} {s : GraphState} (h : s.held = true) (hn : n ∈ upToAgent)
    (hroute : route n s = some (.goto n')) : n' ∈ upToAgent := by
  cases n with
  | eligibility =>
      simp only [route, shouldContinueAfterEligibility] at hroute
      split at hroute
      · cases hroute
      · split at hroute <;> cases hroute <;> decide
  | commandAssistant => cases hroute
  | mediaUnderstanding =>
      simp only [route, shouldContinueAfterMedia] at hroute
      split at hroute <;> cases hroute
      decide
  | contextBuilder =>
      simp only [route, shouldContinueAfterContext] at hroute
      split at hroute <;> cases hroute
      decide
  | agent =>
      -- with the flag set, both labels end the run
      simp only [route, shouldContinueAfterAgent, h, if_true] at hroute
      split at hroute <;> cases hroute
  | toolExecutor => exact absurd hn (by decide)
  | guardrails => exact absurd hn (by decide)
  | hitl => exact absurd hn (by decide)
  | commandDispatch => exact absurd hn (by decide)
  | memoryWriter => exact absurd hn (by decide)

/-- A run that starts with the flag set does not get past the agent. -/
theorem nodes_of_held {deps : Deps} {limit : Nat} {s : GraphState} {w : World}
    (h : s.held = true) :
    ∀ v ∈ ((buildConversationalGraph deps).execute limit .eligibility s w).1,
      v.node ∈ upToAgent := by
  intro v hv
  have hinv : (v.pre.held = true ∧ v.node ∈ upToAgent) ∧
      v = (buildConversationalGraph deps).superstep v.node v.pre v.worldBefore := by
    refine (buildConversationalGraph deps).visits_invariant
      (P := fun n (t : GraphState) _ => t.held = true ∧ n ∈ upToAgent) ?_ ⟨h, by decide⟩ v hv
    intro n t w' n' ht hroute
    have hpost := held_merge (runNode_update deps n t w') ht.1
    exact ⟨hpost, route_of_held hpost ht.2 hroute⟩
  exact hinv.1.2

section Histories

variable {worker : JobConsumerWorker} {rt : Runtime} {d : Delivery} {threadId : String}

theorem held_checkpointAfter (h : (rt.checkpoints d.payload.threadId).held = true) :
    (worker.checkpointAfter rt d).held = true :=
  JobConsumerWorker.checkpointAfter_induction (P := fun s => s.held = true) h id
    fun _ _ _ => held_merge

theorem held_deliver (d : Delivery) (h : (rt.checkpoints threadId).held = true) :
    ((worker.deliver rt d).checkpoints threadId).held = true := by
  by_cases hthread : threadId = d.payload.threadId
  · subst hthread
    simp only [JobConsumerWorker.deliver, Function.update_self]
    exact held_checkpointAfter h
  · simp only [JobConsumerWorker.deliver, ne_eq, hthread, not_false_eq_true,
      Function.update_of_ne]
    exact h

theorem held_deliverAll (ds : List Delivery) (h : (rt.checkpoints threadId).held = true) :
    ((worker.deliverAll rt ds).checkpoints threadId).held = true := by
  induction ds generalizing rt with
  | nil => exact h
  | cons d ds ih => exact ih (held_deliver d h)

theorem staysCutOff_of_held (h : (rt.checkpoints threadId).held = true) :
    StaysCutOff worker rt threadId := by
  intro ds payload hpayload
  have hstart : (worker.startState payload (worker.deliverAll rt ds)).held = true := by
    have hcheckpoint : ((worker.deliverAll rt ds).checkpoints threadId).held = true :=
      held_deliverAll ds h
    rw [← hpayload] at hcheckpoint
    exact hcheckpoint
  exact nodes_of_held hstart

/-- A run that reaches the HITL node ends there, with the flag set. -/
theorem held_of_hitl_visit {v : GraphVisit} (hruns : JobConsumerWorker.runsGraph d = true)
    (hwhole : d.interruption = none) (hv : v ∈ (worker.ainvoke d.payload rt).1)
    (hnode : v.node = .hitl) : (worker.checkpointAfter rt d).held = true := by
  let g := buildProductionGraph worker.deps
  obtain ⟨before, hrun⟩ := execute_of_hitl_visit hv hnode
  have hainvoke : worker.ainvoke d.payload rt =
      (before ++ [g.superstep .hitl v.pre v.worldBefore], .finished) := hrun
  have hpersisted : worker.persistedVisits rt d =
      before ++ [g.superstep .hitl v.pre v.worldBefore] := by
    simp [JobConsumerWorker.persistedVisits, hruns, hwhole, hainvoke, JobConsumerWorker.committed]
  have hcheckpoint : worker.checkpointAfter rt d =
      (g.superstep .hitl v.pre v.worldBefore).post := by
    simp [JobConsumerWorker.checkpointAfter, hruns, hwhole, hpersisted,
      StateGraph.stateAfter_append]
  rw [hcheckpoint]
  change (v.pre.merge (runNode worker.deps.deps .hitl v.pre v.worldBefore).1).held = true
  have hwrites : (runNode worker.deps.deps .hitl v.pre v.worldBefore).1.hitlRequested =
      some true := rfl
  simp [GraphState.merge, GraphState.held, hwrites]

end Histories

/-! ## The result -/

/-- A hold that a run has registered names a thread that is no conversation's.
Its approval, whenever it comes, leaves the checkpoint of the conversation as it
is, and after a run that was not interrupted no job gets past the agent again. -/
theorem registeredHold_not_resumable (worker : JobConsumerWorker) (graph : Option Resumption)
    (memory : String → Option HitlHold) (body : HitlDecisionRequest) (rt : Runtime) (d : Delivery)
    (ds : List Delivery) (hold : HitlHoldRecord)
    (hregistered : hold ∈ (worker.deliver rt d).world.holds.rows)
    (hnew : hold ∉ rt.world.holds.rows) :
    let rt' := worker.deliverAll (worker.deliver rt d) ds
    let approved := approveAndResume graph memory hold.runId body rt'
    ¬ Resumable worker graph memory body rt' hold d.payload.threadId ∧
      approved.checkpoints d.payload.threadId = rt'.checkpoints d.payload.threadId ∧
      (d.interruption = none → StaysCutOff worker approved d.payload.threadId) := by
  intro rt' approved
  obtain ⟨hthread, v, hv, hnode⟩ := deliver_holds hregistered hnew
  have hne : d.payload.threadId ≠ hold.threadId :=
    hthread ▸ (runId_ne_threadId worker rt d.payload).symm
  have hnonempty : hold.threadId ≠ "" := by
    intro hempty
    have hlength := worker.deps.uuids.le_length_gen (rt.world.draws + 1)
    rw [← show worker.runId rt = worker.deps.uuids.gen (rt.world.draws + 1) from rfl, ← hthread,
      hempty] at hlength
    exact absurd hlength (by decide)
  have hsame : approved.checkpoints d.payload.threadId = rt'.checkpoints d.payload.threadId :=
    approveAndResume_checkpoints (deliverAll_keeps ds hregistered) hnonempty hne
  refine ⟨fun h => hne h.stores.symm, hsame, ?_⟩
  intro hwhole
  apply staysCutOff_of_held
  have hruns : JobConsumerWorker.runsGraph d = true := by
    by_contra hnot
    rw [JobConsumerWorker.deliver_world_of_not_runs worker rt (by simpa using hnot)] at hregistered
    exact hnew hregistered
  have hheld : ((worker.deliver rt d).checkpoints d.payload.threadId).held = true := by
    simp only [JobConsumerWorker.deliver, Function.update_self]
    exact held_of_hitl_visit hruns hwhole hv hnode
  rw [hsame]
  exact held_deliverAll ds hheld

section Example

/-- The model answers with a phrase that the guardrails hold back. -/
def hedgingLlm : Llm where
  ainvoke _ _ _ := .ok { content := .text "Não tenho certeza." }

def hedgingWorker : JobConsumerWorker :=
  let worker := plainWorker hedgingLlm
  { worker with
    deps :=
      { worker.deps with
        filters :=
          { worker.deps.filters with
            lowConfidencePatterns :=
              [fun response => PyStr.contains response "ão tenho certeza"] } } }

/-- The delivery of a job whose run the guardrails send to the HITL node. -/
def heldDelivery : Delivery where
  payload := greeting

def registeredHold : HitlHoldRecord where
  runId := UuidSupply.unary.gen 1
  tenantId := 1
  conversationId := "7"
  threadId := UuidSupply.unary.gen 1
  reason := some "low_confidence"
  contextSnapshot :=
    { stepCount := 5
      correlationId := UuidSupply.unary.gen 0
      hitlReason := "low_confidence" }

def heldRuntime : Runtime := hedgingWorker.deliver emptyRuntime heldDelivery

theorem registeredHold_mem : registeredHold ∈ heldRuntime.world.holds.rows := by
  decide +kernel

theorem registeredHold_stays :
    let approved := approveAndResume (some fun s w => (s, w)) (fun _ => none)
      registeredHold.runId { decidedBy := "ana" } heldRuntime
    ¬ Resumable hedgingWorker (some fun s w => (s, w)) (fun _ => none) { decidedBy := "ana" }
        heldRuntime registeredHold greeting.threadId ∧
      approved.checkpoints greeting.threadId = heldRuntime.checkpoints greeting.threadId ∧
      StaysCutOff hedgingWorker approved greeting.threadId := by
  have h := registeredHold_not_resumable hedgingWorker (some fun s w => (s, w)) (fun _ => none)
    { decidedBy := "ana" } emptyRuntime heldDelivery [] registeredHold registeredHold_mem
    (by simp [emptyRuntime])
  exact ⟨h.1, h.2.1, h.2.2 rfl⟩

/-- The hold is registered, and after its approval the next job of the
conversation is cut off. -/
theorem registeredHold_cutsOff :
    registeredHold ∈ heldRuntime.world.holds.rows ∧
      (∃ v ∈ (hedgingWorker.ainvoke greeting emptyRuntime).1, v.node = .hitl) ∧
      ¬ Resumable hedgingWorker (some fun s w => (s, w)) (fun _ => none) { decidedBy := "ana" }
        heldRuntime registeredHold greeting.threadId ∧
      CutOff hedgingWorker
        (approveAndResume (some fun s w => (s, w)) (fun _ => none) registeredHold.runId
          { decidedBy := "ana" } heldRuntime) question := by
  have hstores : registeredHold.threadId ≠ greeting.threadId := by decide +kernel
  refine ⟨registeredHold_mem, by decide +kernel, fun h => hstores h.stores, ?_⟩
  unfold CutOff
  decide +kernel

end Example

end Iara.Workers
