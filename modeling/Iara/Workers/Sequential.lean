import Iara.Lib.Turns
import Iara.Workers.ClusterSteps

/-!
# One delivery after another, step by step

A handler that is left alone does, statement by statement, what
`JobConsumerWorker.deliver` says of a delivery, also when it is cut short: the
histories of the sequential model are runs of the cluster.
-/

namespace Iara.Workers

open Iara.Lib Iara.Persistence Iara.Graph

namespace Cluster

variable {cluster : Cluster} {s : Shared} {h : Handler} {run : GraphRun} {payload : JobPayload}

/-! ## The steps of a delivery -/

/-- The steps of one visit. -/
def visitSteps (saved : Bool) (v : GraphVisit) : List HandlerStep :=
  (if v.node = .toolExecutor then
      List.replicate (v.pre.toolCallsPending.getD []).length .toolCall
    else []) ++ [.superstep saved]

/-- The steps of some visits, the first `k` of which are checkpointed. -/
def visitsSteps : Nat → List GraphVisit → List HandlerStep
  | _, [] => []
  | k, v :: vs => visitSteps (decide (0 < k)) v ++ visitsSteps (k - 1) vs

/-- The tool calls of a visit that is interrupted after some. -/
def interruptedSteps (toolCalls : Nat) (v : GraphVisit) : List HandlerStep :=
  if v.node = .toolExecutor then
    List.replicate ((v.pre.toolCallsPending.getD []).take toolCalls).length .toolCall
  else []

/-- How many visits are checkpointed when the delivery is cut short. -/
def persistedCount (cluster : Cluster) (rt : Runtime) (d : Delivery) (i : Interruption) : Nat :=
  min (i.persisted.getD 0)
    (cluster.worker.committed (cluster.worker.ainvoke d.payload rt)).length

/-- The steps of a delivery that goes past the lease block without a lease. -/
def deliverySteps (cluster : Cluster) (rt : Runtime) (d : Delivery) : List HandlerStep :=
  if d.payload.complete then
    let result := cluster.worker.ainvoke d.payload rt
    match d.interruption with
    | none =>
        [.start, .skipLease, .invoke true] ++
          (visitsSteps (cluster.worker.committed result).length result.1 ++
            [.release .commits, .settle])
    | some i =>
        [.start, .skipLease, .invoke i.persisted.isSome] ++
          (visitsSteps (cluster.persistedCount rt d i) (result.1.take i.executed) ++
            (result.1[i.executed]?.elim [] (interruptedSteps i.toolCalls) ++ [.crash]))
  else [.start, .settle]

/-- What the broker is told. -/
def outcomeOf : Ending → Outcome
  | .finished => .acked
  | .routingError => .deadLettered
  | .recursionLimit => .deadLettered

def deliveryOutcome (cluster : Cluster) (rt : Runtime) (d : Delivery) : Outcome :=
  if d.payload.complete then
    if d.interruption.isSome then .requeued
    else outcomeOf (cluster.worker.ainvoke d.payload rt).2
  else .acked

theorem system_act : cluster.system.act = cluster.act := rfl

/-! ## Tool calls -/

/-- What the worker's tool executor makes of some calls. -/
def callAll (cluster : Cluster) (state : GraphState) (calls : List PendingToolCall) (w : World) :
    List ToolResult × World :=
  executeToolCalls cluster.worker.deps.uuids cluster.worker.deps.gateway state calls w

def calledHandler (cluster : Cluster) (h : Handler) (run : GraphRun)
    (calls : List PendingToolCall) (w : World) : Handler :=
  { h with
    phase := .running
      { run with results := run.results ++ (cluster.callAll run.state calls w).1 } }

def calledShared (cluster : Cluster) (s : Shared) (run : GraphRun)
    (calls : List PendingToolCall) : Shared :=
  { s with rt := { s.rt with world := (cluster.callAll run.state calls s.rt.world).2 } }

/-- The calls of a tool executor, one by one. -/
theorem actAll_toolCalls (calls : List PendingToolCall) {before after : List PendingToolCall}
    (hphase : h.phase = .running run) (hnode : run.node = .toolExecutor)
    (hpending : pending run = before ++ calls ++ after)
    (hresults : run.results.length = before.length) :
    cluster.system.actAll s h (List.replicate calls.length .toolCall) =
      some (cluster.calledHandler h run calls s.rt.world, cluster.calledShared s run calls) := by
  induction calls generalizing s h run before with
  | nil =>
      have hsame : cluster.calledHandler h run [] s.rt.world = h := by
        unfold calledHandler callAll
        rw [executeToolCalls, List.append_nil, ← hphase]
      rw [hsame]
      rfl
  | cons tc calls ih =>
      have hnext : (pending run)[run.results.length]? = some tc := by
        rw [hpending, hresults, List.append_assoc, List.getElem?_append_right (Nat.le_refl _),
          Nat.sub_self]
        rfl
      have hact : cluster.system.act s h .toolCall = some (cluster.toolCall s h run tc) := by
        change cluster.act s h .toolCall = _
        unfold act
        simp only [hphase, if_pos hnode, hnext, Option.map_some]
      rw [List.length_cons, List.replicate_succ, Interleaving.actAll_cons hact]
      let r := executeToolCall cluster.worker.deps.uuids cluster.worker.deps.gateway run.state tc
        s.rt.world
      have hrest := @ih (cluster.toolCall s h run tc).2 (cluster.toolCall s h run tc).1
        { run with results := run.results ++ [r.1] } (before ++ [tc]) rfl hnode
        (by rw [List.append_assoc before, List.singleton_append]; exact hpending)
        (by rw [List.length_append, List.length_append, hresults]; rfl)
      rw [hrest]
      unfold calledHandler calledShared callAll
      simp only [executeToolCalls, List.append_assoc, List.singleton_append]
      rfl

/-! ## Visits -/

/-- A visit, as the graph makes it. -/
def visit (cluster : Cluster) (run : GraphRun) (w : World) : GraphVisit :=
  (buildProductionGraph cluster.worker.deps).superstep run.node run.state w

/-- The handler and the tables after a visit. -/
def visited (cluster : Cluster) (saved : Bool) (s : Shared) (h : Handler) (run : GraphRun) :
    Handler × Shared :=
  let v := cluster.visit run s.rt.world
  ({ h with phase := continueRun run v.post },
    { s with
      rt := checkpoint saved { s.rt with world := v.worldAfter } h.message.payload v.post })

theorem length_callAll (state : GraphState) (calls : List PendingToolCall) (w : World) :
    (cluster.callAll state calls w).1.length = calls.length := by
  unfold callAll
  induction calls generalizing w with
  | nil => rfl
  | cons tc calls ih =>
      rw [executeToolCalls, List.length_cons, List.length_cons]
      exact congrArg Nat.succ (ih _)

/-- The visit of a tool executor, once its calls are made. -/
theorem visit_toolExecutor (hnode : run.node = .toolExecutor) (hresults : run.results = [])
    (w : World) :
    (cluster.visit run w).post = run.state.merge (toolUpdate
        { run with results := run.results ++ (cluster.callAll run.state (pending run) w).1 }) ∧
      (cluster.visit run w).worldAfter = (cluster.callAll run.state (pending run) w).2 := by
  have hupdate : runNode cluster.worker.deps.deps run.node run.state w =
      (toolUpdate { run with
          results := run.results ++ (cluster.callAll run.state (pending run) w).1 },
        (cluster.callAll run.state (pending run) w).2) := by
    rw [hnode]
    change toolExecutorNode cluster.worker.deps.uuids (some cluster.worker.deps.gateway) run.state
      w = _
    unfold toolExecutorNode toolUpdate callAll pending
    simp only [hresults, List.nil_append]
    generalize run.state.toolCallsPending.getD [] = calls
    cases calls with
    | nil => rfl
    | cons tc calls => rfl
  constructor
  · exact congrArg (fun r => run.state.merge r.1) hupdate
  · exact congrArg Prod.snd hupdate

/-- One visit of a handler that is left alone. -/
theorem actAll_visit (saved : Bool) (hphase : h.phase = .running run)
    (hresults : run.results = []) :
    cluster.system.actAll s h (visitSteps saved (cluster.visit run s.rt.world)) =
      some (cluster.visited saved s h run) := by
  unfold visitSteps
  change cluster.system.actAll s h
    ((if run.node = .toolExecutor then List.replicate (pending run).length _ else []) ++ _) = _
  by_cases hnode : run.node = .toolExecutor
  · rw [if_pos hnode]
    have hsplit : pending run = [] ++ pending run ++ [] := (List.append_nil _).symm
    have hnone : run.results.length = ([] : List PendingToolCall).length := by rw [hresults]; rfl
    rw [Interleaving.actAll_append (actAll_toolCalls (pending run) hphase hnode hsplit hnone)]
    have hact : cluster.system.act (cluster.calledShared s run (pending run))
        (cluster.calledHandler h run (pending run) s.rt.world) (.superstep saved) =
          some (cluster.visited saved s h run) := by
      rw [system_act]
      have hdone : ¬ (run.results ++ (cluster.callAll run.state (pending run)
          s.rt.world).1).length < (pending run).length := by
        rw [hresults, List.nil_append, length_callAll]
        omega
      unfold act calledHandler
      simp only
      rw [if_neg fun hwaits => hdone hwaits.2]
      obtain ⟨hpost, hworld⟩ := cluster.visit_toolExecutor hnode hresults s.rt.world
      unfold superstep visited
      simp only [if_pos hnode]
      rw [hpost, hworld]
      rfl
    rw [Interleaving.actAll_cons hact]
    rfl
  · rw [if_neg hnode]
    have hact : cluster.system.act s h (.superstep saved) =
        some (cluster.visited saved s h run) := by
      change cluster.act s h (.superstep saved) = _
      unfold act
      simp only [hphase]
      rw [if_neg fun hwaits => hnode hwaits.1]
      unfold superstep visited visit
      simp only [if_neg hnode]
      rfl
    rw [List.nil_append, Interleaving.actAll_cons hact]
    rfl

/-! ## Runs -/

/-- The runtime after some visits, of which the first `k` are checkpointed. -/
def ranTo (rt : Runtime) (payload : JobPayload) (k : Nat) (vs : List GraphVisit) : Runtime where
  checkpoints :=
    match (vs.take k).getLast? with
    | none => rt.checkpoints
    | some v => Function.update rt.checkpoints payload.threadId v.post
  world := StateGraph.worldAfter rt.world vs

theorem ranTo_cons (rt : Runtime) (payload : JobPayload) (k : Nat) (v : GraphVisit)
    (vs : List GraphVisit) :
    ranTo (checkpoint (decide (0 < k)) { rt with world := v.worldAfter } payload v.post) payload
        (k - 1) vs = ranTo rt payload k (v :: vs) := by
  unfold ranTo
  rw [checkpoint_world, StateGraph.worldAfter_cons]
  congr 1
  cases k with
  | zero => rfl
  | succ k =>
      rw [List.take_succ_cons, Nat.add_sub_cancel]
      have hsaved : (checkpoint (decide (0 < k + 1)) { rt with world := v.worldAfter } payload
          v.post).checkpoints = Function.update rt.checkpoints payload.threadId v.post := rfl
      rw [hsaved]
      cases hlast : (vs.take k).getLast? with
      | none =>
          rw [List.getLast?_eq_none_iff.1 hlast]
          rfl
      | some u =>
          rw [List.getLast?_cons, hlast]
          simp only [Option.getD_some, Function.update_idem]

/-- Where a run stands after some of its visits: at the next one, or at its end. -/
structure StandsAt (h h' : Handler) (vs rest : List GraphVisit) (ending : Ending) (w : World) :
    Prop where
  same : ∃ phase, h' = { h with phase := phase }
  next : ∀ v rest', rest = v :: rest' → v.worldBefore = w ∧
    ∃ limit, h'.phase = .running { node := v.node, state := v.pre, limit := limit }
  ended : rest = [] → vs ≠ [] → h'.phase = .releasing (outcomeOf ending)

@[simp] theorem visited_world (saved : Bool) :
    (cluster.visited saved s h run).2.rt.world = (cluster.visit run s.rt.world).worldAfter :=
  checkpoint_world _ _ _ _

/-- A visit is the last one of its run, or the run goes on from where the edge
leads. -/
theorem visit_cases {left : Nat} (hlimit : run.limit = left + 1) (w : World) :
    let g := buildProductionGraph cluster.worker.deps
    let v := cluster.visit run w
    (∃ ending, g.execute run.limit run.node run.state w = ([v], ending) ∧
        continueRun run v.post = .releasing (outcomeOf ending)) ∨
      ∃ n, 0 < left ∧
        g.execute run.limit run.node run.state w =
          (v :: (g.execute left n v.post v.worldAfter).1,
            (g.execute left n v.post v.worldAfter).2) ∧
        continueRun run v.post = .running { node := n, state := v.post, limit := left } := by
  intro g v
  rw [hlimit]
  cases hroute : g.route run.node v.post with
  | none =>
      refine Or.inl ⟨.routingError, g.execute_routingError hroute, ?_⟩
      change route run.node v.post = none at hroute
      rw [continueRun, hroute]
      rfl
  | some next =>
      cases next with
      | finish =>
          refine Or.inl ⟨.finished, g.execute_finish hroute, ?_⟩
          change route run.node v.post = some .finish at hroute
          rw [continueRun, hroute]
          rfl
      | goto n =>
          have hexecute : g.execute (left + 1) run.node run.state w =
              (v :: (g.execute left n v.post v.worldAfter).1,
                (g.execute left n v.post v.worldAfter).2) := g.execute_goto hroute
          change route run.node v.post = some (.goto n) at hroute
          cases left with
          | zero =>
              refine Or.inl ⟨.recursionLimit, hexecute, ?_⟩
              rw [continueRun, hroute, hlimit]
              rfl
          | succ left =>
              refine Or.inr ⟨n, Nat.succ_pos left, hexecute, ?_⟩
              rw [continueRun, hroute, hlimit]
              rfl

/-- The tables after a visit, and after some more. -/
theorem visited_ranTo (k : Nat) (vs : List GraphVisit) :
    ({ (cluster.visited (decide (0 < k)) s h run).2 with
        rt := ranTo (cluster.visited (decide (0 < k)) s h run).2.rt h.message.payload (k - 1) vs } :
          Shared) =
      { s with
        rt := ranTo s.rt h.message.payload k (cluster.visit run s.rt.world :: vs) } :=
  congrArg (fun rt => ({ s with rt := rt } : Shared)) (ranTo_cons _ _ _ _ _)

theorem ranTo_nil (rt : Runtime) (payload : JobPayload) (k : Nat) : ranTo rt payload k [] = rt := by
  unfold ranTo
  rw [List.take_nil]
  rfl

/-- Some visits of a handler that is left alone. -/
theorem actAll_visits (vs : List GraphVisit) {rest : List GraphVisit} (k : Nat)
    (hphase : h.phase = .running run) (hresults : run.results = []) (hlimit : 0 < run.limit)
    (hvisits : ((buildProductionGraph cluster.worker.deps).execute run.limit run.node run.state
      s.rt.world).1 = vs ++ rest) :
    ∃ h', cluster.system.actAll s h (visitsSteps k vs) =
        some (h', { s with rt := ranTo s.rt h.message.payload k vs }) ∧
      StandsAt h h' vs rest
        ((buildProductionGraph cluster.worker.deps).execute run.limit run.node run.state
          s.rt.world).2 (StateGraph.worldAfter s.rt.world vs) := by
  obtain ⟨left, hleft⟩ : ∃ left, run.limit = left + 1 := ⟨run.limit - 1, by omega⟩
  -- the run is followed edge by edge; `left` is what remains of its limit
  induction vs generalizing s h run k left with
  | nil =>
      refine ⟨h, ?_, ⟨h.phase, rfl⟩, ?_, fun _ hne => absurd rfl hne⟩
      · rw [ranTo_nil]
        rfl
      · intro v rest' hrest
        obtain ⟨more, hhead, -⟩ := (buildProductionGraph cluster.worker.deps).execute_succ_head left
          run.node run.state s.rt.world
        rw [hleft, List.nil_append, hrest] at hvisits
        have hv : v = cluster.visit run s.rt.world :=
          (List.cons.inj (hvisits.symm.trans hhead)).1
        rw [hv]
        refine ⟨rfl, run.limit, ?_⟩
        rw [hphase]
        cases run
        simp only at hresults
        rw [hresults]
        rfl
  | cons v vs ih =>
      have hvisit : cluster.system.actAll s h
          (visitSteps (decide (0 < k)) (cluster.visit run s.rt.world)) =
            some (cluster.visited (decide (0 < k)) s h run) := actAll_visit _ hphase hresults
      rcases cluster.visit_cases hleft s.rt.world with
        ⟨ending, hexecute, hnext⟩ | ⟨n, hpos, hexecute, hnext⟩
      · rw [hexecute] at hvisits ⊢
        obtain ⟨rfl, htail⟩ := List.cons.inj hvisits
        obtain ⟨rfl, rfl⟩ := List.append_eq_nil_iff.1 htail.symm
        refine ⟨(cluster.visited (decide (0 < k)) s h run).1, ?_, ⟨_, rfl⟩, ?_, fun _ _ => hnext⟩
        · rw [visitsSteps, Interleaving.actAll_append hvisit, ← visited_ranTo, ranTo_nil]
          rfl
        · intro v rest' hrest
          cases hrest
      · rw [hexecute] at hvisits ⊢
        obtain ⟨rfl, htail⟩ := List.cons.inj hvisits
        obtain ⟨left', rfl⟩ : ∃ left', left = left' + 1 := ⟨left - 1, by omega⟩
        have hworld : (cluster.visited (decide (0 < k)) s h run).2.rt.world =
            (cluster.visit run s.rt.world).worldAfter := visited_world _
        obtain ⟨h', hact, hstands⟩ := @ih (cluster.visited (decide (0 < k)) s h run).2
          (cluster.visited (decide (0 < k)) s h run).1
          { node := n, state := (cluster.visit run s.rt.world).post, limit := left' + 1 } (k - 1)
          hnext rfl hpos (by rw [hworld]; exact htail) left' rfl
        refine ⟨h', ?_, ?_, ?_, ?_⟩
        · rw [visitsSteps, Interleaving.actAll_append hvisit, ← visited_ranTo]
          exact hact
        · obtain ⟨phase, hsame⟩ := hstands.same
          exact ⟨phase, hsame⟩
        · intro v rest' hrest
          have hthere := hstands.next v rest' hrest
          rw [hworld] at hthere
          exact hthere
        · intro hnil _
          have hne : vs ≠ [] := by
            intro hvs
            obtain ⟨more, hhead, -⟩ := (buildProductionGraph cluster.worker.deps).execute_succ_head
              left' n (cluster.visit run s.rt.world).post (cluster.visit run s.rt.world).worldAfter
            rw [hvs, hnil, hhead] at htail
            cases htail
          have hended := hstands.ended hnil hne
          rw [hworld] at hended
          exact hended

/-! ## Deliveries -/

/-- The handler of a complete job, when its graph starts. -/
theorem actAll_start (id : Nat) (hcomplete : payload.complete = true) (saved : Bool)
    (steps : List HandlerStep) :
    let ready : Handler := { message := ⟨id, payload⟩, phase := .ready }
    cluster.system.actAll s { message := ⟨id, payload⟩ }
        ([.start, .skipLease, .invoke saved] ++ steps) =
      cluster.system.actAll (cluster.invoke saved s ready).2 (cluster.invoke saved s ready).1
        steps := by
  intro ready
  have hstart : cluster.system.act s { message := ⟨id, payload⟩ } .start =
      some ({ message := ⟨id, payload⟩, phase := .leasing }, s) := by
    rw [system_act]
    unfold act
    simp only [hcomplete, if_true]
  rw [List.cons_append, Interleaving.actAll_cons hstart]
  rfl

theorem take_committed (result : List GraphVisit × Ending) :
    result.1.take (cluster.worker.committed result).length = cluster.worker.committed result := by
  have hprefix : cluster.worker.committed result <+: result.1 := by
    unfold JobConsumerWorker.committed
    split
    · split
      · exact List.prefix_rfl
      · exact List.dropLast_prefix _
    · exact List.prefix_rfl
  exact (List.prefix_iff_eq_take.1 hprefix).symm

/-- The checkpoints of a run whose input is saved. -/
theorem ranTo_saved (rt : Runtime) (w : World) (state : GraphState) (k : Nat)
    (vs : List GraphVisit) :
    ranTo (checkpoint true { rt with world := w } payload state) payload k vs =
      { checkpoints :=
          Function.update rt.checkpoints payload.threadId (StateGraph.stateAfter state (vs.take k))
        world := StateGraph.worldAfter w vs } := by
  unfold ranTo
  have hsaved : (checkpoint true { rt with world := w } payload state).checkpoints =
      Function.update rt.checkpoints payload.threadId state := rfl
  rw [checkpoint_world, hsaved]
  congr 1
  cases hlast : (vs.take k).getLast? with
  | none =>
      rw [List.getLast?_eq_none_iff.1 hlast]
      rfl
  | some v =>
      rw [StateGraph.stateAfter_of_getLast? hlast]
      simp only [Function.update_idem]

/-- The checkpoints of a run that saves nothing. -/
theorem ranTo_unsaved (rt : Runtime) (w : World) (state : GraphState) (vs : List GraphVisit) :
    ranTo (checkpoint false { rt with world := w } payload state) payload 0 vs =
      { checkpoints := rt.checkpoints, world := StateGraph.worldAfter w vs } := by
  unfold ranTo
  rw [checkpoint_world, List.take_zero]
  rfl

/-- The last steps of a run that came to its end. -/
theorem actAll_settle {outcome : Outcome} (hphase : h.phase = .releasing outcome)
    (htoken : h.fencingToken = none) (hkept : outcome ≠ .requeued) :
    cluster.system.actAll s h [.release .commits, .settle] =
      some ({ h with phase := .settled outcome }, s) := by
  have hrelease : cluster.system.act s h (.release .commits) =
      some ({ h with phase := .settling outcome }, s) := by
    rw [system_act]
    unfold act
    simp only [hphase, htoken]
  have hsettle : cluster.system.act s { h with phase := .settling outcome } .settle =
      some ({ h with phase := .settled outcome }, s) := by
    rw [system_act]
    unfold act
    simp only
    rw [settle, if_neg hkept]
  rw [Interleaving.actAll_cons hrelease, Interleaving.actAll_cons hsettle]
  rfl

/-- The end of a worker process. -/
theorem actAll_crash (hphase : ∀ outcome, h.phase ≠ .settled outcome) :
    cluster.system.actAll s h [.crash] =
      some ({ h with phase := .settled .requeued },
        { s with queue := s.queue ++ [h.message] }) := by
  have hcrash : cluster.system.act s h .crash = some (settle s h .requeued) := by
    rw [system_act]
    unfold act
    cases hcase : h.phase with
    | settled outcome => exact absurd hcase (hphase outcome)
    | _ => simp only
  rw [Interleaving.actAll_cons hcrash]
  rfl

section Deliver

variable {d : Delivery}

/-- The handler when its graph starts, and the graph's run. -/
def startRun (cluster : Cluster) (s : Shared) (payload : JobPayload) : GraphRun where
  node := .eligibility
  state := cluster.worker.startState payload s.rt
  limit := cluster.worker.langGraph.recursionLimit

theorem recursionLimit_pos (worker : JobConsumerWorker) : 0 < worker.langGraph.recursionLimit :=
  Nat.lt_of_lt_of_le (by decide) worker.langGraph.le_recursionLimit

theorem ainvoke_ne_nil (worker : JobConsumerWorker) (payload : JobPayload) (rt : Runtime) :
    (worker.ainvoke payload rt).1 ≠ [] := by
  obtain ⟨left, hleft⟩ : ∃ left, worker.langGraph.recursionLimit = left + 1 :=
    ⟨worker.langGraph.recursionLimit - 1, by have := recursionLimit_pos worker; omega⟩
  obtain ⟨more, hhead, -⟩ := (buildProductionGraph worker.deps).execute_succ_head left
    .eligibility (worker.startState payload rt) (JobConsumerWorker.startWorld rt)
  rw [JobConsumerWorker.ainvoke, hleft, hhead]
  simp

/-- The handler of a job when its graph starts. -/
def invoked (cluster : Cluster) (saved : Bool) (id : Nat) (payload : JobPayload) (s : Shared) :
    Handler × Shared :=
  cluster.invoke saved s { message := ⟨id, payload⟩, phase := .ready }

theorem visits_of_start (saved : Bool) (id k : Nat) {vs rest : List GraphVisit}
    (hvisits : (cluster.worker.ainvoke payload s.rt).1 = vs ++ rest) :
    ∃ h', cluster.system.actAll (cluster.invoked saved id payload s).2
          (cluster.invoked saved id payload s).1 (visitsSteps k vs) =
        some (h', { s with rt := ranTo (cluster.invoked saved id payload s).2.rt payload k vs }) ∧
      StandsAt (cluster.invoked saved id payload s).1 h' vs rest
        (cluster.worker.ainvoke payload s.rt).2
        (StateGraph.worldAfter (JobConsumerWorker.startWorld s.rt) vs) := by
  have hworld : (cluster.invoked saved id payload s).2.rt.world =
      JobConsumerWorker.startWorld s.rt := checkpoint_world _ _ _ _
  have hrun := @actAll_visits cluster (cluster.invoked saved id payload s).2
    (cluster.invoked saved id payload s).1 (cluster.startRun s payload) vs rest k rfl rfl
    (recursionLimit_pos cluster.worker) (by rw [hworld]; exact hvisits)
  rw [hworld] at hrun
  exact hrun

theorem outcomeOf_ne_requeued (ending : Ending) : outcomeOf ending ≠ .requeued := by
  cases ending <;> decide

/-- A delivery that is not cut short. -/
theorem actAll_uninterrupted (id : Nat) (hcomplete : d.payload.complete = true)
    (hruns : JobConsumerWorker.runsGraph d = true) (hwhole : d.interruption = none) :
    ∃ h', cluster.system.actAll s { message := ⟨id, d.payload⟩ } (cluster.deliverySteps s.rt d) =
        some (h', { s with rt := cluster.worker.deliver s.rt d }) ∧
      h'.message = ⟨id, d.payload⟩ ∧ h'.phase = .settled (cluster.deliveryOutcome s.rt d) := by
  obtain ⟨h', hact, hstands⟩ := @visits_of_start cluster s d.payload true id
    (cluster.worker.committed (cluster.worker.ainvoke d.payload s.rt)).length _ []
    (List.append_nil (cluster.worker.ainvoke d.payload s.rt).1).symm
  obtain ⟨phase, hsame⟩ := hstands.same
  have hended := hstands.ended rfl (ainvoke_ne_nil cluster.worker d.payload s.rt)
  have htoken : h'.fencingToken = none := by
    rw [hsame]
    rfl
  have hmessage : h'.message = ⟨id, d.payload⟩ := by
    rw [hsame]
    rfl
  have hdeliver : ranTo (cluster.invoked true id d.payload s).2.rt d.payload
      (cluster.worker.committed (cluster.worker.ainvoke d.payload s.rt)).length
      (cluster.worker.ainvoke d.payload s.rt).1 = cluster.worker.deliver s.rt d := by
    rw [invoked, invoke, ranTo_saved, take_committed]
    unfold JobConsumerWorker.deliver JobConsumerWorker.checkpointAfter
      JobConsumerWorker.persistedVisits JobConsumerWorker.worldAfter
    rw [hruns, hwhole]
    rfl
  rw [hdeliver] at hact
  have houtcome : cluster.deliveryOutcome s.rt d =
      outcomeOf (cluster.worker.ainvoke d.payload s.rt).2 := by
    rw [deliveryOutcome, if_pos hcomplete, hwhole]
    rfl
  refine ⟨{ h' with phase := .settled (outcomeOf (cluster.worker.ainvoke d.payload s.rt).2) }, ?_,
    hmessage, congrArg Phase.settled houtcome.symm⟩
  · rw [deliverySteps, if_pos hcomplete, hwhole]
    simp only
    rw [actAll_start id hcomplete]
    change cluster.system.actAll (cluster.invoked true id d.payload s).2
      (cluster.invoked true id d.payload s).1 _ = _
    rw [Interleaving.actAll_append hact]
    exact actAll_settle hended htoken (outcomeOf_ne_requeued _)

/-- The checkpoints that an interrupted delivery leaves. -/
theorem checkpoints_interrupted {i : Interruption} (id : Nat)
    (hruns : JobConsumerWorker.runsGraph d = true) (hcut : d.interruption = some i) :
    (ranTo (cluster.invoked i.persisted.isSome id d.payload s).2.rt d.payload
        (cluster.persistedCount s.rt d i)
        ((cluster.worker.ainvoke d.payload s.rt).1.take i.executed)).checkpoints =
      (cluster.worker.deliver s.rt d).checkpoints := by
  unfold JobConsumerWorker.deliver JobConsumerWorker.checkpointAfter
    JobConsumerWorker.persistedVisits persistedCount
  simp only [hruns, hcut, Bool.true_and, Option.map_some, Option.getD_some, if_true]
  rw [invoked, invoke]
  cases hpersisted : i.persisted with
  | none =>
      simp only [Option.getD_none, Nat.zero_min, Option.isSome_none, Bool.false_eq_true, if_false]
      rw [ranTo_unsaved, Function.update_eq_self]
  | some p =>
      simp only [Option.getD_some, Option.isSome_some, if_true]
      rw [ranTo_saved]
      simp only
      have htake : ((cluster.worker.ainvoke d.payload s.rt).1.take i.executed).take
          (min p (cluster.worker.committed (cluster.worker.ainvoke d.payload s.rt)).length) =
            (cluster.worker.committed (cluster.worker.ainvoke d.payload s.rt)).take
              (min i.executed p) := by
        conv_rhs => rw [← take_committed (cluster.worker.ainvoke d.payload s.rt)]
        rw [List.take_take, List.take_take]
        congr 1
        omega
      rw [htake]

theorem world_interrupted {i : Interruption} (hruns : JobConsumerWorker.runsGraph d = true)
    (hcut : d.interruption = some i) {v : GraphVisit}
    (hv : (cluster.worker.ainvoke d.payload s.rt).1[i.executed]? = some v) :
    (cluster.worker.deliver s.rt d).world = cluster.worker.interruptedWorld v i.toolCalls := by
  unfold JobConsumerWorker.deliver JobConsumerWorker.worldAfter
  simp only [hruns, hcut, if_true, hv]

theorem world_completed {i : Interruption} (hruns : JobConsumerWorker.runsGraph d = true)
    (hcut : d.interruption = some i)
    (hv : (cluster.worker.ainvoke d.payload s.rt).1[i.executed]? = none) :
    (cluster.worker.deliver s.rt d).world =
      StateGraph.worldAfter (JobConsumerWorker.startWorld s.rt)
        (cluster.worker.ainvoke d.payload s.rt).1 := by
  unfold JobConsumerWorker.deliver JobConsumerWorker.worldAfter
  simp only [hruns, hcut, if_true, hv]

/-- The tool calls of the visit that is interrupted. -/
theorem actAll_interruptedSteps {v : GraphVisit} {limit : Nat} (toolCalls : Nat)
    (hphase : h.phase = .running { node := v.node, state := v.pre, limit := limit })
    (hworld : s.rt.world = v.worldBefore) :
    ∃ run, cluster.system.actAll s h (interruptedSteps toolCalls v) =
      some ({ h with phase := .running run },
        { s with
          rt := { s.rt with world := cluster.worker.interruptedWorld v toolCalls } }) := by
  unfold interruptedSteps JobConsumerWorker.interruptedWorld
  by_cases hnode : v.node = .toolExecutor
  · rw [if_pos hnode, if_pos hnode]
    have hsplit : pending { node := v.node, state := v.pre, limit := limit } =
        [] ++ (v.pre.toolCallsPending.getD []).take toolCalls ++
          (v.pre.toolCallsPending.getD []).drop toolCalls :=
      (List.take_append_drop toolCalls _).symm
    have hcalls := @actAll_toolCalls cluster s h _ _ _ _ hphase hnode hsplit rfl
    unfold calledHandler calledShared callAll at hcalls
    rw [hworld] at hcalls
    exact ⟨_, hcalls⟩
  · rw [if_neg hnode, if_neg hnode, ← hworld]
    refine ⟨{ node := v.node, state := v.pre, limit := limit }, ?_⟩
    rw [← hphase]
    rfl

/-- The steps after the visits of a delivery that is cut short. -/
theorem actAll_cut {i : Interruption} (hruns : JobConsumerWorker.runsGraph d = true)
    (hcut : d.interruption = some i) {h₁ : Handler} {t : Shared}
    (hstands : StandsAt h h₁ ((cluster.worker.ainvoke d.payload s.rt).1.take i.executed)
      ((cluster.worker.ainvoke d.payload s.rt).1.drop i.executed)
      (cluster.worker.ainvoke d.payload s.rt).2 t.rt.world)
    (hworld : t.rt.world = StateGraph.worldAfter (JobConsumerWorker.startWorld s.rt)
      ((cluster.worker.ainvoke d.payload s.rt).1.take i.executed)) :
    ∃ phase, cluster.system.actAll t h₁
        ((cluster.worker.ainvoke d.payload s.rt).1[i.executed]?.elim []
          (interruptedSteps i.toolCalls)) =
      some ({ h with phase := phase },
        { t with rt := { t.rt with world := (cluster.worker.deliver s.rt d).world } }) ∧
      ∀ outcome, phase ≠ .settled outcome := by
  obtain ⟨phase, rfl⟩ := hstands.same
  cases hv : (cluster.worker.ainvoke d.payload s.rt).1[i.executed]? with
  | some v =>
      obtain ⟨hlt, hget⟩ := List.getElem?_eq_some_iff.1 hv
      have hrest : (cluster.worker.ainvoke d.payload s.rt).1.drop i.executed =
          v :: (cluster.worker.ainvoke d.payload s.rt).1.drop (i.executed + 1) := by
        rw [List.drop_eq_getElem_cons hlt, hget]
      obtain ⟨hbefore, limit, hphase⟩ := hstands.next v _ hrest
      obtain ⟨run, hact⟩ := @actAll_interruptedSteps cluster t _ v limit i.toolCalls hphase
        hbefore.symm
      rw [world_interrupted hruns hcut hv]
      refine ⟨.running run, hact, ?_⟩
      intro outcome hsettled
      cases hsettled
  | none =>
      have hle : (cluster.worker.ainvoke d.payload s.rt).1.length ≤ i.executed :=
        List.getElem?_eq_none_iff.1 hv
      have hwhole : (cluster.worker.ainvoke d.payload s.rt).1.take i.executed =
          (cluster.worker.ainvoke d.payload s.rt).1 := List.take_of_length_le hle
      have hended := hstands.ended (List.drop_eq_nil_of_le hle)
        (by rw [hwhole]; exact ainvoke_ne_nil cluster.worker d.payload s.rt)
      have hsame : (cluster.worker.deliver s.rt d).world = t.rt.world := by
        rw [world_completed hruns hcut hv, hworld, hwhole]
      refine ⟨phase, ?_, ?_⟩
      · rw [hsame]
        rfl
      · intro outcome hsettled
        rw [show phase = _ from hended] at hsettled
        cases hsettled

/-- A delivery that is cut short. -/
theorem actAll_interrupted {i : Interruption} (id : Nat) (hcomplete : d.payload.complete = true)
    (hruns : JobConsumerWorker.runsGraph d = true) (hcut : d.interruption = some i) :
    ∃ h', cluster.system.actAll s { message := ⟨id, d.payload⟩ } (cluster.deliverySteps s.rt d) =
        some (h', { s with
          rt := cluster.worker.deliver s.rt d
          queue := s.queue ++ [⟨id, d.payload⟩] }) ∧
      h'.message = ⟨id, d.payload⟩ ∧ h'.phase = .settled (cluster.deliveryOutcome s.rt d) := by
  obtain ⟨h₁, hact, hstands⟩ := @visits_of_start cluster s d.payload i.persisted.isSome id
    (cluster.persistedCount s.rt d i) _ _
    (List.take_append_drop i.executed (cluster.worker.ainvoke d.payload s.rt).1).symm
  have hworld : (ranTo (cluster.invoked i.persisted.isSome id d.payload s).2.rt d.payload
      (cluster.persistedCount s.rt d i)
      ((cluster.worker.ainvoke d.payload s.rt).1.take i.executed)).world =
        StateGraph.worldAfter (JobConsumerWorker.startWorld s.rt)
          ((cluster.worker.ainvoke d.payload s.rt).1.take i.executed) :=
    congrArg (StateGraph.worldAfter · _) (checkpoint_world _ _ _ _)
  rw [← hworld] at hstands
  obtain ⟨phase, hleft, hunsettled⟩ := actAll_cut
    (t := { s with
      rt := ranTo (cluster.invoked i.persisted.isSome id d.payload s).2.rt d.payload
        (cluster.persistedCount s.rt d i)
        ((cluster.worker.ainvoke d.payload s.rt).1.take i.executed) }) hruns hcut hstands hworld
  have hcheckpoints := @checkpoints_interrupted cluster s d i id hruns hcut
  have houtcome : cluster.deliveryOutcome s.rt d = .requeued := by
    rw [deliveryOutcome, if_pos hcomplete, hcut]
    rfl
  refine ⟨{ (cluster.invoked i.persisted.isSome id d.payload s).1 with
    phase := .settled .requeued }, ?_, rfl, congrArg Phase.settled houtcome.symm⟩
  rw [deliverySteps, if_pos hcomplete, hcut]
  simp only
  rw [actAll_start id hcomplete]
  change cluster.system.actAll (cluster.invoked i.persisted.isSome id d.payload s).2
    (cluster.invoked i.persisted.isSome id d.payload s).1 _ = _
  rw [Interleaving.actAll_append hact, Interleaving.actAll_append hleft,
    actAll_crash hunsettled]
  simp only [hcheckpoints]
  rfl

/-- A delivery whose payload lacks an id. -/
theorem actAll_incomplete (id : Nat) (hincomplete : d.payload.complete = false) :
    ∃ h', cluster.system.actAll s { message := ⟨id, d.payload⟩ } (cluster.deliverySteps s.rt d) =
        some (h', s) ∧
      h'.message = ⟨id, d.payload⟩ ∧ h'.phase = .settled (cluster.deliveryOutcome s.rt d) := by
  have hno : ¬ d.payload.complete = true := by rw [hincomplete]; exact Bool.false_ne_true
  have hstart : cluster.system.act s { message := ⟨id, d.payload⟩ } .start =
      some ({ message := ⟨id, d.payload⟩, phase := .settling .acked }, s) := by
    rw [system_act]
    unfold act
    simp only [if_neg hno]
  have hsettle : cluster.system.act s
      { message := ⟨id, d.payload⟩, phase := .settling .acked } .settle =
      some ({ message := ⟨id, d.payload⟩, phase := .settled .acked }, s) := rfl
  refine ⟨{ message := ⟨id, d.payload⟩, phase := .settled .acked }, ?_, rfl, ?_⟩
  · rw [deliverySteps, if_neg hno, Interleaving.actAll_cons hstart,
      Interleaving.actAll_cons hsettle]
    rfl
  · rw [deliveryOutcome, if_neg hno]

end Deliver

end Cluster

end Iara.Workers
