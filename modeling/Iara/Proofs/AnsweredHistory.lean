import Iara.Graph.ToolHistory
import Iara.Workers.History
import Mathlib.Data.List.Chain

/-!
# Answered requests

A request of the agent is answered in the history if its calls have ids, the
thread is not held, and the run is not interrupted before the tools.  Nothing
the conversation does later makes up for a missing answer.
-/

namespace Iara.Workers

open Iara.Lib Iara.Persistence Iara.Graph

/-! ## Condition -/

/-- The calls that the model asks for in a visit of the agent. -/
def requestsOf (worker : JobConsumerWorker) (v : GraphVisit) : List LlmToolCall :=
  if v.node = .agent then requestedCalls (some worker.deps.llm) v.pre v.worldBefore else []

/-- The model asks for tools on a thread that is not held, with an id for every
call. -/
structure AnswerableVisit (worker : JobConsumerWorker) (v : GraphVisit) : Prop where
  notHeld : v.pre.held = false
  ids : ∀ tc ∈ requestsOf worker v, PyStr.truthyOption tc.id = true

/-- Every request of the delivery is answerable, and no interruption falls between
a request and its tools. -/
structure Answerable (worker : JobConsumerWorker) (rt : Runtime) (d : Delivery) : Prop where
  visits : ∀ v ∈ worker.persistedVisits rt d, requestsOf worker v ≠ [] → AnswerableVisit worker v
  last : d.interruption ≠ none →
    ∀ v ∈ (worker.persistedVisits rt d).getLast?, requestsOf worker v = []

instance (worker : JobConsumerWorker) (v : GraphVisit) : Decidable (AnswerableVisit worker v) :=
  decidable_of_iff (v.pre.held = false ∧ ∀ tc ∈ requestsOf worker v,
    PyStr.truthyOption tc.id = true) ⟨fun h => ⟨h.1, h.2⟩, fun h => ⟨h.1, h.2⟩⟩

instance (worker : JobConsumerWorker) (rt : Runtime) (d : Delivery) :
    Decidable (Answerable worker rt d) :=
  decidable_of_iff ((∀ v ∈ worker.persistedVisits rt d, requestsOf worker v ≠ [] →
      AnswerableVisit worker v) ∧ (d.interruption ≠ none →
    ∀ v ∈ (worker.persistedVisits rt d).getLast?, requestsOf worker v = []))
    ⟨fun h => ⟨h.1, h.2⟩, fun h => ⟨h.1, h.2⟩⟩

/-! ## One visit -/

section Visits

variable {worker : JobConsumerWorker} {v : GraphVisit} {s : GraphState} {n n' : Node} {w : World}

/-- What the history is ahead of a visit: ahead of the tools it ends with the
request that they are to answer. -/
def ReadyAt (n : Node) (s : GraphState) : Prop :=
  match n with
  | .agent => s.failed = false ∧ Answered s.history
  | .toolExecutor => ∃ before content calls, s.history = before ++ [.assistant content calls] ∧
      Answered before ∧ calls ≠ [] ∧ (∀ tc ∈ calls, PyStr.truthyOption tc.id = true) ∧
      s.toolCallsPending = some (pendingOf calls)
  | _ => Answered s.history

theorem answered_of_readyAt (h : ReadyAt n s) (htools : n ≠ .toolExecutor) :
    Answered s.history := by
  cases n with
  | agent => exact h.2
  | toolExecutor => exact absurd rfl htools
  | _ => exact h

/-- A request and the answers of the tools to it. -/
theorem answered_of_answers
    (hready : ReadyAt .toolExecutor s) :
    Answered (s.merge (runNode worker.deps.deps .toolExecutor s w).1).history := by
  obtain ⟨before, content, calls, hhistory, hbefore, hcalls, hids, hpending⟩ := hready
  have hanswers : (leadingAnswers (answersOf worker.deps.deps s w)).map some =
      calls.map LlmToolCall.id :=
    leadingAnswers_answersOf rfl hpending hcalls hids
  have hall : Answered (answersOf worker.deps.deps s w) :=
    answered_of_toolMessages fun _ hm => answersOf_toolMessages hm
  have hpost : (s.merge (runNode worker.deps.deps .toolExecutor s w).1).history =
      before ++ .assistant content calls :: answersOf worker.deps.deps s w := by
    rw [GraphState.history_merge, hhistory, List.append_assoc]
    rfl
  rw [hpost]
  exact hbefore.append rfl ⟨fun _ => hanswers, hall⟩

/-- A visit that is not a request leaves a history without a pending request. -/
theorem answered_post (hready : ReadyAt n s)
    (hnone : n = .agent → requestedCalls (some worker.deps.llm) s w = []) :
    Answered (s.merge (runNode worker.deps.deps n s w).1).history := by
  by_cases htools : n = .toolExecutor
  · subst htools
    exact answered_of_answers hready
  · have hanswered := answered_of_readyAt hready htools
    by_cases hagent : n = .agent
    · subst hagent
      have houtcome := agentNode_outcome (some worker.deps.llm) s w
      change Answered (s.merge (agentNode (some worker.deps.llm) s w).1).history
      rw [GraphState.history_merge]
      generalize (agentNode (some worker.deps.llm) s w).1 = u at houtcome
      cases houtcome with
      | requested hcalls text content => exact absurd (hnone rfl) hcalls
      | answered hnone text appended happended =>
          refine hanswered.append_texts fun m hm => ?_
          obtain ⟨content, hm⟩ := happended m hm
          exact ⟨content, Or.inr hm⟩
      | text hnone text => exact hanswered.append_texts (by simp)
      | failed hnone exception => exact hanswered.append_texts (by simp)
    · rw [GraphState.history_merge,
        (runNode_update worker.deps.deps n s w).messages hagent htools]
      exact hanswered.append_texts (by simp)

/-- The state after a request. -/
theorem post_of_requested (hcalls : requestedCalls (some worker.deps.llm) s w ≠ []) :
    ∃ text content, (runNode worker.deps.deps .agent s w).1 =
      { agentResponse := some text
        toolCallsPending := some (pendingOf (requestedCalls (some worker.deps.llm) s w))
        messages := some [.assistant content (requestedCalls (some worker.deps.llm) s w)]
        stepCount := some (s.steps + 1) } := by
  have houtcome := agentNode_outcome (some worker.deps.llm) s w
  change ∃ text content, (agentNode (some worker.deps.llm) s w).1 = _
  generalize (agentNode (some worker.deps.llm) s w).1 = u at houtcome
  cases houtcome with
  | requested hcalls text content => exact ⟨text, content, rfl⟩
  | text hnone text => exact absurd hnone hcalls
  | failed hnone exception => exact absurd hnone hcalls
  | answered hnone text appended happended => exact absurd hnone hcalls

/-- After a request of a thread that has not failed, the flag of the hold decides
where the run goes. -/
theorem route_of_requested (hready : ReadyAt .agent s)
    (hcalls : requestedCalls (some worker.deps.llm) s w ≠ []) :
    route .agent (s.merge (runNode worker.deps.deps .agent s w).1) =
      if s.held = true then some .finish else some (.goto .toolExecutor) := by
  obtain ⟨text, content, hupdate⟩ := post_of_requested hcalls
  rw [hupdate]
  have hpending : pendingOf (requestedCalls (some worker.deps.llm) s w) ≠ [] := by
    simpa [pendingOf] using hcalls
  have hfailed : PyStr.truthyOption s.error = false := hready.1
  by_cases hheld : s.held = true
  · have hflag : s.hitlRequested.getD false = true := hheld
    simp [route, shouldContinueAfterAgent, GraphState.failed, GraphState.held, GraphState.merge,
      hfailed, hflag, agentPaths]
  · have hflag : s.hitlRequested.getD false = false := by simpa [GraphState.held] using hheld
    simp [route, shouldContinueAfterAgent, GraphState.failed, GraphState.held, GraphState.merge,
      hfailed, hflag, hpending, agentPaths]

/-- An edge into the agent is there without an error only. -/
theorem failed_of_route_agent (h : route n s = some (.goto .agent)) : s.failed = false := by
  have hedge := edge_of_route h
  cases hedge with
  | context =>
      by_contra hfailed
      rw [Bool.not_eq_false] at hfailed
      simp [route, shouldContinueAfterContext, hfailed, contextPaths] at h
  | results =>
      by_contra hfailed
      rw [Bool.not_eq_false] at hfailed
      simp [route, shouldContinueAfterTools, hfailed, toolPaths] at h

/-- Every edge leads from a ready visit to a ready one, as long as the requests
have ids. -/
theorem readyAt_of_route (hready : ReadyAt n s)
    (hids : n = .agent → ∀ tc ∈ requestedCalls (some worker.deps.llm) s w,
      PyStr.truthyOption tc.id = true)
    (hroute : route n (s.merge (runNode worker.deps.deps n s w).1) = some (.goto n')) :
    ReadyAt n' (s.merge (runNode worker.deps.deps n s w).1) := by
  by_cases htools : n' = .toolExecutor
  · subst htools
    have hedge := edge_of_route hroute
    cases hedge
    have hcalls := requested_of_route hroute
    obtain ⟨text, content, hupdate⟩ := post_of_requested hcalls
    rw [hupdate]
    exact ⟨s.history, content, _, rfl, hready.2, hcalls, hids rfl, rfl⟩
  · have hanswered : Answered (s.merge (runNode worker.deps.deps n s w).1).history := by
      refine answered_post hready fun hagent => ?_
      subst hagent
      by_contra hcalls
      rw [route_of_requested hready hcalls] at hroute
      split at hroute
      · cases hroute
      · cases hroute
        exact htools rfl
    cases n' with
    | agent => exact ⟨failed_of_route_agent hroute, hanswered⟩
    | toolExecutor => exact absurd rfl htools
    | _ => exact hanswered

/-- A visit appends to the history, and tool messages with ids only. -/
theorem appended_post (worker : JobConsumerWorker) (n : Node) (s : GraphState) (w : World) :
    ∃ more, (s.merge (runNode worker.deps.deps n s w).1).history = s.history ++ more ∧
      ∀ id content, Graph.Message.tool id content ∈ more → PyStr.truthy id = true := by
  refine ⟨_, GraphState.history_merge _ _, fun id content hm => ?_⟩
  by_cases htools : n = .toolExecutor
  · subst htools
    have hanswer : Graph.Message.tool id content ∈ answersOf worker.deps.deps s w := hm
    obtain ⟨id', content', heq, hid⟩ := answersOf_toolMessages hanswer
    cases heq
    exact hid
  · by_cases hagent : n = .agent
    · subst hagent
      have houtcome := agentNode_outcome (some worker.deps.llm) s w
      change Graph.Message.tool id content ∈
        ((agentNode (some worker.deps.llm) s w).1.messages).getD [] at hm
      generalize (agentNode (some worker.deps.llm) s w).1 = u at houtcome hm
      cases houtcome with
      | answered hnone text appended happended =>
          obtain ⟨content', heq⟩ := happended _ hm
          cases heq
      | requested hcalls text content' => simp at hm
      | text hnone text => simp at hm
      | failed hnone exception => simp at hm
    · rw [(runNode_update worker.deps.deps n s w).messages hagent htools] at hm
      cases hm

/-- The agent of a held thread leads nowhere. -/
theorem route_agent_of_held (h : s.held = true) : route .agent s ≠ some (.goto n') := by
  simp only [route, shouldContinueAfterAgent, h, if_true]
  split <;> simp [agentPaths]

end Visits

/-! ## One delivery -/

section Deliveries

variable {worker : JobConsumerWorker} {rt : Runtime} {d : Delivery} {v : GraphVisit}
  {before after : List GraphVisit}

theorem post_of_persisted (hv : v ∈ worker.persistedVisits rt d) :
    v.post = v.pre.merge (runNode worker.deps.deps v.node v.pre v.worldBefore).1 :=
  congrArg Visit.post (visit_effect (JobConsumerWorker.persistedVisits_subset hv)).2

theorem isChain_persisted (worker : JobConsumerWorker) (rt : Runtime) (d : Delivery) :
    List.IsChain (buildProductionGraph worker.deps).Follows (worker.persistedVisits rt d) := by
  obtain ⟨k, htake⟩ := worker.persistedVisits_eq_take rt d
  rw [htake]
  exact ((buildProductionGraph worker.deps).isChain_execute _ _ _ _).take k

theorem answered_startState (h : Answered (rt.checkpoints d.payload.threadId).history) :
    Answered (worker.startState d.payload rt).history := by
  refine h.append_texts fun m hm => ?_
  simp only [JobPayload.initialState, Option.getD_some] at hm
  split at hm
  · exact ⟨_, Or.inl (List.mem_singleton.1 hm)⟩
  · cases hm

/-- As long as the requests are answerable, every persisted visit is ready. -/
theorem readyAt_of_persisted (hstart : Answered (rt.checkpoints d.payload.threadId).history)
    (hvisits : ∀ v ∈ worker.persistedVisits rt d, requestsOf worker v ≠ [] →
      AnswerableVisit worker v) (hv : v ∈ worker.persistedVisits rt d) :
    ReadyAt v.node v.pre := by
  obtain ⟨k, htake⟩ := worker.persistedVisits_eq_take rt d
  rw [htake] at hv hvisits
  have hready : ReadyAt .eligibility (worker.startState d.payload rt) := answered_startState hstart
  refine (buildProductionGraph worker.deps).take_invariant (P := fun n s _ => ReadyAt n s)
    (Q := fun v => requestsOf worker v ≠ [] → AnswerableVisit worker v) ?_
    hready hvisits v hv
  intro n s w n' hready hanswerable hroute
  refine readyAt_of_route hready (fun hagent tc htc => ?_) hroute
  have hrequests : requestsOf worker ((buildProductionGraph worker.deps).superstep n s w) =
      requestedCalls (some worker.deps.llm) s w := if_pos hagent
  rw [hrequests] at hanswerable
  refine (hanswerable (List.ne_nil_of_mem htc)).ids tc ?_
  rw [hrequests]
  exact htc

theorem route_toolExecutor_ne_none (s : GraphState) : route .toolExecutor s ≠ none := by
  simp only [route, shouldContinueAfterTools]
  split <;> simp [toolPaths]

/-- A run that is not interrupted does not stop ahead of the tools. -/
theorem route_of_last_persisted (hwhole : d.interruption = none)
    (hlast : (worker.persistedVisits rt d).getLast? = some v) :
    route v.node v.post ≠ some (.goto .toolExecutor) := by
  let g := buildProductionGraph worker.deps
  have hruns : JobConsumerWorker.runsGraph d = true := by
    by_contra hnot
    simp [JobConsumerWorker.persistedVisits, hnot] at hlast
  have hends : (worker.ainvoke d.payload rt).2 ≠ .recursionLimit :=
    run_terminates (Nat.lt_of_lt_of_le (by decide) worker.langGraph.le_recursionLimit)
  have hpersisted : worker.persistedVisits rt d =
      worker.committed (worker.ainvoke d.payload rt) := by
    simp [JobConsumerWorker.persistedVisits, hruns, hwhole]
  have hlast_of_run : (worker.ainvoke d.payload rt).1.getLast? = some v →
      route v.node v.post ≠ some (.goto .toolExecutor) := by
    intro hv htools
    rcases g.route_of_last hv with ⟨-, hroute⟩ | ⟨-, hroute⟩ | hlimit
    · cases htools.symm.trans hroute
    · cases htools.symm.trans hroute
    · exact hends hlimit
  rw [hpersisted, JobConsumerWorker.committed] at hlast
  split at hlast
  next hfailed =>
    split at hlast
    · exact hlast_of_run hlast
    · -- the visit that is not committed has no edge out of it, so it is not the tools
      intro htools
      obtain ⟨before, hbefore⟩ := List.getLast?_eq_some_iff.1 hlast
      have hne : (worker.ainvoke d.payload rt).1 ≠ [] := by
        intro hempty
        simp [hempty] at hlast
      have hsplit := List.dropLast_append_getLast hne
      rw [hbefore, List.append_assoc] at hsplit
      have hchain := g.isChain_execute worker.langGraph.recursionLimit .eligibility
        (worker.startState d.payload rt) (JobConsumerWorker.startWorld rt)
      change List.IsChain g.Follows (worker.ainvoke d.payload rt).1 at hchain
      rw [← hsplit] at hchain
      have hfollows := (List.isChain_append_cons_cons.1 hchain).2.1
      have hnode := Option.some.inj (hfollows.route.symm.trans htools)
      rcases g.route_of_last (List.getLast?_eq_getLast_of_ne_nil hne) with
        ⟨-, hroute⟩ | ⟨hfinished, -⟩ | hlimit
      · rw [Next.goto.inj hnode] at hroute
        exact route_toolExecutor_ne_none _ hroute
      · cases hfailed.symm.trans hfinished
      · exact hends hlimit
  next => exact hlast_of_run hlast

/-- A delivery whose requests are answerable leaves a history that answers them. -/
theorem answered_checkpointAfter (hstart : Answered (rt.checkpoints d.payload.threadId).history)
    (h : Answerable worker rt d) : Answered (worker.checkpointAfter rt d).history := by
  rcases worker.checkpointAfter_eq rt d with hsame | hafter
  · rw [hsame]
    exact hstart
  · rw [hafter]
    cases hlast : (worker.persistedVisits rt d).getLast? with
    | none =>
        rw [List.getLast?_eq_none_iff.1 hlast]
        exact answered_startState hstart
    | some v =>
        have hv := List.mem_of_getLast? hlast
        have hready := readyAt_of_persisted hstart h.visits hv
        rw [StateGraph.stateAfter_of_getLast? hlast, post_of_persisted hv]
        refine answered_post hready fun hagent => ?_
        by_contra hcalls
        have hrequests : requestsOf worker v ≠ [] := by
          rw [requestsOf, if_pos hagent]
          exact hcalls
        by_cases hwhole : d.interruption = none
        · have hroute := route_of_last_persisted hwhole hlast
          rw [post_of_persisted hv, hagent] at hroute
          rw [hagent] at hready
          rw [route_of_requested hready hcalls, (h.visits v hv hrequests).notHeld] at hroute
          exact hroute rfl
        · exact hrequests (h.last hwhole v hlast)

/-! ## Missing answers -/

/-- What the visits after a visit append to the history. -/
theorem history_of_visits (hsubset : ∀ u ∈ after, u ∈ worker.persistedVisits rt d)
    (hchain : List.IsChain (buildProductionGraph worker.deps).Follows (v :: after)) :
    ∃ more, (StateGraph.stateAfter v.post after).history = v.post.history ++ more ∧
      (∀ id content, Graph.Message.tool id content ∈ more → PyStr.truthy id = true) ∧
      (after = [] → more = []) := by
  induction after generalizing v with
  | nil => exact ⟨[], (List.append_nil _).symm, by simp, fun _ => rfl⟩
  | cons u rest ih =>
      rw [List.isChain_cons_cons] at hchain
      obtain ⟨hfollows, hrest⟩ := hchain
      obtain ⟨more, hmore, hids, -⟩ :=
        ih (fun u' hu' => hsubset u' (List.mem_cons_of_mem _ hu')) hrest
      obtain ⟨own, hown, hownIds⟩ := appended_post worker u.node u.pre u.worldBefore
      rw [← post_of_persisted (hsubset u List.mem_cons_self), hfollows.pre] at hown
      refine ⟨own ++ more, ?_, fun id content hm => ?_, by simp⟩
      · rw [StateGraph.stateAfter_cons, hmore, hown, List.append_assoc]
      · rcases List.mem_append.1 hm with hm | hm
        · exact hownIds id content hm
        · exact hids id content hm

theorem mem_of_mem_leadingAnswers {messages : List Graph.Message} {id : String}
    (h : id ∈ leadingAnswers messages) : ∃ content, Graph.Message.tool id content ∈ messages := by
  induction messages with
  | nil => cases h
  | cons m rest ih =>
      cases m with
      | tool id' content =>
          rcases List.mem_cons.1 h with rfl | h
          · exact ⟨content, List.mem_cons_self⟩
          · obtain ⟨content', hm⟩ := ih h
            exact ⟨content', List.mem_cons_of_mem _ hm⟩
      | _ => cases h

/-- Where the checkpoint answers a request of the delivery, the ids of the calls
are those of the messages that the visits after it append. -/
theorem answers_of_request (h : Answered (worker.checkpointAfter rt d).history)
    (hsplit : worker.persistedVisits rt d = before ++ v :: after)
    (hrequests : requestsOf worker v ≠ []) :
    (∀ tc ∈ requestsOf worker v, PyStr.truthyOption tc.id = true) ∧ after ≠ [] := by
  have hv : v ∈ worker.persistedVisits rt d := by
    rw [hsplit]
    exact List.mem_append_right _ List.mem_cons_self
  have hagent : v.node = .agent := by
    by_contra hnot
    exact hrequests (if_neg hnot)
  have hcalls : requestsOf worker v =
      requestedCalls (some worker.deps.llm) v.pre v.worldBefore := if_pos hagent
  rw [hcalls] at hrequests ⊢
  have hchain := isChain_persisted worker rt d
  rw [hsplit] at hchain
  have hafter : ∀ u ∈ after, u ∈ worker.persistedVisits rt d := by
    intro u hu
    rw [hsplit]
    exact List.mem_append_right _ (List.mem_cons_of_mem _ hu)
  obtain ⟨more, hmore, hids, hnone⟩ := history_of_visits hafter (List.isChain_append.1 hchain).2.1
  obtain ⟨text, content, hupdate⟩ := post_of_requested hrequests
  have hpost : v.post.history = v.pre.history ++ [.assistant content
      (requestedCalls (some worker.deps.llm) v.pre v.worldBefore)] := by
    rw [post_of_persisted hv, hagent, hupdate]
    rfl
  rw [JobConsumerWorker.checkpointAfter_of_mem hv, hsplit, StateGraph.stateAfter_append,
    StateGraph.stateAfter_cons, hmore, hpost, List.append_assoc] at h
  have hanswers := h.right.1 hrequests
  refine ⟨fun tc htc => ?_, fun hlast => ?_⟩
  · have hid := List.mem_map_of_mem (f := LlmToolCall.id) htc
    rw [← hanswers] at hid
    obtain ⟨id, hmem, hid⟩ := List.mem_map.1 hid
    obtain ⟨content', hm⟩ := mem_of_mem_leadingAnswers hmem
    rw [← hid]
    exact hids id content' hm
  · have hempty : leadingAnswers more = [] := by
      rw [hnone hlast]
      rfl
    change (leadingAnswers more).map some = _ at hanswers
    rw [hempty] at hanswers
    exact hrequests (List.map_eq_nil_iff.1 hanswers.symm)

/-- A delivery that leaves a history that answers its requests has answerable ones
only. -/
theorem answerable_of_checkpointAfter (h : Answered (worker.checkpointAfter rt d).history) :
    Answerable worker rt d where
  visits v hv hrequests := by
    obtain ⟨before, after, hsplit⟩ := List.append_of_mem hv
    obtain ⟨hids, hmore⟩ := answers_of_request h hsplit hrequests
    refine ⟨?_, hids⟩
    by_contra hheld
    rw [Bool.not_eq_false] at hheld
    obtain ⟨u, rest, rfl⟩ := List.exists_cons_of_ne_nil hmore
    have hchain := isChain_persisted worker rt d
    rw [hsplit] at hchain
    have hfollows := (List.isChain_append_cons_cons.1 hchain).2.1
    have hagent : v.node = .agent := by
      by_contra hnot
      exact hrequests (if_neg hnot)
    have hpost : v.post.held = true := by
      rw [post_of_persisted hv]
      exact held_merge (runNode_update _ _ _ _) hheld
    have hroute := hfollows.route
    rw [hagent] at hroute
    exact route_agent_of_held hpost hroute
  last _ v hlast := by
    obtain ⟨before, hsplit⟩ := List.getLast?_eq_some_iff.1 hlast
    by_contra hrequests
    exact (answers_of_request h hsplit hrequests).2 rfl

theorem answered_deliver_iff (hstart : ∀ threadId, Answered (rt.checkpoints threadId).history) :
    (∀ threadId, Answered ((worker.deliver rt d).checkpoints threadId).history) ↔
      Answerable worker rt d := by
  constructor
  · intro h
    have hthread := h d.payload.threadId
    simp only [JobConsumerWorker.deliver, Function.update_self] at hthread
    exact answerable_of_checkpointAfter hthread
  · intro h threadId
    by_cases hthread : threadId = d.payload.threadId
    · subst hthread
      simp only [JobConsumerWorker.deliver, Function.update_self]
      exact answered_checkpointAfter (hstart _) h
    · simp only [JobConsumerWorker.deliver, ne_eq, hthread, not_false_eq_true,
        Function.update_of_ne]
      exact hstart threadId

end Deliveries

/-- Along every history of deliveries, interrupted ones among them: all checkpoints
answer their requests if and only if all deliveries so far had answerable requests
only. -/
theorem toolHistory_answered_iff (worker : JobConsumerWorker) (rt : Runtime)
    (hstart : ∀ threadId, Answered (rt.checkpoints threadId).history) (ds : List Delivery) :
    (∀ before, before <+: ds → ∀ threadId,
      Answered ((worker.deliverAll rt before).checkpoints threadId).history) ↔
    ∀ before d, before ++ [d] <+: ds → Answerable worker (worker.deliverAll rt before) d := by
  have hsnoc : ∀ before d, worker.deliverAll rt (before ++ [d]) =
      worker.deliver (worker.deliverAll rt before) d := by
    intro before d
    simp [JobConsumerWorker.deliverAll]
  constructor
  · intro h before d hprefix
    have hbefore := h before ((List.prefix_append _ _).trans hprefix)
    have hafter := h (before ++ [d]) hprefix
    rw [hsnoc] at hafter
    exact (answered_deliver_iff hbefore).1 hafter
  · intro h before
    induction before using List.reverseRecOn with
    | nil => exact fun _ => hstart
    | append_singleton before d ih =>
        intro hprefix
        have hbefore := ih ((List.prefix_append _ _).trans hprefix)
        rw [hsnoc]
        exact (answered_deliver_iff hbefore).2 (h before d hprefix)

section Example

/-- Asks for a tool after a message of the user, and answers otherwise. -/
def searching (id : Option String) : Llm where
  ainvoke _ _ messages :=
    match messages.getLast? with
    | some (.user _) =>
        .ok { content := .text "", toolCalls := [{ id := id, name := "search", args := [] }] }
    | _ => .ok { content := .text "Oi" }

def firstJob : Delivery where
  payload := greeting

def secondJob : Delivery where
  payload := question

/-- The unknown tool fails, and the failure is an answer. -/
theorem searching_answered :
    (∀ before, before <+: [firstJob] → ∀ threadId,
      Answered (((plainWorker (searching (some "call"))).deliverAll emptyRuntime before).checkpoints
        threadId).history) ∧
      leadingAnswers (((plainWorker (searching (some "call"))).deliverAll emptyRuntime
        [firstJob]).checkpoints greeting.threadId).history.tail.tail = ["call"] := by
  refine ⟨(toolHistory_answered_iff (plainWorker (searching (some "call"))) emptyRuntime
    (fun _ => trivial) [firstJob]).2 fun before d hprefix => ?_, by decide +kernel⟩
  obtain ⟨after, hone⟩ := hprefix
  obtain ⟨rfl, rfl⟩ : before = [] ∧ d = firstJob := by
    cases before with
    | nil => exact ⟨rfl, List.head_eq_of_cons_eq hone⟩
    | cons first rest => simp at hone
  decide +kernel

/-- Hesitates at first, which gets the thread held, and asks for a tool later. -/
def hesitant : Llm where
  ainvoke _ _ messages :=
    match messages.getLast? with
    | some (.user "Que horas são?") =>
        .ok
          { content := .text ""
            toolCalls := [{ id := some "call", name := "clock", args := [] }] }
    | _ => .ok { content := .text "Não tenho certeza." }

def hesitantWorker : JobConsumerWorker :=
  let worker := plainWorker hesitant
  { worker with
    deps :=
      { worker.deps with
        filters :=
          { worker.deps.filters with
            lowConfidencePatterns :=
              [fun response => PyStr.contains response "ão tenho certeza"] } } }

/-- A call without an id gets no answer, and neither does a call on a held thread. -/
theorem requests_not_answered :
    ¬ Answered (((plainWorker (searching none)).deliverAll emptyRuntime [firstJob]).checkpoints
        greeting.threadId).history ∧
      ¬ Answered ((hesitantWorker.deliverAll emptyRuntime [firstJob, secondJob]).checkpoints
        greeting.threadId).history := by
  decide +kernel

end Example

end Iara.Workers
