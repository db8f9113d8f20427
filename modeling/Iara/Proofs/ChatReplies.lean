import Iara.Graph.Loop
import Iara.Proofs.ChatThreads
import Iara.Proofs.ClosedRouting
import Iara.Proofs.GuardedReplies
import Iara.Proofs.TenantOfEffects

/-!
# Replies of the chat endpoint

Every chat request runs on a thread of its own, so that nothing of an earlier run is left in
its state.  What such a run adds to the outbox is decided by where it ends, and so is the
answer: a reply that is returned has been queued for the provider too, unless it is the text
of a hold.
-/

namespace Iara.Graph

open Iara.Lib Iara.Persistence Iara.Tools

/-! ## A run that nothing precedes -/

/-- A state that no run has left a trace in. -/
structure Untouched (s : GraphState) : Prop where
  response : s.response = none
  sent : s.sent = false
  failed : s.failed = false
  held : s.held = false

/-- Where a run stands when it comes to a node: what is decided, and what is in the outbox. -/
def Underway (s : GraphState) (w : World) (n : Node) (t : GraphState) (w' : World) : Prop :=
  match n with
  | .eligibility => t = s ∧ w'.outbox.rows = w.outbox.rows
  | .commandAssistant => False
  | .hitl =>
      t.held = true ∧ t.response = some hitlEscalationResponse ∧
        w'.outbox.rows = w.outbox.rows
  | .memoryWriter =>
      t.held = false ∧
        ((t.response.getD "" = "" ∧ w'.outbox.rows = w.outbox.rows) ∨
          PyStr.truthy (t.response.getD "") = true ∧
            ∃ r, IsReplyRow t r ∧ w'.outbox.rows = w.outbox.rows ++ [r])
  | _ => t.held = false ∧ t.sent = false ∧ w'.outbox.rows = w.outbox.rows

section Run

variable {p : ProductionDeps} {n n' : Node} {s t : GraphState} {w w' : World}

/-- In production only the dispatch node adds rows. -/
theorem outbox_of_other (hp : IsProduction p.gateway) (hn : n ≠ .commandDispatch) :
    (runNode p.deps n s w).2.outbox.rows = w.outbox.rows := by
  by_cases htools : n = .toolExecutor
  · subst htools
    change (toolExecutorNode p.uuids (some p.gateway) s w).2.outbox.rows = _
    unfold toolExecutorNode
    simp only
    split
    next => rfl
    next =>
      refine executeToolCalls_induction (P := fun w' => w'.outbox.rows = w.outbox.rows) p.uuids
        p.gateway s (s.toolCallsPending.getD []) rfl ?_
      intro tc w' hw'
      rw [(hp.executeToolCall_stores p.uuids s tc w').1]
      exact hw'
  · obtain ⟨rows, hrows, hof⟩ := (runNode_effect p.deps n s w).outbox
    have hempty : rows = [] := by
      apply List.eq_nil_iff_forall_not_mem.2
      intro r hr
      have hrow := hof r hr
      cases n with
      | toolExecutor => exact htools rfl
      | commandDispatch => exact hn rfl
      | _ => exact hrow
    rw [hrows, hempty, List.append_nil]

theorem hitlRequested_of_other {u : GraphState} (hu : NodeUpdate t n u)
    (hguardrails : n ≠ .guardrails) (hhitl : n ≠ .hitl) : u.hitlRequested = none := by
  cases hu with
  | guardrailsHeld reason history => exact absurd rfl hguardrails
  | hitl => exact absurd rfl hhitl
  | _ => rfl

theorem agentResponse_of_dispatch {u : GraphState} (hu : NodeUpdate t .commandDispatch u) :
    u.agentResponse = none := by
  cases hu <;> rfl

/-- The last nodes leave the response. -/
theorem agentResponse_of_last {u : GraphState} (hu : NodeUpdate t n u)
    (hn : n = .hitl ∨ n = .memoryWriter) : u.agentResponse = none := by
  rcases hn with rfl | rfl <;> cases hu <;> rfl

/-- The nodes between the first and the guardrails decide nothing. -/
theorem undecided_post (hp : IsProduction p.gateway) (hguardrails : n ≠ .guardrails)
    (hhitl : n ≠ .hitl) (hdispatch : n ≠ .commandDispatch) (hadmin : n ≠ .commandAssistant)
    (h : t.held = false ∧ t.sent = false ∧ w'.outbox.rows = w.outbox.rows) :
    (t.merge (runNode p.deps n t w').1).held = false ∧
      (t.merge (runNode p.deps n t w').1).sent = false ∧
      (runNode p.deps n t w').2.outbox.rows = w.outbox.rows := by
  have hupdate := runNode_update p.deps n t w'
  have hquiet := hitlRequested_of_other hupdate hguardrails hhitl
  refine ⟨?_, ?_, ?_⟩
  · rw [GraphState.held_merge_of_none hquiet, h.1]
  · rcases hupdate.responseSent with hnone | ⟨-, hn | hn⟩
    · rw [GraphState.sent_merge_of_none hnone, h.2.1]
    · exact absurd hn hdispatch
    · exact absurd hn hadmin
  · rw [outbox_of_other hp hdispatch, h.2.2]

/-- The guardrails leave a run held, with the text of the hold, or undecided. -/
theorem held_post_guardrails {filters : GuardrailFilters} (h : t.held = false)
    (hheld : (t.merge (guardrailsNode filters t w').1).held = true) :
    (t.merge (guardrailsNode filters t w').1).response = some hitlEscalationResponse := by
  have houtcome := guardrailsNode_outcome filters t w'
  generalize (guardrailsNode filters t w').1 = u at houtcome hheld ⊢
  cases houtcome with
  | flagged reason history hflagged => rfl
  | _ =>
      rw [GraphState.held_merge_of_none rfl, h] at hheld
      cases hheld

/-- The dispatch of a run that goes on: nothing to send, or one row. -/
theorem dispatched (hsent : t.sent = false)
    (hfailed : (t.merge (runNode p.deps .commandDispatch t w').1).failed = false)
    (hnew : ∀ tenant, w'.outbox.hasKey (tenant, responseKey t.runId) = false) :
    ((t.merge (runNode p.deps .commandDispatch t w').1).response.getD "" = "" ∧
        (runNode p.deps .commandDispatch t w').2.outbox.rows = w'.outbox.rows) ∨
      PyStr.truthy ((t.merge (runNode p.deps .commandDispatch t w').1).response.getD "") = true ∧
        ∃ r, IsReplyRow (t.merge (runNode p.deps .commandDispatch t w').1) r ∧
          (runNode p.deps .commandDispatch t w').2.outbox.rows = w'.outbox.rows ++ [r] := by
  have hupdate := runNode_update p.deps .commandDispatch t w'
  obtain ⟨hrun, -, hconversation, -⟩ := hupdate.identifiers
  have hsame : (t.merge (runNode p.deps .commandDispatch t w').1).response = t.response :=
    GraphState.response_merge_of_none (agentResponse_of_dispatch hupdate)
  have herror : (runNode p.deps .commandDispatch t w').1.error = none := by
    by_contra hsome
    rw [failed_merge_of_some hupdate hsome] at hfailed
    cases hfailed
  rw [hsame]
  cases hcontent : PyStr.truthy (t.response.getD "") with
  | false =>
      refine .inl ⟨by simpa [PyStr.truthy] using hcontent, ?_⟩
      change (commandDispatchNode p.uuids (some p.outboxService) t w').2.outbox.rows = _
      rw [commandDispatchNode_of_empty _ _ _ hcontent]
  | true =>
      obtain ⟨-, r, ⟨hname, hkey, hparameters⟩, hrows⟩ :=
        commandDispatchNode_of_new hcontent hsent hnew herror
      refine .inr ⟨rfl, r, ⟨hname, ?_, ?_⟩, hrows⟩
      · rw [hkey]
        simp only [GraphState.merge, hrun, Option.none_or]
      · rw [hparameters, hsame]
        simp only [GraphState.merge, hconversation, Option.none_or]

/-- An edge out of a state with an error is one out of the first node. -/
theorem failed_of_route (hn : n ≠ .eligibility) (h : route n s = some (.goto n')) :
    s.failed = false := by
  by_contra hfailed
  rw [Bool.not_eq_false] at hfailed
  cases n with
  | eligibility => exact hn rfl
  | mediaUnderstanding => simp [route, shouldContinueAfterMedia, hfailed, mediaPaths] at h
  | contextBuilder => simp [route, shouldContinueAfterContext, hfailed, contextPaths] at h
  | agent => simp [route, shouldContinueAfterAgent, hfailed, agentPaths] at h
  | toolExecutor => simp [route, shouldContinueAfterTools, hfailed, toolPaths] at h
  | guardrails => simp [route, shouldContinueAfterGuardrails, hfailed, guardrailsPaths] at h
  | commandDispatch => simp [route, shouldContinueAfterDispatch, hfailed, dispatchPaths] at h
  | commandAssistant => cases h
  | hitl => cases h
  | memoryWriter => cases h

theorem failed_post_of_route (hfailed : t.failed = false)
    (h : route n (t.merge (runNode p.deps n t w').1) = some (.goto n')) :
    (t.merge (runNode p.deps n t w').1).failed = false := by
  by_cases hn : n = .eligibility
  · rw [hn, failed_post (by decide) (by decide), hfailed]
  · exact failed_of_route hn h

/-- No message of the run's first state is an admin command. -/
def NoCommand (p : ProductionDeps) (s : GraphState) : Prop :=
  ∀ w, route .eligibility (s.merge (runNode p.deps .eligibility s w).1) ≠
    some (.goto .commandAssistant)

/-- No row of the outbox is a reply of the run. -/
def NoReply (s : GraphState) (w : World) : Prop :=
  ∀ r ∈ w.outbox.rows, r.idempotencyKey ≠ responseKey s.runId

theorem NoReply.hasKey (h : NoReply s w) (hrun : t.runId = s.runId)
    (hrows : w'.outbox.rows = w.outbox.rows) (tenant : Uuid) :
    w'.outbox.hasKey (tenant, responseKey t.runId) = false := by
  rw [Table.hasKey_eq_false_iff, hrows, hrun]
  intro r hr hkey
  exact h r hr (congrArg Prod.snd hkey)

/-- Every edge takes a run from where it stands to where it should. -/
theorem underway_step (hp : IsProduction p.gateway) (hs : Untouched s) (hcommand : NoCommand p s)
    (hreply : NoReply s w) (hsame : SameRun s t) (hfailed : t.failed = false)
    (h : Underway s w n t w')
    (hroute : route n (t.merge (runNode p.deps n t w').1) = some (.goto n')) :
    Underway s w n' (t.merge (runNode p.deps n t w').1) (runNode p.deps n t w').2 := by
  have hpost := failed_post_of_route hfailed hroute
  have hedge := edge_of_route hroute
  cases hedge with
  | admin =>
      obtain ⟨rfl, -⟩ := h
      exact hcommand w' hroute
  | message =>
      obtain ⟨rfl, hrows⟩ := h
      exact undecided_post hp (by decide) (by decide) (by decide) (by decide)
        ⟨hs.held, hs.sent, hrows⟩
  | media => exact undecided_post hp (by decide) (by decide) (by decide) (by decide) h
  | context => exact undecided_post hp (by decide) (by decide) (by decide) (by decide) h
  | request => exact undecided_post hp (by decide) (by decide) (by decide) (by decide) h
  | answer => exact undecided_post hp (by decide) (by decide) (by decide) (by decide) h
  | results => exact undecided_post hp (by decide) (by decide) (by decide) (by decide) h
  | hold =>
      have hheld := (route_to_hitl hroute).2.2
      have hrows := outbox_of_other (s := t) (w := w') hp (by decide : Node.guardrails ≠ _)
      exact ⟨hheld, held_post_guardrails h.1 hheld, hrows.trans h.2.2⟩
  | dispatch =>
      have hheld := (route_to_commandDispatch hroute).2.2
      have hrows := outbox_of_other (s := t) (w := w') hp (by decide : Node.guardrails ≠ _)
      refine ⟨hheld, ?_, hrows.trans h.2.2⟩
      rcases (runNode_update p.deps .guardrails t w').responseSent with hnone | ⟨-, hn | hn⟩
      · rw [GraphState.sent_merge_of_none hnone, h.2.1]
      · cases hn
      · cases hn
  | memory =>
      obtain ⟨hheld, hsent, hrows⟩ := h
      have hquiet := hitlRequested_of_other (runNode_update p.deps .commandDispatch t w')
        (by decide) (by decide)
      refine ⟨by rw [GraphState.held_merge_of_none hquiet, hheld], ?_⟩
      rw [← hrows]
      exact dispatched hsent hpost (hreply.hasKey hsame.runId hrows)

/-- Where a run stands at each of its visits. -/
theorem underway_of_visit (hp : IsProduction p.gateway) (hs : Untouched s)
    (hcommand : NoCommand p s) (hreply : NoReply s w) {limit : Nat} {v : GraphVisit}
    (hv : v ∈ ((buildProductionGraph p).execute limit .eligibility s w).1) :
    (SameRun s v.pre ∧ v.pre.failed = false ∧ Underway s w v.node v.pre v.worldBefore) ∧
      v = (buildProductionGraph p).superstep v.node v.pre v.worldBefore := by
  have hstart : Underway s w .eligibility s w := ⟨rfl, rfl⟩
  refine (buildProductionGraph p).visits_invariant
    (P := fun n t w' => SameRun s t ∧ t.failed = false ∧ Underway s w n t w') ?_
    ⟨⟨rfl, rfl⟩, hs.failed, hstart⟩ v hv
  intro m t w' m' ht hroute
  obtain ⟨hsame, hfailed, hstands⟩ := ht
  exact ⟨hsame.merge (runNode_update p.deps m t w'), failed_post_of_route hfailed hroute,
    underway_step hp hs hcommand hreply hsame hfailed hstands hroute⟩

/-- A run within the recursion limit has a last visit, and the edge out of it ends the run. -/
theorem exists_last (p : ProductionDeps) {limit : Nat} (hlimit : 15 < limit) (s : GraphState)
    (w : World) :
    ∃ v ∈ ((buildProductionGraph p).execute limit .eligibility s w).1,
      StateGraph.stateAfter s ((buildProductionGraph p).execute limit .eligibility s w).1 =
          v.post ∧
        StateGraph.worldAfter w ((buildProductionGraph p).execute limit .eligibility s w).1 =
          v.worldAfter ∧
        (((buildProductionGraph p).execute limit .eligibility s w).2 = .routingError ∧
            route v.node v.post = none ∨
          ((buildProductionGraph p).execute limit .eligibility s w).2 = .finished ∧
            route v.node v.post = some .finish) := by
  let g := buildProductionGraph p
  obtain ⟨k, rfl⟩ : ∃ k, limit = k + 1 := ⟨limit - 1, by omega⟩
  obtain ⟨rest, hrest, -⟩ := g.execute_succ_head k .eligibility s w
  cases hlast : (g.execute (k + 1) .eligibility s w).1.getLast? with
  | none =>
      rw [hrest] at hlast
      simp at hlast
  | some v =>
      obtain ⟨before, hbefore⟩ := List.getLast?_eq_some_iff.1 hlast
      refine ⟨v, List.mem_of_getLast? hlast, StateGraph.stateAfter_of_getLast? hlast, ?_, ?_⟩
      · change StateGraph.worldAfter w (g.execute (k + 1) .eligibility s w).1 = v.worldAfter
        rw [hbefore, StateGraph.worldAfter_append]
        rfl
      · rcases g.route_of_last hlast with hraised | hfinished | hrecursion
        · exact .inl hraised
        · exact .inr hfinished
        · exact absurd hrecursion (run_terminates hlimit)

/-- Between the first node and the dispatch node a run ends with an error, or held. -/
theorem failed_of_finish (h : route n s = some .finish) (hheld : n = .agent → s.held = false)
    (heligibility : n ≠ .eligibility) (hadmin : n ≠ .commandAssistant) (hhitl : n ≠ .hitl)
    (hwriter : n ≠ .memoryWriter) : s.failed = true ∧ n ≠ .commandDispatch := by
  cases n with
  | eligibility => exact absurd rfl heligibility
  | commandAssistant => exact absurd rfl hadmin
  | hitl => exact absurd rfl hhitl
  | memoryWriter => exact absurd rfl hwriter
  | mediaUnderstanding =>
      simp only [route, shouldContinueAfterMedia] at h
      split at h
      next hfailed => exact ⟨hfailed, by decide⟩
      next => cases h
  | contextBuilder =>
      simp only [route, shouldContinueAfterContext] at h
      split at h
      next hfailed => exact ⟨hfailed, by decide⟩
      next => cases h
  | agent =>
      simp only [route, shouldContinueAfterAgent, hheld rfl, Bool.false_eq_true, if_false] at h
      split at h
      next hfailed => exact ⟨hfailed, by decide⟩
      next => split at h <;> cases h
  | toolExecutor =>
      simp only [route, shouldContinueAfterTools] at h
      split at h
      next hfailed => exact ⟨hfailed, by decide⟩
      next => cases h
  | guardrails =>
      simp only [route, shouldContinueAfterGuardrails] at h
      split at h
      next hfailed => exact ⟨hfailed, by decide⟩
      next => split at h <;> cases h
  | commandDispatch =>
      simp only [route, shouldContinueAfterDispatch] at h
      split at h <;> cases h

/-- An agent that leaves an error has failed itself. -/
theorem error_of_agent {u : GraphState} (hu : NodeUpdate t .agent u) (hfailed : t.failed = false)
    (h : (t.merge u).failed = true) :
    ∃ exception, (t.merge u).error = some ("Agent execution failed: " ++ exception) := by
  cases hu with
  | agentFailed exception => exact ⟨exception, rfl⟩
  | _ =>
      rw [GraphState.failed_merge_of_none rfl, hfailed] at h
      cases h

end Run

end Iara.Graph

namespace Iara.Api

open Iara.Lib Iara.Persistence Iara.Graph Iara.Tenancy Iara.Workers
open JobConsumerWorker (startWorld)

/-! ## Answers -/

/-- What a run is answered with, and the rows it has added. -/
inductive Outcome (conversationId runId : String) : ChatAnswer → List OutboxRow → Prop
  /-- The reply that is returned is queued for the provider too. -/
  | sent (content : String) (r : OutboxRow) (hcontent : PyStr.truthy content = true)
      (hname : r.capabilityName = sendMessage)
      (hkey : r.idempotencyKey = responseKey (some runId))
      (hparameters : r.parametersJson = replyParameters conversationId content) :
      Outcome conversationId runId (.reply content conversationId runId) [r]
  /-- A refused admin command, or a model without an answer. -/
  | silent : Outcome conversationId runId (.reply "" conversationId runId) []
  | held : Outcome conversationId runId
      (.reply hitlEscalationResponse conversationId runId) []
  | agentFailed (exception : String) : Outcome conversationId runId
      (.failed (some ("Agent execution failed: " ++ exception))) []
  /-- Enqueueing the reply raised, before its commit or after it. -/
  | dispatchFailed (rows : List OutboxRow) (hlength : rows.length ≤ 1)
      (hkey : ∀ r ∈ rows, r.idempotencyKey = responseKey (some runId)) :
      Outcome conversationId runId (.failed none) rows

section Run

variable {p : ProductionDeps} {n : Node} {s t : GraphState} {w w' : World}
  {conversationId runId : String}

theorem Outcome.key {answer : ChatAnswer} {rows : List OutboxRow}
    (h : Outcome conversationId runId answer rows) :
    ∀ r ∈ rows, r.idempotencyKey = responseKey (some runId) := by
  cases h with
  | sent content r hcontent hname hkey hparameters => exact List.forall_mem_singleton.2 hkey
  | dispatchFailed rows hlength hkey => exact hkey
  | _ => exact List.forall_mem_nil _

theorem chatAnswer_of_unfailed {final : GraphState} {content : String}
    (hfailed : final.failed = false) (hresponse : final.response.getD "" = content) :
    chatAnswer conversationId runId final .finished = .reply content conversationId runId := by
  simp only [chatAnswer, hfailed, Bool.false_eq_true, if_false, hresponse]

theorem chatAnswer_of_failed {final : GraphState} (hfailed : final.failed = true) :
    chatAnswer conversationId runId final .finished = .failed final.error := if_pos hfailed

/-- The answer of a run that ends after the node. -/
theorem outcome_of_finish (hp : IsProduction p.gateway) (hs : Untouched s)
    (hrun : s.runId = some runId) (hconversation : s.conversationId = some conversationId)
    (hsame : SameRun s t) (hfailed : t.failed = false) (hstands : Underway s w n t w')
    (hfinish : route n (t.merge (runNode p.deps n t w').1) = some .finish) :
    ∃ replies, (runNode p.deps n t w').2.outbox.rows = w.outbox.rows ++ replies ∧
      Outcome conversationId runId
        (chatAnswer conversationId runId (t.merge (runNode p.deps n t w').1) .finished)
        replies := by
  have hupdate := runNode_update p.deps n t w'
  by_cases hadmin : n = .commandAssistant
  · subst hadmin
    exact hstands.elim
  by_cases heligibility : n = .eligibility
  · subst heligibility
    obtain ⟨rfl, hrows⟩ := hstands
    have hunfailed : (t.merge (runNode p.deps .eligibility t w').1).failed = false :=
      (failed_post (by decide) (by decide)).trans hfailed
    have hresponse : (t.merge (runNode p.deps .eligibility t w').1).response = none :=
      (GraphState.response_merge_of_none rfl).trans hs.response
    rw [chatAnswer_of_unfailed hunfailed (by rw [hresponse])]
    exact ⟨[], by rw [List.append_nil]; exact hrows, .silent⟩
  by_cases hhitl : n = .hitl
  · subst hhitl
    obtain ⟨-, htext, hrows⟩ := hstands
    have hunfailed : (t.merge (runNode p.deps .hitl t w').1).failed = false :=
      (failed_post (by decide) (by decide)).trans hfailed
    have hresponse : (t.merge (runNode p.deps .hitl t w').1).response =
        some hitlEscalationResponse :=
      (GraphState.response_merge_of_none (agentResponse_of_last hupdate (.inl rfl))).trans htext
    rw [chatAnswer_of_unfailed hunfailed (by rw [hresponse])]
    exact ⟨[], by rw [List.append_nil, outbox_of_other hp (by decide), hrows], .held⟩
  by_cases hwriter : n = .memoryWriter
  · subst hwriter
    have hunfailed : (t.merge (runNode p.deps .memoryWriter t w').1).failed = false :=
      (failed_post (by decide) (by decide)).trans hfailed
    have hresponse : (t.merge (runNode p.deps .memoryWriter t w').1).response = t.response :=
      GraphState.response_merge_of_none (agentResponse_of_last hupdate (.inr rfl))
    rw [outbox_of_other hp (by decide), chatAnswer_of_unfailed hunfailed (by rw [hresponse])]
    rcases hstands.2 with ⟨hnothing, hrows⟩ | ⟨hcontent, r, ⟨hname, hkey, hparameters⟩, hrows⟩
    · rw [hnothing]
      exact ⟨[], by rw [List.append_nil]; exact hrows, .silent⟩
    · refine ⟨[r], hrows, .sent _ r hcontent hname ?_ ?_⟩
      · rw [hkey, hsame.runId, hrun]
      · rw [hparameters, hsame.conversationId, hconversation]
        rfl
  have hheld : n = .agent → (t.merge (runNode p.deps n t w').1).held = false := by
    intro hn
    subst hn
    exact (undecided_post hp (by decide) (by decide) (by decide) (by decide) hstands).1
  obtain ⟨hpost, hdispatch⟩ := failed_of_finish hfinish hheld heligibility hadmin hhitl hwriter
  by_cases hagent : n = .agent
  · subst hagent
    obtain ⟨exception, herror⟩ := error_of_agent hupdate hfailed hpost
    rw [chatAnswer_of_failed hpost, herror, outbox_of_other hp (by decide)]
    exact ⟨[], by rw [List.append_nil]; exact hstands.2.2, .agentFailed exception⟩
  · rw [failed_post hagent hdispatch, hfailed] at hpost
    cases hpost

/-- The answer of a run, and what it has added to the outbox. -/
theorem outcome_of_run (hp : IsProduction p.gateway) (hs : Untouched s) (hcommand : NoCommand p s)
    (hreply : NoReply s w) (hrun : s.runId = some runId)
    (hconversation : s.conversationId = some conversationId) {limit : Nat} (hlimit : 15 < limit) :
    ∃ replies,
      (StateGraph.worldAfter w
          ((buildProductionGraph p).execute limit .eligibility s w).1).outbox.rows =
        w.outbox.rows ++ replies ∧
      Outcome conversationId runId
        (chatAnswer conversationId runId
          (StateGraph.stateAfter s ((buildProductionGraph p).execute limit .eligibility s w).1)
          ((buildProductionGraph p).execute limit .eligibility s w).2) replies := by
  obtain ⟨v, hv, hstate, hworld, hend⟩ := exists_last p hlimit s w
  obtain ⟨⟨hsame, hfailed, hstands⟩, hself⟩ := underway_of_visit hp hs hcommand hreply hv
  have hpost : v.post = v.pre.merge (runNode p.deps v.node v.pre v.worldBefore).1 :=
    congrArg Visit.post hself
  have hafter : v.worldAfter = (runNode p.deps v.node v.pre v.worldBefore).2 :=
    congrArg Visit.worldAfter hself
  rw [hstate, hworld]
  rcases hend with ⟨hraised, hroute⟩ | ⟨hfinished, hroute⟩
  · have hnode : v.node = .commandDispatch := by
      by_contra hother
      have hsome := route_isSome hother v.post
      rw [hroute] at hsome
      cases hsome
    rw [hraised, hafter]
    rw [hnode] at hstands ⊢
    obtain ⟨-, -, hrows⟩ := hstands
    rcases commandDispatchNode_rows p.uuids p.outboxService v.pre v.worldBefore with
      hnone | ⟨r, ⟨-, hkey, -⟩, hone⟩
    · exact ⟨[], by rw [List.append_nil]; exact hnone.trans hrows,
        .dispatchFailed [] (Nat.zero_le _) (List.forall_mem_nil _)⟩
    · refine ⟨[r], hone.trans (by rw [hrows]), .dispatchFailed [r] (Nat.le_refl _) ?_⟩
      rw [List.forall_mem_singleton, hkey, hsame.runId, hrun]
  · rw [hfinished, hpost, hafter]
    rw [hpost] at hroute
    exact outcome_of_finish hp hs hrun hconversation hsame hfailed hstands hroute

end Run

/-! ## Admin commands -/

section Command

variable {settings : ProductionSettings} {p : ProductionDeps}

open Iara.Security

theorem authGuard_of_deps (h : settings.deps = .ok p) :
    p.authGuard = (CommandAuthorizationGuard.mk settings.filters.text []).register
      { tenantId := productionTenant } := by
  unfold ProductionSettings.deps at h
  obtain ⟨kanbanMode, -, h⟩ := bind_eq_ok h
  obtain ⟨campaignMode, -, h⟩ := bind_eq_ok h
  cases h
  rfl

/-- A contact is authorized for no command. -/
theorem check_contact (h : settings.deps = .ok p) (tenantId senderRef content : String) :
    let result := p.authGuard.check tenantId (some "contact") senderRef content
    (result.isAdminCommand && result.allowed) = false := by
  have hbinding : (((CommandAuthorizationGuard.mk settings.filters.text []).register
      { tenantId := productionTenant }).bindings.find? fun b => b.tenantId = tenantId).getD
        { tenantId := tenantId } = { tenantId := tenantId } := by
    by_cases htenant : productionTenant = tenantId
    · subst htenant
      simp [CommandAuthorizationGuard.register]
    · simp [CommandAuthorizationGuard.register, htenant]
  rw [authGuard_of_deps h]
  unfold CommandAuthorizationGuard.check
  simp only [hbinding]
  split
  next => rfl
  next => rfl

theorem noCommand_initialState (h : settings.deps = .ok p) (body : ChatRequest)
    (tenantId runId correlationId : String) :
    NoCommand p (body.initialState tenantId runId correlationId) := by
  intro w hroute
  have hcheck := check_contact h tenantId ""
    (lastUserMessage (body.initialState tenantId runId correlationId).history)
  generalize hstart : body.initialState tenantId runId correlationId = start at hcheck hroute
  have hadmin : (start.merge (runNode p.deps .eligibility start w).1).isAdminCommand =
      some false := by
    subst hstart
    exact congrArg some hcheck
  simp only [route, shouldContinueAfterEligibility, hadmin, Option.getD_some, Bool.false_eq_true,
    if_false] at hroute
  split at hroute <;> cases hroute

end Command

namespace ChatDeployment

variable {deployment : ChatDeployment} {s : ChatSystem}

theorem noReply_of_fresh (h : Fresh deployment s) (tenant : TenantContext) (body : ChatRequest) :
    NoReply (deployment.startState s tenant body) (startWorld s.runtime) := by
  rw [startState_of_fresh h]
  intro r hr
  exact h.replies _ (Nat.le_refl _) r hr

/-- The rows of a request are those of its run, of the tenant. -/
theorem outcome_of_invoke (h : Fresh deployment s) (tenant : TenantContext) (body : ChatRequest) :
    ∃ replies, (deployment.invoke s tenant body).2.runtime.world.outbox.rows =
        s.runtime.world.outbox.rows ++ replies ∧
      Outcome body.conversationId (deployment.runId s) (deployment.invoke s tenant body).1
        replies ∧
      ∀ r ∈ replies, r.tenantId = tenant.tenantId := by
  have hstart := startState_of_fresh h tenant body
  have hp : IsProduction deployment.deps.gateway := .of_deps deployment.built
  have hlimit : 15 < deployment.langGraph.recursionLimit :=
    Nat.lt_of_lt_of_le (by decide) deployment.langGraph.le_recursionLimit
  have huntouched : Untouched (deployment.startState s tenant body) := by
    rw [hstart]
    exact ⟨rfl, rfl, rfl, rfl⟩
  have hcommand : NoCommand deployment.deps (deployment.startState s tenant body) := by
    rw [hstart]
    exact noCommand_initialState deployment.built _ _ _ _
  obtain ⟨replies, hrows, houtcome⟩ := outcome_of_run hp huntouched hcommand
    (noReply_of_fresh h tenant body) (by rw [hstart]; rfl) (by rw [hstart]; rfl) hlimit
  refine ⟨replies, hrows, houtcome, ?_⟩
  intro r hr
  have hown := (run_ownRows hp deployment.langGraph.recursionLimit .eligibility
    (deployment.startState s tenant body) (startWorld s.runtime)).outbox r
  rw [hrows] at hown
  rcases hown (List.mem_append_right _ hr) with hold | ⟨t, htenant, hparse⟩
  · have hnew := h.replies _ (Nat.le_refl _) r hold
    exact absurd (houtcome.key r hr) hnew
  · rw [hstart] at htenant
    obtain rfl := Option.some.inj htenant
    exact Option.some.inj (hparse.symm.trans (parseUuid_formatUuid _))

end ChatDeployment

open ChatDeployment

/-- After every history of chat requests, jobs and restarts, a chat request is answered 404 and
changes nothing, or its tenant is the one of the development environment, and it adds to the
outbox what belongs to its answer: a reply under a key of its own where it returns one. -/
theorem chat_reply_is_queued (deployment : ChatDeployment) (events : List ChatEvent)
    (tenantKey : String) (body : ChatRequest) :
    let s := deployment.applyAll deployment.initial events
    let result := deployment.chat s tenantKey body
    (result.1 = .tenantNotFound ∧ result.2.runtime = s.runtime) ∨
      deployment.env.isDevelopment = true ∧ tenantKey = deployment.env.iaraDevTenantKey ∧
        ∃ replies,
          result.2.runtime.world.outbox.rows = s.runtime.world.outbox.rows ++ replies ∧
          Outcome body.conversationId (deployment.runId s) result.1 replies ∧
          (∀ r ∈ replies, parseUuid deployment.env.iaraDevTenantId = some r.tenantId) ∧
          ∀ r ∈ s.runtime.world.outbox.rows,
            r.idempotencyKey ≠ responseKey (some (deployment.runId s)) := by
  intro s result
  have hfresh : Fresh deployment s := (fresh_initial deployment).applyAll events
  rcases chat_cases hfresh tenantKey body with
    ⟨resolver, -, hanswer⟩ | ⟨resolver, tenant, hresolved, hdevelopment, hkey, hid, hanswer⟩
  · refine .inl ⟨congrArg Prod.fst hanswer, ?_⟩
    exact congrArg (fun r => r.2.runtime) hanswer
  · obtain ⟨replies, hrows, houtcome, htenant⟩ := outcome_of_invoke hresolved tenant body
    have hresult : result = deployment.invoke { s with resolver := resolver } tenant body := hanswer
    refine .inr ⟨hdevelopment, hkey, replies, ?_, ?_, ?_, ?_⟩
    · rw [hresult]
      exact hrows
    · rw [hresult]
      exact houtcome
    · intro r hr
      rw [htenant r hr]
      exact hid
    · exact hfresh.replies _ (Nat.le_refl _)

section Example

/-- The reply is the one row that the request adds. -/
theorem chat_reply_is_queued_hello :
    ∃ replies,
      (echoChat.chat chatted "test_tenant_001" hello).2.runtime.world.outbox.rows =
          chatted.runtime.world.outbox.rows ++ replies ∧
        replies.length = 1 ∧
        Outcome "7" (echoChat.runId chatted) (.reply "Oi" "7" (echoChat.runId chatted))
          replies := by
  have hanswer : (echoChat.chat chatted "test_tenant_001" hello).1 =
      .reply "Oi" "7" (echoChat.runId chatted) := by decide +kernel
  have hcount : (echoChat.chat chatted "test_tenant_001" hello).2.runtime.world.outbox.rows.length =
      chatted.runtime.world.outbox.rows.length + 1 := by decide +kernel
  have hqueued := chat_reply_is_queued echoChat [.chat "test_tenant_001" hello] "test_tenant_001"
    hello
  unfold chatted at hanswer hcount ⊢
  rcases hqueued with ⟨hnotFound, -⟩ | ⟨-, -, replies, hrows, houtcome, -, -⟩
  · cases hanswer.symm.trans hnotFound
  · refine ⟨replies, hrows, ?_, ?_⟩
    · rw [hrows, List.length_append] at hcount
      exact Nat.add_left_cancel hcount
    · rw [← hanswer]
      exact houtcome

end Example

end Iara.Api
