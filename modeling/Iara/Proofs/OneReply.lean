import Iara.Workers.History

/-!
# One reply per job

A job whose run dispatches a reply adds exactly one row for it, provided the
checkpoint of its thread does not say that a reply was sent: `_handle_job` never
resets `response_sent`.
-/

namespace Iara.Workers

open Iara.Lib Iara.Persistence Iara.Graph

namespace JobConsumerWorker

/-- The run of the delivery reaches the dispatch node, at the visit `v`, with a
response, without a hold and without an error of its own. -/
structure DispatchesReply (worker : JobConsumerWorker) (rt : Runtime) (d : Delivery)
    (v : GraphVisit) : Prop where
  runsGraph : runsGraph d = true
  uninterrupted : d.interruption = none
  visited : v ∈ (worker.ainvoke d.payload rt).1
  node : v.node = .commandDispatch
  response : PyStr.truthy (v.pre.response.getD "") = true
  held : v.pre.held = false
  failed : v.post.failed = false

/-- The same of the visit at a position, as a test. -/
def dispatchesReplyAt (worker : JobConsumerWorker) (rt : Runtime) (d : Delivery) (i : Nat) :
    Bool :=
  JobConsumerWorker.runsGraph d && d.interruption.isNone &&
    match (worker.ainvoke d.payload rt).1[i]? with
    | none => false
    | some v =>
        v.node == .commandDispatch && PyStr.truthy (v.pre.response.getD "") && !v.pre.held &&
          !v.post.failed

theorem DispatchesReply.of_at {worker : JobConsumerWorker} {rt : Runtime} {d : Delivery} {i : Nat}
    (h : worker.dispatchesReplyAt rt d i = true) : ∃ v, worker.DispatchesReply rt d v := by
  unfold dispatchesReplyAt at h
  cases hv : (worker.ainvoke d.payload rt).1[i]? with
  | none => simp [hv] at h
  | some v =>
      simp only [hv, Bool.and_eq_true, Option.isNone_iff_eq_none, beq_iff_eq,
        Bool.not_eq_true'] at h
      obtain ⟨⟨hruns, hnone⟩, ⟨⟨hnode, hresponse⟩, hheld⟩, hfailed⟩ := h
      exact ⟨v, hruns, hnone, List.mem_of_getElem? hv, hnode, hresponse, hheld, hfailed⟩

/-- The delivery adds one reply row, under the key of its run, and beyond it
only rows of the run's tool calls. -/
def AddsOneReply (worker : JobConsumerWorker) (rt : Runtime) (d : Delivery) (content : String) :
    Prop :=
  ∃ tools r, (worker.deliver rt d).world.outbox.rows = rt.world.outbox.rows ++ tools ++ [r] ∧
    (∀ t ∈ tools, IsToolRow (some (worker.runId rt)) t) ∧
    r.capabilityName = sendMessage ∧
    r.idempotencyKey = responseKey (some (worker.runId rt)) ∧
    r.parametersJson = replyParameters d.payload.conversationId content

variable {worker : JobConsumerWorker} {rt : Runtime} {d : Delivery} {v : GraphVisit}

/-- The rows after the delivery are those at the dispatch visit and what the
dispatch node adds to them. -/
theorem DispatchesReply.rows (h : worker.DispatchesReply rt d v) :
    ∃ tools, (∀ t ∈ tools, IsToolRow (some (worker.runId rt)) t) ∧
      v.worldBefore.outbox.rows = rt.world.outbox.rows ++ tools ∧
      (worker.deliver rt d).world.outbox.rows =
        (commandDispatchNode worker.deps.uuids (some worker.deps.outboxService) v.pre
          v.worldBefore).2.outbox.rows := by
  have hnode : v.node ≠ .memoryWriter := by
    rw [h.node]
    decide
  obtain ⟨tools, htools, hall⟩ := tools_before_dispatch h.visited hnode
  refine ⟨tools, hall, htools, ?_⟩
  obtain ⟨before, limit, hvisits, -⟩ :=
    (buildConversationalGraph worker.deps.deps).exists_suffix_of_mem h.visited
  have hworld : (worker.deliver rt d).world =
      StateGraph.worldAfter (startWorld rt) (worker.ainvoke d.payload rt).1 := by
    simp [deliver, worldAfter, h.runsGraph, h.uninterrupted]
  have hlast : (StateGraph.worldAfter v.worldBefore ((buildConversationalGraph
      worker.deps.deps).execute (limit + 1) .commandDispatch v.pre v.worldBefore).1).outbox.rows =
      (runNode worker.deps.deps .commandDispatch v.pre v.worldBefore).2.outbox.rows := by
    rw [← outbox_after_dispatch limit ((buildConversationalGraph worker.deps.deps).execute
      (limit + 1) .commandDispatch v.pre v.worldBefore).1.length v.pre v.worldBefore,
      List.take_of_length_le (Nat.le_succ _)]
  rw [h.node] at hvisits
  rw [hworld]
  unfold ainvoke buildProductionGraph
  rw [hvisits, StateGraph.worldAfter_append]
  obtain ⟨rest, hrest, -⟩ := (buildConversationalGraph worker.deps.deps).execute_succ_head limit
    .commandDispatch v.pre v.worldBefore
  rw [hrest, StateGraph.worldAfter_cons] at hlast ⊢
  exact hlast

/-- No row before the dispatch visit has the key of the run's reply. -/
theorem DispatchesReply.new (h : worker.DispatchesReply rt d v)
    (hfresh : FreshReplies worker.deps.uuids rt.world) (tenant : Uuid) :
    v.worldBefore.outbox.hasKey (tenant, responseKey v.pre.runId) = false := by
  obtain ⟨tools, hall, hbefore, -⟩ := h.rows
  have hrun : v.pre.runId = some (worker.runId rt) := (visit_effect h.visited).1.1.runId
  rw [Table.hasKey_eq_false_iff, hbefore]
  intro r hr hkey
  have hreply : r.idempotencyKey = responseKey (some (worker.runId rt)) := by
    rw [← hrun]
    exact congrArg Prod.snd hkey
  rcases List.mem_append.1 hr with hr | hr
  · exact hfresh _ (Nat.le_succ _) r hr hreply
  · exact responseKey_ne_of_isToolRow (hall r hr) hreply

theorem DispatchesReply.error (h : worker.DispatchesReply rt d v) :
    (commandDispatchNode worker.deps.uuids (some worker.deps.outboxService) v.pre
      v.worldBefore).1.error = none := by
  have hupdate := runNode_update worker.deps.deps .commandDispatch v.pre v.worldBefore
  have hpost := (dispatch_visit h.visited h.node).1
  have hfailed := h.failed
  rw [hpost] at hfailed
  rcases hupdate.error with hnone | ⟨htruthy, -⟩
  · exact hnone
  · exfalso
    change PyStr.truthyOption (commandDispatchNode worker.deps.uuids
      (some worker.deps.outboxService) v.pre v.worldBefore).1.error = true at htruthy
    simp only [GraphState.failed, GraphState.merge] at hfailed
    cases herror : (commandDispatchNode worker.deps.uuids (some worker.deps.outboxService) v.pre
        v.worldBefore).1.error with
    | none => simp [herror, PyStr.truthyOption] at htruthy
    | some e =>
        rw [herror, Option.some_or] at hfailed
        rw [herror, hfailed] at htruthy
        cases htruthy

/-- One delivery: the reply is added exactly if the thread's checkpoint does not
claim a sent reply. -/
theorem DispatchesReply.addsOneReply_iff (h : worker.DispatchesReply rt d v)
    (hfresh : FreshReplies worker.deps.uuids rt.world) :
    worker.AddsOneReply rt d (v.pre.response.getD "") ↔
      (rt.checkpoints d.payload.threadId).sent = false := by
  obtain ⟨tools, hall, hbefore, hafter⟩ := h.rows
  have hrun : v.pre.runId = some (worker.runId rt) := (visit_effect h.visited).1.1.runId
  have hconversation : v.pre.conversationId = some d.payload.conversationId :=
    (visit_effect h.visited).1.1.conversationId
  have hsent : v.pre.sent = (rt.checkpoints d.payload.threadId).sent :=
    (sent_of_visit h.visited (by rw [h.node]; decide)).trans (sent_startState worker rt d.payload)
  constructor
  · rintro ⟨tools', r, hrows, -, -, hkey, -⟩
    by_contra hclaimed
    have hidle := commandDispatchNode_of_sent worker.deps.uuids worker.deps.outboxService
      v.worldBefore (hsent.trans (by simpa using hclaimed))
    rw [hafter, hidle, hbefore, List.append_assoc] at hrows
    have hmem : r ∈ tools := by
      rw [List.append_cancel_left hrows]
      simp
    exact responseKey_ne_of_isToolRow (hall r hmem) hkey
  · intro hunsent
    obtain ⟨-, r, ⟨hname, hkey, hparams⟩, hrows⟩ := commandDispatchNode_of_new h.response
      (hsent.trans hunsent) (h.new hfresh) h.error
    refine ⟨tools, r, ?_, hall, hname, by rw [hkey, hrun], ?_⟩
    · rw [hafter, hrows, hbefore]
    · rw [hparams, hconversation]
      rfl

end JobConsumerWorker

open JobConsumerWorker

/-- After every history of deliveries, a delivery whose run dispatches a reply
adds exactly one row for it if and only if the checkpoint of its thread does not
have `response_sent` set. -/
theorem addsOneReply_iff_checkpoint_unsent (worker : JobConsumerWorker) (start : Runtime)
    (hfresh : FreshReplies worker.deps.uuids start.world) (ds : List Delivery) (d : Delivery)
    (v : GraphVisit) (h : worker.DispatchesReply (worker.deliverAll start ds) d v) :
    worker.AddsOneReply (worker.deliverAll start ds) d (v.pre.response.getD "") ↔
      ((worker.deliverAll start ds).checkpoints d.payload.threadId).sent = false :=
  h.addsOneReply_iff (FreshReplies.deliverAll hfresh ds)

/-- The first job of an empty runtime gets its reply. -/
theorem greeting_addsOneReply :
    ∃ content, (plainWorker parrot).AddsOneReply emptyRuntime { payload := greeting } content := by
  have hat :
      (plainWorker parrot).dispatchesReplyAt emptyRuntime { payload := greeting } 5 = true := by
    decide +kernel
  obtain ⟨v, hv⟩ := DispatchesReply.of_at hat
  exact ⟨_, (addsOneReply_iff_checkpoint_unsent (plainWorker parrot) emptyRuntime
    (freshReplies_emptyRuntime _) [] { payload := greeting } v hv).2 rfl⟩

/-- The second job on the thread reaches the dispatch node with a response and
gets no reply. -/
theorem question_gets_no_reply :
    ∃ v, (plainWorker parrot).DispatchesReply
        ((plainWorker parrot).deliverAll emptyRuntime [{ payload := greeting }])
        { payload := question } v ∧
      ¬ (plainWorker parrot).AddsOneReply
        ((plainWorker parrot).deliverAll emptyRuntime [{ payload := greeting }])
        { payload := question } (v.pre.response.getD "") := by
  have hat : (plainWorker parrot).dispatchesReplyAt
      ((plainWorker parrot).deliverAll emptyRuntime [{ payload := greeting }])
      { payload := question } 5 = true := by
    decide +kernel
  have hsent : (((plainWorker parrot).deliverAll emptyRuntime
      [{ payload := greeting }]).checkpoints question.threadId).sent = true := by
    decide +kernel
  obtain ⟨v, hv⟩ := DispatchesReply.of_at hat
  refine ⟨v, hv, ?_⟩
  rw [hv.addsOneReply_iff (FreshReplies.deliverAll (freshReplies_emptyRuntime _) _), hsent]
  decide

end Iara.Workers
