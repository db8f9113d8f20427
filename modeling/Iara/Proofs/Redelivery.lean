import Iara.Workers.History

/-!
# Redeliveries of a job

The key of a reply names the run and every delivery draws a new run id, so the
outbox does not recognise a redelivery.  What does is the checkpoint: once it has
the dispatch step of an earlier delivery, no later one enqueues.
-/

namespace Iara.Workers

open Iara.Lib Iara.Persistence Iara.Graph

/-- What the deliveries of one job have in common. -/
structure JobId where
  idempotencyKey : String
  tenantId : String
  conversationId : String
  deriving DecidableEq, Repr

def JobPayload.jobId (payload : JobPayload) : JobId :=
  ⟨payload.idempotencyKey, payload.tenantId, payload.conversationId⟩

def JobId.threadId (job : JobId) : String := job.tenantId ++ ":" ++ job.conversationId

namespace JobConsumerWorker

/-- The run id a delivery draws, if it is one of the job. -/
def newRunIds (worker : JobConsumerWorker) (job : JobId) (rt : Runtime) (d : Delivery) :
    List String :=
  if d.payload.jobId = job ∧ runsGraph d = true then [worker.runId rt] else []

/-- The run ids that the deliveries of a job draw along a history. -/
def runIds (worker : JobConsumerWorker) (job : JobId) : Runtime → List Delivery → List String
  | _, [] => []
  | rt, d :: ds => worker.newRunIds job rt d ++ runIds worker job (worker.deliver rt d) ds

/-- The `send_message` rows under the reply keys of some runs. -/
def replyRows (ids : List String) (rows : List OutboxRow) : List OutboxRow :=
  rows.filter fun r =>
    r.capabilityName = sendMessage && ids.any fun id => r.idempotencyKey = responseKey (some id)

/-- The visit has the dispatch node open a session for a reply. -/
def EnqueuesReply (v : GraphVisit) : Prop :=
  v.node = .commandDispatch ∧ PyStr.truthy (v.pre.response.getD "") = true ∧ v.pre.sent = false

/-- Where a delivery has opened a session for a reply, the session failed, or it
committed and the checkpoint knows of the step. -/
def CheckpointsDispatch (worker : JobConsumerWorker) (rt : Runtime) (d : Delivery) : Prop :=
  ∀ v ∈ worker.executedVisits rt d, EnqueuesReply v →
    match worker.deps.outboxService.session v.worldBefore.draws with
    | .fails _ => True
    | .commits => v ∈ worker.persistedVisits rt d
    | .commitsThenFails _ => False

/-- No delivery of the job is followed by another one before the checkpoint has
its dispatch step. -/
def RedeliversAfterCheckpoint (worker : JobConsumerWorker) (job : JobId) :
    Runtime → List Delivery → Prop
  | _, [] => True
  | rt, d :: ds =>
      (d.payload.jobId = job → (∃ d' ∈ ds, d'.payload.jobId = job) →
        worker.CheckpointsDispatch rt d) ∧
      RedeliversAfterCheckpoint worker job (worker.deliver rt d) ds

variable {worker : JobConsumerWorker} {rt : Runtime} {d : Delivery}

/-! ## The rows of one delivery -/

/-- The rows a delivery adds: those of its tool calls and then, if its dispatch
visit took place, the ones the dispatch node added. -/
theorem deliver_rows (worker : JobConsumerWorker) (rt : Runtime) (h : runsGraph d = true) :
    ∃ tools replies, (worker.deliver rt d).world.outbox.rows =
        rt.world.outbox.rows ++ tools ++ replies ∧
      (∀ r ∈ tools, IsToolRow (some (worker.runId rt)) r) ∧
      (replies ≠ [] → ∃ v ∈ worker.executedVisits rt d, v.node = .commandDispatch ∧
        v.worldAfter.outbox.rows = v.worldBefore.outbox.rows ++ replies) := by
  have hpart (k : Nat) := rows_of_take worker.deps.deps worker.langGraph.recursionLimit
    (worker.startState d.payload rt) (startWorld rt) k
    (by decide : Node.eligibility ≠ .memoryWriter)
  cases hinterruption : d.interruption with
  | none =>
      obtain ⟨tools, replies, hrows, hall, hreply⟩ :=
        hpart (worker.ainvoke d.payload rt).1.length
      have htake : (worker.ainvoke d.payload rt).1.take (worker.ainvoke d.payload rt).1.length =
          (worker.ainvoke d.payload rt).1 := List.take_length
      refine ⟨tools, replies, ?_, hall, ?_⟩
      · simp only [deliver, worldAfter, h, hinterruption, if_true]
        rw [← htake]
        exact hrows
      · intro hne
        obtain ⟨v, hv, hvisit⟩ := hreply hne
        refine ⟨v, ?_, hvisit⟩
        simp only [executedVisits, h, hinterruption, if_true]
        exact List.mem_of_mem_take hv
  | some i =>
      obtain ⟨tools, replies, hrows, hall, hreply⟩ :=
        hpart i.executed
      have hexecuted : worker.executedVisits rt d =
          (worker.ainvoke d.payload rt).1.take i.executed := by
        simp only [executedVisits, h, hinterruption, if_true]
      rw [hexecuted]
      cases hnext : (worker.ainvoke d.payload rt).1[i.executed]? with
      | none =>
          refine ⟨tools, replies, ?_, hall, hreply⟩
          simp only [deliver, worldAfter, h, hinterruption, hnext, if_true]
          rw [← List.take_of_length_le (List.getElem?_eq_none_iff.1 hnext)]
          exact hrows
      | some v =>
          have hworld : (worker.deliver rt d).world = worker.interruptedWorld v i.toolCalls := by
            simp only [deliver, worldAfter, h, hinterruption, hnext, if_true]
          rw [hworld]
          unfold interruptedWorld
          split
          next htool =>
            have hv := List.mem_of_getElem? hnext
            obtain ⟨before, hbefore, hall'⟩ := tools_before_dispatch hv (by rw [htool]; decide)
            obtain ⟨more, hmore, hof⟩ := (executeToolCalls_effect worker.deps.uuids
              worker.deps.gateway ((v.pre.toolCallsPending.getD []).take i.toolCalls)).outbox
            refine ⟨before ++ more, [], ?_, ?_, by simp⟩
            · rw [hmore, hbefore, List.append_nil, List.append_assoc]
              rfl
            · intro r hr
              rcases List.mem_append.1 hr with hr | hr
              · exact hall' r hr
              · have hrow : IsToolRow v.pre.runId r := hof r hr
                rw [(visit_effect hv).1.1.runId] at hrow
                exact hrow
          next =>
            refine ⟨tools, replies, ?_, hall, hreply⟩
            rw [StateGraph.worldBefore_of_getElem? _ hnext]
            exact hrows

/-- Its dispatch adds at most one row, a reply under the key of the run. -/
theorem deliver_reply (worker : JobConsumerWorker) (rt : Runtime) (h : runsGraph d = true) :
    ∃ tools replies, (worker.deliver rt d).world.outbox.rows =
        rt.world.outbox.rows ++ tools ++ replies ∧
      (∀ r ∈ tools, IsToolRow (some (worker.runId rt)) r) ∧
      replies.length ≤ 1 ∧
      (∀ r ∈ replies, r.idempotencyKey = responseKey (some (worker.runId rt))) ∧
      (replies ≠ [] → (rt.checkpoints d.payload.threadId).sent = false ∧
        (worker.CheckpointsDispatch rt d → (worker.checkpointAfter rt d).sent = true)) := by
  obtain ⟨tools, replies, hrows, hall, hreply⟩ := deliver_rows worker rt h
  by_cases hempty : replies = []
  · subst hempty
    exact ⟨tools, [], hrows, hall, by simp, by simp, by simp⟩
  obtain ⟨v, hv, hnode, hadded⟩ := hreply hempty
  have hvisited := executedVisits_subset hv
  obtain ⟨hpost, hafter⟩ := dispatch_visit hvisited hnode
  have hrun : v.pre.runId = some (worker.runId rt) := (visit_effect hvisited).1.1.runId
  have hsent : v.pre.sent = (rt.checkpoints d.payload.threadId).sent :=
    (sent_of_visit hvisited (by rw [hnode]; decide)).trans (sent_startState worker rt d.payload)
  have hchanged : (commandDispatchNode worker.deps.uuids (some worker.deps.outboxService) v.pre
      v.worldBefore).2.outbox.rows ≠ v.worldBefore.outbox.rows := by
    rw [← hafter, hadded]
    intro hsame
    exact hempty (List.append_right_eq_self.1 hsame)
  obtain ⟨hunsent, hcontent, hcommitted⟩ := commandDispatchNode_of_changed hchanged
  rcases commandDispatchNode_rows worker.deps.uuids worker.deps.outboxService v.pre v.worldBefore
    with hsame | ⟨r, ⟨-, hkey, -⟩, hone⟩
  · exact absurd hsame hchanged
  · have hreplies : replies = [r] := by
      rw [← hafter, hadded] at hone
      exact List.append_cancel_left hone
    subst hreplies
    refine ⟨tools, [r], hrows, hall, by simp, ?_, ?_⟩
    · intro r' hr'
      rw [List.mem_singleton.1 hr', hkey, hrun]
    · intro _
      refine ⟨hsent.symm.trans hunsent, ?_⟩
      intro hcheckpoints
      have hcase := hcheckpoints v hv ⟨hnode, hcontent, hunsent⟩
      have hpersisted : v ∈ worker.persistedVisits rt d ∧
          ∀ e, worker.deps.outboxService.session v.worldBefore.draws ≠ .commitsThenFails e := by
        cases hsession : worker.deps.outboxService.session v.worldBefore.draws with
        | fails e => exact absurd hsession (hcommitted e)
        | commits =>
            rw [hsession] at hcase
            exact ⟨hcase, by simp⟩
        | commitsThenFails e =>
            rw [hsession] at hcase
            exact hcase.elim
      obtain ⟨hpersisted, hsession⟩ := hpersisted
      have hvsent : v.post.sent = true := by
        rw [hpost]
        rcases (runNode_update worker.deps.deps .commandDispatch v.pre v.worldBefore).responseSent
          with hnone | ⟨hsome, -⟩
        · exact absurd (congrArg Table.rows (commandDispatchNode_of_unsent hsession hnone)) hchanged
        · exact sent_merge_of_some hsome
      exact sent_checkpointAfter_of_mem hpersisted hvsent

/-! ## Histories -/

theorem replyRows_append (ids : List String) (rows rows' : List OutboxRow) :
    replyRows ids (rows ++ rows') = replyRows ids rows ++ replyRows ids rows' :=
  List.filter_append ..

theorem replyRows_eq_nil {ids : List String} {rows : List OutboxRow}
    (h : ∀ r ∈ rows, ∀ id ∈ ids, r.idempotencyKey ≠ responseKey (some id)) :
    replyRows ids rows = [] := by
  unfold replyRows
  rw [List.filter_eq_nil_iff]
  intro r hr hfilter
  simp only [Bool.and_eq_true, List.any_eq_true, decide_eq_true_eq] at hfilter
  obtain ⟨-, id, hid, hkey⟩ := hfilter
  exact h r hr id hid hkey

/-- A run id that no row belongs to does not change what is selected. -/
theorem replyRows_append_id {ids : List String} {id : String} {rows : List OutboxRow}
    (h : ∀ r ∈ rows, r.idempotencyKey ≠ responseKey (some id)) :
    replyRows (ids ++ [id]) rows = replyRows ids rows := by
  unfold replyRows
  apply List.filter_congr
  intro r hr
  simp [h r hr]

/-- Along a history: the job has at most one row so far, and if it has one and
is yet to be redelivered, the checkpoint of its thread knows of it. -/
structure AtMostOneReply (worker : JobConsumerWorker) (job : JobId) (rt : Runtime)
    (ids : List String) (redelivered : Prop) : Prop where
  fresh : FreshReplies worker.deps.uuids rt.world
  drawn : ∀ id ∈ ids, ∃ i < rt.world.draws, id = worker.deps.uuids.gen i
  count : (replyRows ids rt.world.outbox.rows).length ≤ 1
  sent : replyRows ids rt.world.outbox.rows ≠ [] → redelivered →
    (rt.checkpoints job.threadId).sent = true

/-- A delivery that does not run the graph leaves the runtime alone. -/
theorem deliver_of_not_runs (h : runsGraph d = false) : worker.deliver rt d = rt := by
  have hcheckpoint : worker.checkpointAfter rt d = rt.checkpoints d.payload.threadId := by
    simp [checkpointAfter, h]
  have hcheckpoints : (worker.deliver rt d).checkpoints = rt.checkpoints := by
    change Function.update rt.checkpoints d.payload.threadId (worker.checkpointAfter rt d) = _
    rw [hcheckpoint, Function.update_eq_self]
  have hworld := deliver_world_of_not_runs worker rt h
  calc worker.deliver rt d
      = ⟨(worker.deliver rt d).checkpoints, (worker.deliver rt d).world⟩ := rfl
    _ = rt := by rw [hcheckpoints, hworld]

theorem sent_deliver (thread : String) (h : (rt.checkpoints thread).sent = true) :
    ((worker.deliver rt d).checkpoints thread).sent = true := by
  change (Function.update rt.checkpoints d.payload.threadId (worker.checkpointAfter rt d)
    thread).sent = true
  by_cases hthread : thread = d.payload.threadId
  · subst hthread
    rw [Function.update_self]
    exact sent_checkpointAfter h
  · rw [Function.update_of_ne hthread]
    exact h

section Step

variable {job : JobId} {ids : List String} {redelivered redelivered' : Prop}

/-- The rows of earlier runs are what they were. -/
theorem AtMostOneReply.replyRows_earlier (h : worker.AtMostOneReply job rt ids redelivered)
    (hruns : runsGraph d = true) :
    replyRows ids (worker.deliver rt d).world.outbox.rows =
      replyRows ids rt.world.outbox.rows := by
  obtain ⟨tools, replies, hrows, hall, -, hkeys, -⟩ := deliver_reply worker rt hruns
  have hforeign : ∀ r ∈ tools ++ replies, ∀ id ∈ ids,
      r.idempotencyKey ≠ responseKey (some id) := by
    intro r hr id hid hkey
    obtain ⟨i, hi, rfl⟩ := h.drawn id hid
    rcases List.mem_append.1 hr with hr | hr
    · exact responseKey_ne_of_isToolRow (hall r hr) hkey
    · have heq := responseKey_injective ((hkeys r hr).symm.trans hkey)
      omega
  rw [hrows, List.append_assoc, replyRows_append, replyRows_eq_nil hforeign, List.append_nil]

/-- With the run of the delivery, at most one row comes in, and none where the
checkpoint knows of one. -/
theorem AtMostOneReply.replyRows_deliver (h : worker.AtMostOneReply job rt ids redelivered)
    (hruns : runsGraph d = true) :
    ∃ added, replyRows (ids ++ [worker.runId rt]) (worker.deliver rt d).world.outbox.rows =
        replyRows ids rt.world.outbox.rows ++ added ∧
      added.length ≤ 1 ∧
      (added ≠ [] → (rt.checkpoints d.payload.threadId).sent = false ∧
        (worker.CheckpointsDispatch rt d → (worker.checkpointAfter rt d).sent = true)) := by
  obtain ⟨tools, replies, hrows, hall, hcount, -, hsent⟩ := deliver_reply worker rt hruns
  have htools : replyRows (ids ++ [worker.runId rt]) tools = [] :=
    replyRows_eq_nil fun r hr id _ => responseKey_ne_of_isToolRow (hall r hr)
  have hbefore : replyRows (ids ++ [worker.runId rt]) rt.world.outbox.rows =
      replyRows ids rt.world.outbox.rows :=
    replyRows_append_id fun r hr => h.fresh _ (Nat.le_succ _) r hr
  refine ⟨replyRows (ids ++ [worker.runId rt]) replies, ?_,
    Nat.le_trans (List.length_filter_le _ _) hcount, fun hadded => hsent ?_⟩
  · rw [hrows, replyRows_append, replyRows_append, htools, hbefore, List.append_nil]
  · rintro rfl
    exact hadded rfl

theorem AtMostOneReply.drawn_deliver (h : worker.AtMostOneReply job rt ids redelivered)
    (hruns : runsGraph d = true) :
    ∀ id ∈ ids ++ worker.newRunIds job rt d,
      ∃ i < (worker.deliver rt d).world.draws, id = worker.deps.uuids.gen i := by
  have hdraws : rt.world.draws + 2 ≤ (worker.deliver rt d).world.draws :=
    (worldAfter_effect hruns).draws
  intro id hid
  rcases List.mem_append.1 hid with hid | hid
  · obtain ⟨i, hi, rfl⟩ := h.drawn id hid
    exact ⟨i, by omega, rfl⟩
  · unfold newRunIds at hid
    split at hid
    · rw [List.mem_singleton.1 hid]
      exact ⟨rt.world.draws + 1, by omega, rfl⟩
    · cases hid

/-- A delivery of another job. -/
theorem AtMostOneReply.deliver_other (h : worker.AtMostOneReply job rt ids redelivered)
    (hredelivered : redelivered' → redelivered) (hruns : runsGraph d = true)
    (hd : d.payload.jobId ≠ job) :
    worker.AtMostOneReply job (worker.deliver rt d) (ids ++ worker.newRunIds job rt d)
      redelivered' := by
  have hdrawn := h.drawn_deliver hruns
  have hnew : worker.newRunIds job rt d = [] := by simp [newRunIds, hd]
  rw [hnew, List.append_nil] at hdrawn ⊢
  have hold := h.replyRows_earlier hruns
  refine ⟨FreshReplies.deliver h.fresh d, hdrawn, by rw [hold]; exact h.count, ?_⟩
  rw [hold]
  intro hne hmore
  exact sent_deliver _ (h.sent hne (hredelivered hmore))

/-- A delivery of the job itself. -/
theorem AtMostOneReply.deliver_job (h : worker.AtMostOneReply job rt ids redelivered)
    (hruns : runsGraph d = true) (hd : d.payload.jobId = job) (hmore : redelivered)
    (hcheckpoints : redelivered' → worker.CheckpointsDispatch rt d) :
    worker.AtMostOneReply job (worker.deliver rt d) (ids ++ worker.newRunIds job rt d)
      redelivered' := by
  have hdrawn := h.drawn_deliver hruns
  have hnew : worker.newRunIds job rt d = [worker.runId rt] := by simp [newRunIds, hd, hruns]
  have hthread : d.payload.threadId = job.threadId := by
    rw [← hd]
    rfl
  obtain ⟨added, hselected, hcount, hsent⟩ := h.replyRows_deliver hruns
  rw [hnew] at hdrawn ⊢
  by_cases hempty : added = []
  · -- nothing new: the row of an earlier delivery, if any, stays the only one
    rw [hempty, List.append_nil] at hselected
    refine ⟨FreshReplies.deliver h.fresh d, hdrawn, by rw [hselected]; exact h.count, ?_⟩
    rw [hselected]
    intro hne _
    exact sent_deliver _ (h.sent hne hmore)
  · -- a new reply: the checkpoint knew of none, so there was none
    obtain ⟨hunsent, hknows⟩ := hsent hempty
    have hnone : replyRows ids rt.world.outbox.rows = [] := by
      by_contra hne
      have hclaimed := h.sent hne hmore
      rw [← hthread, hunsent] at hclaimed
      cases hclaimed
    rw [hnone, List.nil_append] at hselected
    refine ⟨FreshReplies.deliver h.fresh d, hdrawn, by rw [hselected]; exact hcount, ?_⟩
    intro _ hmore'
    change (Function.update rt.checkpoints d.payload.threadId
      (worker.checkpointAfter rt d) job.threadId).sent = true
    rw [← hthread, Function.update_self]
    exact hknows (hcheckpoints hmore')

theorem AtMostOneReply.deliver (h : worker.AtMostOneReply job rt ids redelivered)
    (hredelivered : redelivered' → redelivered)
    (hjob : d.payload.jobId = job →
      redelivered ∧ (redelivered' → worker.CheckpointsDispatch rt d)) :
    worker.AtMostOneReply job (worker.deliver rt d) (ids ++ worker.newRunIds job rt d)
      redelivered' := by
  cases hruns : runsGraph d with
  | false =>
      rw [deliver_of_not_runs hruns]
      have hnone : worker.newRunIds job rt d = [] := by simp [newRunIds, hruns]
      rw [hnone, List.append_nil]
      exact ⟨h.fresh, h.drawn, h.count, fun hne hmore => h.sent hne (hredelivered hmore)⟩
  | true =>
      by_cases hd : d.payload.jobId = job
      · obtain ⟨hmore, hcheckpoints⟩ := hjob hd
        exact h.deliver_job hruns hd hmore hcheckpoints
      · exact h.deliver_other hredelivered hruns hd

end Step

/-- The run lemma: what holds of a history so far holds of the rest of it. -/
theorem AtMostOneReply.deliverAll {job : JobId} {ids : List String} {ds : List Delivery}
    (h : worker.AtMostOneReply job rt ids (∃ d ∈ ds, d.payload.jobId = job))
    (hsafe : worker.RedeliversAfterCheckpoint job rt ds) :
    (replyRows (ids ++ worker.runIds job rt ds)
      (worker.deliverAll rt ds).world.outbox.rows).length ≤ 1 := by
  induction ds generalizing rt ids with
  | nil =>
      rw [runIds, List.append_nil]
      exact h.count
  | cons d ds ih =>
      obtain ⟨hcheckpoints, hrest⟩ := hsafe
      have hstep : worker.AtMostOneReply job (worker.deliver rt d)
          (ids ++ worker.newRunIds job rt d) (∃ d' ∈ ds, d'.payload.jobId = job) := by
        refine h.deliver ?_ ?_
        · rintro ⟨d', hd', hjob⟩
          exact ⟨d', List.mem_cons_of_mem _ hd', hjob⟩
        · intro hjob
          exact ⟨⟨d, List.mem_cons_self, hjob⟩, hcheckpoints hjob⟩
      have hrun := ih hstep hrest
      rwa [List.append_assoc] at hrun

end JobConsumerWorker

open JobConsumerWorker

/-- Along every history from a fresh runtime in which no delivery of a job is
followed by another one before the checkpoint has its dispatch step, at most one
`send_message` row is inserted for the job. -/
theorem replyRows_le_one_of_redelivers_after_checkpoint (worker : JobConsumerWorker)
    (start : Runtime) (hfresh : FreshReplies worker.deps.uuids start.world) (job : JobId)
    (ds : List Delivery) (hsafe : worker.RedeliversAfterCheckpoint job start ds) :
    (replyRows (worker.runIds job start ds)
      (worker.deliverAll start ds).world.outbox.rows).length ≤ 1 := by
  have hempty : replyRows [] start.world.outbox.rows = [] := replyRows_eq_nil (by simp)
  have hstart : worker.AtMostOneReply job start [] (∃ d ∈ ds, d.payload.jobId = job) :=
    ⟨hfresh, by simp, by simp [hempty], fun hne _ => absurd hempty hne⟩
  exact hstart.deliverAll hsafe

/-- A redelivery of a job that was handled to the end. -/
theorem greeting_twice_replyRows_le_one :
    (replyRows ((plainWorker parrot).runIds greeting.jobId emptyRuntime
        [{ payload := greeting }, { payload := greeting }])
      ((plainWorker parrot).deliverAll emptyRuntime
        [{ payload := greeting }, { payload := greeting }]).world.outbox.rows).length ≤ 1 := by
  apply replyRows_le_one_of_redelivers_after_checkpoint
  · exact freshReplies_emptyRuntime _
  · refine ⟨fun _ _ v hv _ => ?_, fun _ hmore => ?_, trivial⟩
    · have hending : ((plainWorker parrot).ainvoke greeting emptyRuntime).2 = .finished := by
        decide +kernel
      have hruns : runsGraph { payload := greeting } = true := by decide +kernel
      change v ∈ (plainWorker parrot).persistedVisits emptyRuntime { payload := greeting }
      simpa [persistedVisits, executedVisits, committed, hruns, hending] using hv
    · simp at hmore

/-- Answers its first call differently from later ones. -/
def wavering : Llm where
  ainvoke draw _ _ := .ok { content := .text (if draw < 5 then "Oi" else "Dez") }

/-- A worker that dies between the commit of the dispatch and its checkpoint, and
the redelivery of the job: two rows. -/
theorem greeting_redelivered_twice_replied :
    (replyRows ((plainWorker wavering).runIds greeting.jobId emptyRuntime
        [{ payload := greeting, interruption := some { executed := 6, persisted := some 5 } },
          { payload := greeting }])
      ((plainWorker wavering).deliverAll emptyRuntime
        [{ payload := greeting, interruption := some { executed := 6, persisted := some 5 } },
          { payload := greeting }]).world.outbox.rows).length = 2 := by
  decide +kernel

end Iara.Workers
