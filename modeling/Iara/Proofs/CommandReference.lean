import Iara.Graph.Nodes.Agent
import Iara.Tools.Gateway

/-!
# References to outbox commands

A tool call that goes to the outbox returns the id of a command that it drew before
an insert that the unique key can ignore.  Over any sequence of calls the ids name
the callers' rows exactly as long as no key is used again.
-/

namespace Iara.Tools

open Iara.Lib Iara.Persistence

/-- One call of `_execute_with_outbox`; `draw` numbers the UUID drawn for it. -/
structure OutboxCall where
  draw : Nat
  now : Nat
  request : ToolInvocationRequest
  policy : PolicyCheckResult

namespace ToolExecutor

variable (executor : ToolExecutor)

def answer (call : OutboxCall) (outbox : Outbox) : Except String ToolInvocationResult × Outbox :=
  executor.executeWithOutbox call.draw call.now call.request call.policy outbox

/-- The outbox after the calls, one after the other. -/
def runCalls (outbox : Outbox) (calls : List OutboxCall) : Outbox :=
  calls.foldl (fun outbox call => (executor.answer call outbox).2) outbox

/-- Every id that a call of the run returned is, at its end, the id of a row with the
arguments of that call. -/
def NamesRows (outbox : Outbox) (calls : List OutboxCall) : Prop :=
  ∀ earlier call later, calls = earlier ++ call :: later →
    ∀ result c, (executor.answer call (executor.runCalls outbox earlier)).1 = .ok result →
      result.outboxCommandId = some c →
      ∃ r ∈ (executor.runCalls outbox calls).rows,
        r.commandId = c ∧ r.parametersJson = call.request.arguments

/-- The UUIDs of the calls are fresh. -/
structure DrawsFresh (outbox : Outbox) (calls : List OutboxCall) : Prop where
  distinct : (calls.map OutboxCall.draw).Nodup
  unused : ∀ call ∈ calls, ∀ r ∈ outbox.rows, r.commandId ≠ executor.uuids.gen call.draw

/-- The call reaches the outbox in a session that writes, for this tenant. -/
def Writes (call : OutboxCall) (tenant : Uuid) : Prop :=
  ∃ service, executor.outboxService = some service ∧ parseUuid executor.tenantId = some tenant ∧
    (service.session call.draw).writes = true

/-- The call is answered with a reference. -/
def Queues (call : OutboxCall) (tenant : Uuid) : Prop :=
  ∃ service, executor.outboxService = some service ∧ parseUuid executor.tenantId = some tenant ∧
    service.session call.draw = .commits

/-- The key of every call that is answered with a reference is neither in the outbox
at the start nor that of an earlier call that wrote. -/
def KeysFresh (outbox : Outbox) (calls : List OutboxCall) : Prop :=
  ∀ earlier call later, calls = earlier ++ call :: later →
    ∀ tenant, executor.Queues call tenant →
      outbox.hasKey (tenant, call.request.idempotencyKey) = false ∧
        ∀ call' ∈ earlier, executor.Writes call' tenant →
          call'.request.idempotencyKey ≠ call.request.idempotencyKey

/-! ## What a call writes -/

/-- The row of a call for this tenant. -/
def callRow (call : OutboxCall) (tenant : Uuid) : OutboxRow :=
  OutboxRepository.row call.now
    { commandId := executor.uuids.gen call.draw
      idempotencyKey := call.request.idempotencyKey
      tenantId := tenant
      provider := "chatwoot"
      accountIdRef := ""
      capabilityName := call.request.toolName
      parameters := call.request.arguments
      correlationId := call.request.correlationId }

/-- The row that a call inserts where its key is free. -/
def inserted (call : OutboxCall) : Option OutboxRow :=
  match executor.outboxService, parseUuid executor.tenantId with
  | some service, some tenant =>
      if (service.session call.draw).writes then some (executor.callRow call tenant) else none
  | _, _ => none

variable {executor} {call : OutboxCall} {calls : List OutboxCall} {outbox : Outbox} {tenant : Uuid}
  {row : OutboxRow}

theorem inserted_eq_some_iff :
    executor.inserted call = some row ↔
      ∃ tenant, executor.Writes call tenant ∧ row = executor.callRow call tenant := by
  unfold inserted Writes
  cases executor.outboxService with
  | none => simp
  | some service =>
      cases parseUuid executor.tenantId with
      | none => simp
      | some tenant =>
          simp only [Option.ite_none_right_eq_some, Option.some.injEq]
          constructor
          · rintro ⟨hwrites, rfl⟩
            exact ⟨tenant, ⟨service, rfl, rfl, hwrites⟩, rfl⟩
          · rintro ⟨tenant', ⟨service', hservice, htenant, hwrites⟩, hrow⟩
            subst hservice htenant
            exact ⟨hwrites, hrow.symm⟩

theorem Queues.writes (h : executor.Queues call tenant) : executor.Writes call tenant := by
  obtain ⟨service, hservice, htenant, hcommits⟩ := h
  exact ⟨service, hservice, htenant, by rw [hcommits]; rfl⟩

theorem Queues.inserted (h : executor.Queues call tenant) :
    executor.inserted call = some (executor.callRow call tenant) :=
  inserted_eq_some_iff.mpr ⟨tenant, h.writes, rfl⟩

theorem answer_outbox (call : OutboxCall) (outbox : Outbox) :
    (executor.answer call outbox).2 = outbox.insertAll (executor.inserted call).toList := by
  unfold answer executeWithOutbox inserted
  cases executor.outboxService with
  | none => rfl
  | some service =>
      unfold OutboxService.enqueueToolCommand OutboxService.enqueueCommand
      cases parseUuid executor.tenantId with
      | none => rfl
      | some tenant =>
          cases hsession : service.session call.draw with
          | commits =>
              simp only [hsession, Transaction.writes, if_true]
              rfl
          | fails e =>
              simp only [hsession, Transaction.writes, Bool.false_eq_true, if_false]
              rfl
          | commitsThenFails e =>
              simp only [hsession, Transaction.writes, if_true]
              rfl

/-- A reference is returned where a session commits, and it is the UUID of the call. -/
theorem answer_reference {result : ToolInvocationResult} {c : String}
    (hok : (executor.answer call outbox).1 = .ok result) (hc : result.outboxCommandId = some c) :
    ∃ tenant, executor.Queues call tenant ∧ c = executor.uuids.gen call.draw := by
  unfold answer executeWithOutbox at hok
  unfold Queues
  cases hservice : executor.outboxService with
  | none =>
      simp only [hservice] at hok
      cases hok
      cases hc
  | some service =>
      unfold OutboxService.enqueueToolCommand OutboxService.enqueueCommand at hok
      simp only [hservice] at hok
      cases htenant : parseUuid executor.tenantId with
      | none =>
          simp only [htenant] at hok
          cases hok
      | some tenant =>
          cases hsession : service.session call.draw with
          | commits =>
              simp only [htenant, hsession] at hok
              cases hok
              exact ⟨tenant, ⟨service, rfl, rfl, hsession⟩, (Option.some.inj hc).symm⟩
          | fails e =>
              simp only [htenant, hsession] at hok
              cases hok
          | commitsThenFails e =>
              simp only [htenant, hsession] at hok
              cases hok

theorem answer_of_queues (h : executor.Queues call tenant) (outbox : Outbox) :
    ∃ result, (executor.answer call outbox).1 = .ok result ∧
      result.outboxCommandId = some (executor.uuids.gen call.draw) := by
  obtain ⟨service, hservice, htenant, hcommits⟩ := h
  unfold answer executeWithOutbox
  unfold OutboxService.enqueueToolCommand OutboxService.enqueueCommand
  simp only [hservice, htenant, hcommits]
  exact ⟨_, rfl, rfl⟩

/-! ## Runs -/

/-- A run inserts the rows of its calls, one after the other. -/
theorem runCalls_eq (outbox : Outbox) (calls : List OutboxCall) :
    executor.runCalls outbox calls = outbox.insertAll (calls.filterMap executor.inserted) := by
  induction calls generalizing outbox with
  | nil => rfl
  | cons call calls ih =>
      have hfirst : executor.runCalls outbox (call :: calls) =
          executor.runCalls (executor.answer call outbox).2 calls := rfl
      rw [hfirst, ih, answer_outbox, ← Table.insertAll_append]
      cases hrow : executor.inserted call with
      | none => rw [List.filterMap_cons_none hrow, Option.toList_none, List.nil_append]
      | some row => rw [List.filterMap_cons_some hrow, Option.toList_some, List.singleton_append]

/-- The command id of a row that a run inserts tells the call. -/
theorem exists_call_of_inserted (h : row ∈ calls.filterMap executor.inserted) :
    ∃ call ∈ calls, ∃ tenant, executor.Writes call tenant ∧ row = executor.callRow call tenant := by
  obtain ⟨call, hcall, hrow⟩ := List.mem_filterMap.mp h
  exact ⟨call, hcall, inserted_eq_some_iff.mp hrow⟩

theorem keyFree_iff (h : executor.Queues call tenant) :
    (outbox.insertAll (calls.filterMap executor.inserted)).hasKey
        (executor.callRow call tenant).key = false ↔
      outbox.hasKey (tenant, call.request.idempotencyKey) = false ∧
        ∀ call' ∈ calls, executor.Writes call' tenant →
          call'.request.idempotencyKey ≠ call.request.idempotencyKey := by
  have hkey : (executor.callRow call tenant).key = (tenant, call.request.idempotencyKey) := rfl
  rw [← Bool.not_eq_true, Table.hasKey_insertAll, not_or, Bool.not_eq_true, hkey]
  apply and_congr_right
  intro _
  constructor
  · intro hnone call' hcall' hwrites hsame
    apply hnone
    refine ⟨executor.callRow call' tenant, List.mem_filterMap.mpr ⟨call', hcall', ?_⟩, ?_⟩
    · exact inserted_eq_some_iff.mpr ⟨tenant, hwrites, rfl⟩
    · exact congrArg (Prod.mk tenant) hsame
  · rintro hfree ⟨r, hr, hsame⟩
    obtain ⟨call', hcall', tenant', hwrites, rfl⟩ := exists_call_of_inserted hr
    have hpair : (tenant', call'.request.idempotencyKey) = (tenant, call.request.idempotencyKey) :=
      hsame
    obtain ⟨rfl, hkeys⟩ := Prod.mk.inj hpair
    exact hfree call' hcall' hwrites hkeys

section Draws

variable {earlier later : List OutboxCall}

theorem callRow_notMem (hother : ∀ call' ∈ calls, call'.draw ≠ call.draw) :
    executor.callRow call tenant ∉ calls.filterMap executor.inserted := by
  intro h
  obtain ⟨call', hcall', tenant', -, hrow⟩ := exists_call_of_inserted h
  have hid : executor.uuids.gen call.draw = executor.uuids.gen call'.draw :=
    congrArg OutboxRow.commandId hrow
  exact hother call' hcall' (executor.uuids.gen_injective hid).symm

theorem DrawsFresh.others (h : executor.DrawsFresh outbox (earlier ++ call :: later)) :
    (∀ call' ∈ earlier, call'.draw ≠ call.draw) ∧ ∀ call' ∈ later, call'.draw ≠ call.draw := by
  have hdistinct := h.distinct
  rw [List.map_append, List.map_cons, List.nodup_append] at hdistinct
  obtain ⟨-, hrest, hcross⟩ := hdistinct
  constructor
  · intro call' hcall'
    exact hcross _ (List.mem_map_of_mem hcall') _ List.mem_cons_self
  · intro call' hcall' hsame
    exact (List.nodup_cons.mp hrest).1 (hsame ▸ List.mem_map_of_mem hcall')

/-- A call that is answered with a reference has its row at the end of the run exactly
if its key was free when it was made. -/
theorem named_iff (h : executor.DrawsFresh outbox (earlier ++ call :: later))
    (hqueues : executor.Queues call tenant) :
    (∃ r ∈ (executor.runCalls outbox (earlier ++ call :: later)).rows,
      r.commandId = executor.uuids.gen call.draw ∧
        r.parametersJson = call.request.arguments) ↔
      (outbox.insertAll (earlier.filterMap executor.inserted)).hasKey
        (executor.callRow call tenant).key = false := by
  obtain ⟨hearlier, hlater⟩ := h.others
  have hstart : executor.callRow call tenant ∉ outbox.rows := fun hr =>
    h.unused call (List.mem_append_right _ List.mem_cons_self) _ hr rfl
  rw [runCalls_eq, List.filterMap_append, List.filterMap_cons_some hqueues.inserted]
  rw [← Table.mem_insertAll_iff hstart (callRow_notMem hearlier) (callRow_notMem hlater)]
  constructor
  · rintro ⟨r, hr, hid, -⟩
    -- no other row has the id of this call
    have hself : r = executor.callRow call tenant := by
      rcases Table.mem_insertAll hr with hold | hnew
      · exact absurd hid (h.unused call (List.mem_append_right _ List.mem_cons_self) r hold)
      · rw [← List.filterMap_cons_some hqueues.inserted, ← List.filterMap_append] at hnew
        obtain ⟨call', hcall', tenant', hwrites, rfl⟩ := exists_call_of_inserted hnew
        have hdraw : call'.draw = call.draw := executor.uuids.gen_injective hid
        rcases List.mem_append.mp hcall' with hin | hin
        · exact absurd hdraw (hearlier call' hin)
        · rcases List.mem_cons.mp hin with rfl | hin
          · obtain ⟨-, -, htenant, -⟩ := hqueues
            obtain ⟨-, -, htenant', -⟩ := hwrites
            rw [Option.some.inj (htenant.symm.trans htenant')]
          · exact absurd hdraw (hlater call' hin)
    rwa [hself] at hr
  · intro hr
    exact ⟨_, hr, rfl, rfl⟩

end Draws

/-- The references of a run of calls name the callers' rows exactly if the keys of the
calls are fresh. -/
theorem namesRows_iff (executor : ToolExecutor) (outbox : Outbox) (calls : List OutboxCall)
    (h : executor.DrawsFresh outbox calls) :
    executor.NamesRows outbox calls ↔ executor.KeysFresh outbox calls := by
  constructor
  · intro hnames earlier call later hcalls tenant hqueues
    obtain ⟨result, hok, hc⟩ := answer_of_queues hqueues (executor.runCalls outbox earlier)
    have hrow := hnames earlier call later hcalls result _ hok hc
    subst hcalls
    exact (keyFree_iff hqueues).mp ((named_iff h hqueues).mp hrow)
  · intro hkeys earlier call later hcalls result c hok hc
    obtain ⟨tenant, hqueues, rfl⟩ := answer_reference hok hc
    have hfree := hkeys earlier call later hcalls tenant hqueues
    subst hcalls
    exact (named_iff h hqueues).mpr ((keyFree_iff hqueues).mpr hfree)

end ToolExecutor

/-! ## Two calls with an empty id -/

section Example

open Iara.Graph

/-- The executor of a tenant, over a database that accepts every session. -/
def tenantExecutor : ToolExecutor where
  text := plainText
  uuids := .unary
  tenantId := formatUuid 1
  outboxService := some { session := fun _ => .commits }
  followUpRepo := none
  handleRead := fun _ _ _ => .ok []
  buildFollowupSchedulePayload := fun _ _ _ _ _ _ => .error "ValueError"

def noteState : GraphState where
  runId := some "run"
  tenantId := some (formatUuid 1)
  conversationId := some "7"
  correlationId := some "correlation"

def noteTool : String := "kanban_comment"

/-- What the node asks for on a call of the model with this id and comment. -/
def noteRequest (callId comment : String) : ToolInvocationRequest where
  invocationId := UuidSupply.unary.gen 0
  toolName := noteTool
  arguments := [("comment", .str comment)]
  tenantId := 1
  conversationId := "7"
  correlationId := "correlation"
  idempotencyKey := "run:" ++ callId
  callId := callId

def noteCall (draw : Nat) (callId comment : String) : OutboxCall where
  draw := draw
  now := 0
  request := noteRequest callId comment
  policy := .allow .writeConfirmed

theorem toolRequest_note (callId comment : String) :
    toolRequest .unary noteState ⟨some callId, noteTool, [("comment", .str comment)]⟩ 0 =
      .ok (noteRequest callId comment) := by
  have htenant : parseUuid (formatUuid 1) = some 1 := parseUuid_formatUuid 1
  unfold toolRequest
  simp only [noteState, htenant]
  rfl

def twoNotes : List OutboxCall := [noteCall 1 "a" "Oi", noteCall 2 "b" "Tchau"]

theorem twoNotes_namesRows : tenantExecutor.NamesRows .empty twoNotes := by
  have hfresh : tenantExecutor.DrawsFresh .empty twoNotes := ⟨by decide, by simp⟩
  refine (ToolExecutor.namesRows_iff tenantExecutor .empty twoNotes hfresh).mpr ?_
  intro earlier call later hcalls tenant _
  refine ⟨rfl, ?_⟩
  intro call' hcall' _ hsame
  have hnodup : (twoNotes.map fun call => call.request.idempotencyKey).Nodup := by decide
  rw [hcalls, List.map_append, List.map_cons, List.nodup_append] at hnodup
  exact hnodup.2.2 _ (List.mem_map_of_mem hcall') _ List.mem_cons_self hsame

/-- Of two calls of one reply with the empty id, the second returns the id of no row. -/
theorem emptyIds_not_named :
    (∀ comment, toolRequest .unary noteState ⟨some "", noteTool, [("comment", .str comment)]⟩ 0 =
        .ok (noteRequest "" comment)) ∧
      ¬ tenantExecutor.NamesRows .empty [noteCall 1 "" "Oi", noteCall 2 "" "Tchau"] := by
  refine ⟨toolRequest_note "", fun h => ?_⟩
  have hqueues : tenantExecutor.Queues (noteCall 2 "" "Tchau") 1 :=
    ⟨_, rfl, parseUuid_formatUuid 1, rfl⟩
  obtain ⟨result, hok, hc⟩ := ToolExecutor.answer_of_queues hqueues
    (tenantExecutor.runCalls .empty [noteCall 1 "" "Oi"])
  obtain ⟨r, hr, hid, -⟩ := h [noteCall 1 "" "Oi"] _ [] rfl result _ hok hc
  have hrows : (tenantExecutor.runCalls .empty
      [noteCall 1 "" "Oi", noteCall 2 "" "Tchau"]).rows =
        [tenantExecutor.callRow (noteCall 1 "" "Oi") 1] := by
    have hfirst : tenantExecutor.Queues (noteCall 1 "" "Oi") 1 :=
      ⟨_, rfl, parseUuid_formatUuid 1, rfl⟩
    rw [ToolExecutor.runCalls_eq, List.filterMap_cons_some hfirst.inserted,
      List.filterMap_cons_some hqueues.inserted, List.filterMap_nil]
    rfl
  rw [hrows, List.mem_singleton] at hr
  subst hr
  exact absurd (UuidSupply.unary.gen_injective hid) (by decide)

end Example

end Iara.Tools
