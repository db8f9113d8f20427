import Iara.Graph.Production

/-!
# Scheduled follow-ups

`_execute_follow_up` reports a follow-up as scheduled whether or not its row was
written.  Which calls leave the row that they report, and that in production none
of a new key does.
-/

namespace Iara.Persistence

open Iara.Lib

namespace FollowUpRepository

variable {session : Transaction} {itemId k : String} {payload : FollowUpPayload}
  {queue : FollowUpQueue}

/-- After an enqueue the key of the payload is in the queue if it was there before, or
if the tenant id is one and the session writes. -/
theorem hasKey_enqueueRaw :
    (enqueueRaw session itemId payload queue).2.hasKey payload.idempotencyKey = true ↔
      queue.hasKey payload.idempotencyKey = true ∨
        (parseUuid payload.tenantId).isSome = true ∧ session.writes = true := by
  unfold enqueueRaw
  cases parseUuid payload.tenantId with
  | none => simp
  | some tenant =>
      have hwritten : (queue.insertOrIgnore (item itemId tenant payload)).hasKey
          payload.idempotencyKey = true := by
        rw [Table.hasKey_insertOrIgnore]
        simp [item]
      cases session <;> simp [Transaction.writes, hwritten]

end FollowUpRepository

end Iara.Persistence

namespace Iara.Tools

open Iara.Lib Iara.Persistence

namespace ToolExecutor

/-- The executor with the payloads of the catalog. -/
def withCatalog (executor : ToolExecutor) (runtime : FollowUpRuntime) : ToolExecutor :=
  { executor with buildFollowupSchedulePayload := runtime.buildFollowupSchedulePayload }

def ReportsScheduled (result : ToolInvocationResult) : Prop :=
  result.status = .success ∧ result.resultData.lookup "status" = some (.str "scheduled")

/-- A call that reports a scheduled follow-up leaves a row under its key. -/
def FollowUpExists (executor : ToolExecutor) (draw : Nat) (request : ToolInvocationRequest)
    (queue : FollowUpQueue) : Prop :=
  ∀ result, (executor.executeFollowUp draw request queue).1 = .ok result →
    ReportsScheduled result →
    ∃ item ∈ (executor.executeFollowUp draw request queue).2.rows,
      item.idempotencyKey = request.idempotencyKey

/-- The call is neither opted out of nor malformed. -/
def Schedulable (executor : ToolExecutor) (draw : Nat) (request : ToolInvocationRequest) : Prop :=
  ∃ payload, executor.buildFollowupSchedulePayload draw request.arguments executor.tenantId
    (executor.conversationArgument request.arguments) request.idempotencyKey
    request.correlationId = .ok (.scheduled payload)

/-- The key has a row, or one can be written for it. -/
def RowWritable (executor : ToolExecutor) (draw : Nat) (request : ToolInvocationRequest)
    (queue : FollowUpQueue) : Prop :=
  queue.hasKey request.idempotencyKey = true ∨
    ∃ session, executor.followUpRepo = some session ∧
      (parseUuid executor.tenantId).isSome = true ∧ (session draw).writes = true

variable {executor : ToolExecutor} {runtime : FollowUpRuntime} {draw : Nat}
  {request : ToolInvocationRequest} {queue : FollowUpQueue}

theorem exists_row_iff {key : String} :
    (∃ item ∈ queue.rows, item.idempotencyKey = key) ↔ queue.hasKey key = true := by
  unfold Table.hasKey
  rw [List.any_eq_true]
  simp

/-- A call that schedules reports so, and its row is there if it can be. -/
theorem executeFollowUp_schedulable (queue : FollowUpQueue)
    (h : (executor.withCatalog runtime).Schedulable draw request) :
    (∃ result, ((executor.withCatalog runtime).executeFollowUp draw request queue).1 =
        .ok result ∧ ReportsScheduled result) ∧
      (((executor.withCatalog runtime).executeFollowUp draw request queue).2.hasKey
        request.idempotencyKey = true ↔
          (executor.withCatalog runtime).RowWritable draw request queue) := by
  obtain ⟨payload, hbuild⟩ := h
  obtain ⟨htenant, -, hkey, -⟩ := FollowUpRuntime.scheduled_spec hbuild
  unfold executeFollowUp
  rw [hbuild]
  refine ⟨⟨_, rfl, rfl, rfl⟩, ?_⟩
  unfold RowWritable
  cases hrepo : (executor.withCatalog runtime).followUpRepo with
  | none => simp
  | some session =>
      simp only [Option.some.injEq, exists_eq_left']
      rw [← hkey, FollowUpRepository.hasKey_enqueueRaw, htenant]

/-- A call that does not schedule does not report so. -/
theorem not_reports_of_not_schedulable {result : ToolInvocationResult}
    (h : ¬ (executor.withCatalog runtime).Schedulable draw request)
    (hok : ((executor.withCatalog runtime).executeFollowUp draw request queue).1 = .ok result) :
    ¬ ReportsScheduled result := by
  unfold executeFollowUp at hok
  cases hbuild : (executor.withCatalog runtime).buildFollowupSchedulePayload draw
      request.arguments (executor.withCatalog runtime).tenantId
      ((executor.withCatalog runtime).conversationArgument request.arguments) request.idempotencyKey
      request.correlationId with
  | error exception =>
      rw [hbuild] at hok
      cases hok
  | ok decision =>
      cases decision with
      | scheduled payload => exact absurd ⟨payload, hbuild⟩ h
      | skipped skipped =>
          rw [hbuild] at hok
          cases hok
          have hstatus : skipped.lookup "status" = some (.str "skipped") := by
            rw [FollowUpRuntime.skipped_eq hbuild]
            rfl
          rintro ⟨-, hscheduled⟩
          rw [hstatus] at hscheduled
          simp at hscheduled

/-- A reported follow-up exists exactly where its row can be written, if it is not
there already. -/
theorem followUpExists_iff (executor : ToolExecutor) (runtime : FollowUpRuntime) (draw : Nat)
    (request : ToolInvocationRequest) (queue : FollowUpQueue) :
    (executor.withCatalog runtime).FollowUpExists draw request queue ↔
      ((executor.withCatalog runtime).Schedulable draw request →
        (executor.withCatalog runtime).RowWritable draw request queue) := by
  unfold FollowUpExists
  constructor
  · intro hexists hschedulable
    obtain ⟨⟨result, hok, hreports⟩, hrow⟩ :=
      executeFollowUp_schedulable queue hschedulable
    exact hrow.mp (exists_row_iff.mp (hexists result hok hreports))
  · intro hwritable result hok hreports
    by_cases hschedulable : (executor.withCatalog runtime).Schedulable draw request
    · exact exists_row_iff.mpr
        ((executeFollowUp_schedulable queue hschedulable).2.mpr (hwritable hschedulable))
    · exact absurd hreports (not_reports_of_not_schedulable hschedulable hok)

end ToolExecutor

end Iara.Tools

namespace Iara.Graph

open Iara.Lib Iara.Persistence Iara.Tools

/-! ## A follow-up in production -/

/-- The standard library at noon, as far as a message "Oi" calls it. -/
def noonRuntime : FollowUpRuntime where
  time :=
    { fromIsoFormat := fun _ => none
      isoFormat := fun _ => "1970-01-01T13:00:00+00:00" }
  clock := fun _ => .nearest (12 * Datetime.hour) none
  sha256 := fun _ => "4abbf38454d626d892e276a3f43c71c639681c94fb2154bdbaf22e30c27a2f0b"
  str := fun _ => ""
  int := fun _ => .ok 3
  float := fun _ => .error "ValueError"

/-- The executor that `build_production_graph` builds, over a database that accepts
every session. -/
def productionExecutor : ToolExecutor where
  text := plainText
  uuids := .unary
  tenantId := productionTenant
  outboxService := some { session := fun _ => .commits }
  followUpRepo := some fun _ => .commits
  handleRead := fun _ _ _ => .ok []
  buildFollowupSchedulePayload := noonRuntime.buildFollowupSchedulePayload

def reengage : ToolInvocationRequest where
  invocationId := "invocation"
  toolName := "followup_reengage_conversation"
  arguments := [("message", .str "Oi")]
  tenantId := 1
  conversationId := "7"
  correlationId := "correlation"
  idempotencyKey := "run:call"
  callId := "call"

/-- The follow-up is reported as scheduled, and the queue stays empty. -/
theorem reengage_not_exists :
    ¬ (productionExecutor.withCatalog noonRuntime).FollowUpExists 0 reengage .empty := by
  intro h
  obtain ⟨item, hitem, -⟩ := h _ rfl ⟨rfl, rfl⟩
  have hempty : ((productionExecutor.withCatalog noonRuntime).executeFollowUp 0 reengage
      .empty).2.rows = [] := by decide +kernel
  rw [hempty] at hitem
  cases hitem

end Iara.Graph
