import Iara.Api.Hitl
import Iara.Lib.EventLog

/-!
# Registrations and decisions

A sequence of registrations and of `approve_hold` and `reject_hold` calls, each
with its own session, and the events it leads to.  `RowChange` lists what a call
can do to a row of `hitl_holds`.
-/

namespace Iara.Api

open Iara.Lib Iara.Persistence Iara.Graph

/-- A call with what its session does.  The first is the registration by the
HITL node of a run. -/
inductive HitlCall where
  | nodeRegisters (session : Transaction) (runId tenantId conversationId threadId : String)
      (reason : Option String) (contextSnapshot : ContextSnapshot)
  | register (session : Transaction) (insertRaises : Bool) (runId : String)
      (body : HitlRegisterRequest)
  | approve (session : Transaction) (runId : String) (body : HitlDecisionRequest)
  | reject (session : Transaction) (runId : String) (body : HitlDecisionRequest)
  deriving DecidableEq, Repr

/-- What a sequence of calls leads to: a row is inserted, a row goes from pending
to approved, `resume_graph` is called, `reject_hold` returns a hold. -/
inductive HitlEvent where
  | registered (runId : String)
  | approved (runId : String)
  | resumed (runId threadId : String)
  | rejected (runId : String)
  deriving DecidableEq, Repr

namespace HitlCall

def runId : HitlCall → String
  | .nodeRegisters _ runId _ _ _ _ _ => runId
  | .register _ _ runId _ => runId
  | .approve _ runId _ => runId
  | .reject _ runId _ => runId

/-- The stores after a call. -/
def perform (stores : HitlStores) : HitlCall → HitlStores
  | .nodeRegisters session runId tenantId conversationId threadId reason contextSnapshot =>
      { stores with
        holds := (HitlHoldRepository.register session runId tenantId conversationId threadId reason
          contextSnapshot stores.holds).2 }
  | .register session insertRaises runId body =>
      (HitlRouter.registerHold (some session) insertRaises runId body stores).2
  | .approve session runId body => (HitlRouter.approveHold (some session) runId body stores).stores
  | .reject session runId body => (HitlRouter.rejectHold (some session) runId body stores).2

/-- What the call does outside the table. -/
def answers (stores : HitlStores) : HitlCall → List HitlEvent
  | .approve session runId body =>
      match (HitlRouter.approveHold (some session) runId body stores).resume with
      | none => []
      | some (runId, threadId) => [.resumed runId threadId]
  | .reject session runId body =>
      match (HitlRouter.rejectHold (some session) runId body stores).1 with
      | .error _ => []
      | .ok _ => [.rejected runId]
  | _ => []

end HitlCall

/-- The status of the row of a run. -/
def statusOf (holds : HitlHolds) (runId : String) : Option HoldStatus :=
  (holds.find runId).map HitlHoldRecord.status

/-- What has become of the row of a run, as events. -/
def rowEvents (runId : String) (before after : HitlHolds) : List HitlEvent :=
  match statusOf before runId, statusOf after runId with
  | none, some _ => [.registered runId]
  | some .pending, some .approved => [.approved runId]
  | _, _ => []

def hitlRecorder : Recorder HitlStores HitlCall HitlEvent where
  next stores call := call.perform stores
  events stores call :=
    rowEvents call.runId stores.holds (call.perform stores).holds ++ call.answers stores

/-! ## What a call does to a row -/

/-- The status of a row before and after a call. -/
inductive RowChange (call : HitlCall) (runId : String) (before : Option HoldStatus) :
    Option HoldStatus → Prop
  | kept : RowChange call runId before before
  | inserted : runId = call.runId → before = none → RowChange call runId before (some .pending)
  | approved (session body) : call = .approve session runId body → before = some .pending →
      RowChange call runId before (some .approved)
  | rejected (session body) : call = .reject session runId body → before = some .pending →
      RowChange call runId before (some .rejected)

section Rows

variable {runId runId' : String} {holds : HitlHolds}

theorem statusOf_insertOrIgnore {record : HitlHoldRecord} (hstatus : record.status = .pending) :
    statusOf (holds.insertOrIgnore record) runId = statusOf holds runId ∨
      record.runId = runId ∧ statusOf holds runId = none ∧
        statusOf (holds.insertOrIgnore record) runId = some .pending := by
  unfold statusOf
  rw [Table.find_insertOrIgnore]
  cases hfind : holds.find runId with
  | some row => exact Or.inl rfl
  | none =>
      by_cases hrun : record.runId = runId
      · exact Or.inr ⟨hrun, rfl, by simp [hrun, hstatus]⟩
      · exact Or.inl (by simp [hrun])

theorem statusOf_register (runId runId' : String) (holds : HitlHolds) (session : Transaction)
    (tenantId conversationId threadId : String) (reason : Option String)
    (contextSnapshot : ContextSnapshot) :
    let after := (HitlHoldRepository.register session runId' tenantId conversationId threadId reason
      contextSnapshot holds).2
    statusOf after runId = statusOf holds runId ∨
      runId' = runId ∧ statusOf holds runId = none ∧ statusOf after runId = some .pending := by
  intro after
  rcases HitlHoldRepository.register_cases session runId' tenantId conversationId threadId reason
    contextSnapshot holds with hsame | ⟨record, hrun, -, hstatus, hinsert⟩
  · exact Or.inl (congrArg (statusOf · runId) hsame)
  · rw [← hrun, show after = holds.insertOrIgnore record from hinsert]
    exact statusOf_insertOrIgnore hstatus

/-- A decision in its session: the status of each row. -/
theorem statusOf_resolve {f : HitlHoldRecord → HitlHoldRecord}
    {hf : ∀ r, (f r).runId = r.runId} (status : HoldStatus) (hstatus : ∀ r, (f r).status = status) :
    statusOf (HitlHoldRepository.resolve runId' f hf holds).2 runId =
      if runId = runId' ∧ statusOf holds runId = some .pending then some status
      else statusOf holds runId := by
  unfold statusOf
  rw [HitlHoldRepository.find_resolve]
  cases hfind : holds.find runId with
  | none => simp
  | some row =>
      have hrow : row.runId = runId := (Table.find_eq_some_iff.1 hfind).2
      by_cases hdecided : runId = runId' ∧ row.status = .pending
      · simp [hrow, hdecided.1, hdecided.2, hstatus]
      · simp [hrow, hdecided]

/-- The same where the session may not write. -/
theorem statusOf_decision {f : HitlHoldRecord → HitlHoldRecord}
    {hf : ∀ r, (f r).runId = r.runId} (status : HoldStatus) (hstatus : ∀ r, (f r).status = status)
    (session : Transaction) :
    statusOf (if session.writes then (HitlHoldRepository.resolve runId' f hf holds).2 else holds)
        runId =
      if session.writes ∧ runId = runId' ∧ statusOf holds runId = some .pending then some status
      else statusOf holds runId := by
  cases session.writes with
  | false => simp
  | true => simpa using statusOf_resolve status hstatus

end Rows

/-! ## What the endpoints do -/

section Endpoints

variable (session : Transaction) (runId : String) (body : HitlDecisionRequest)
  (stores : HitlStores)

theorem holds_approveInMemory (configured : Bool) (threadId : Option String) :
    (HitlRouter.approveInMemory configured threadId runId body stores).stores.holds =
      stores.holds := by
  unfold HitlRouter.approveInMemory
  simp only
  split <;> rfl

theorem holds_rejectInMemory (configured : Bool) :
    (HitlRouter.rejectInMemory configured runId body stores).2.holds = stores.holds := by
  unfold HitlRouter.rejectInMemory
  split
  · split <;> rfl
  · split <;> rfl

/-- With a database, the part in memory always resumes. -/
theorem resume_approveInMemory (threadId : Option String) :
    ∃ t, (HitlRouter.approveInMemory true threadId runId body stores).resume = some (runId, t) := by
  unfold HitlRouter.approveInMemory
  simp

theorem isOk_rejectInMemory :
    ∃ hold, (HitlRouter.rejectInMemory true runId body stores).1 = .ok hold := by
  unfold HitlRouter.rejectInMemory
  split <;> simp

theorem holds_approveHold :
    (HitlRouter.approveHold (some session) runId body stores).stores.holds =
      if session.writes then (HitlHoldRepository.approve runId stores.holds).2
      else stores.holds := by
  rw [← Transaction.close_snd stores.holds (HitlHoldRepository.approve runId stores.holds).2
    (some (HitlHoldRepository.approve runId stores.holds).1) none session]
  unfold HitlRouter.approveHold inSession
  simp only
  split
  · rfl
  · exact holds_approveInMemory _ _ _ _ _
  · exact holds_approveInMemory _ _ _ _ _

theorem holds_rejectHold :
    (HitlRouter.rejectHold (some session) runId body stores).2.holds =
      if session.writes then (HitlHoldRepository.reject runId body.reason stores.holds).2
      else stores.holds := by
  rw [← Transaction.close_snd stores.holds
    (HitlHoldRepository.reject runId body.reason stores.holds).2
    (some (HitlHoldRepository.reject runId body.reason stores.holds).1) none session]
  unfold HitlRouter.rejectHold inSession
  simp only
  split
  · rfl
  · exact holds_rejectInMemory _ _ _ _

theorem status_approveHold (runId' : String) :
    statusOf (HitlRouter.approveHold (some session) runId body stores).stores.holds runId' =
      if session.writes ∧ runId' = runId ∧ statusOf stores.holds runId' = some .pending then
        some .approved
      else statusOf stores.holds runId' := by
  rw [holds_approveHold]
  exact statusOf_decision .approved (fun _ => rfl) session

theorem status_rejectHold (runId' : String) :
    statusOf (HitlRouter.rejectHold (some session) runId body stores).2.holds runId' =
      if session.writes ∧ runId' = runId ∧ statusOf stores.holds runId' = some .pending then
        some .rejected
      else statusOf stores.holds runId' := by
  rw [holds_rejectHold]
  exact statusOf_decision .rejected (fun _ => rfl) session

/-- A decision finds a row exactly where the row is pending. -/
theorem isSome_resolve {f : HitlHoldRecord → HitlHoldRecord} {hf : ∀ r, (f r).runId = r.runId} :
    (HitlHoldRepository.resolve runId f hf stores.holds).1.isSome =
      decide (statusOf stores.holds runId = some .pending) := by
  unfold HitlHoldRepository.resolve statusOf
  cases hfind : stores.holds.find runId with
  | none => simp
  | some row =>
      by_cases hpending : row.status = .pending
      · simp [hpending]
      · simp [hpending]

/-- An approval resumes the run unless the database told it that there is no
pending hold. -/
theorem answers_approve :
    (HitlCall.approve session runId body).answers stores = [] ∧ session = .commits ∧
        statusOf stores.holds runId ≠ some .pending ∨
      (∃ t, (HitlCall.approve session runId body).answers stores = [.resumed runId t]) ∧
        (session = .commits → statusOf stores.holds runId = some .pending) := by
  have hmemory : ∀ threadId holds, ∃ t, (match (HitlRouter.approveInMemory true threadId runId body
      { stores with holds := holds }).resume with
        | none => []
        | some (runId, threadId) => [HitlEvent.resumed runId threadId]) = [.resumed runId t] := by
    intro threadId holds
    obtain ⟨t, ht⟩ := resume_approveInMemory runId body { stores with holds := holds } threadId
    exact ⟨t, by rw [ht]⟩
  have hfound : ∀ record, (HitlHoldRepository.approve runId stores.holds).1 = record →
      record.isSome = decide (statusOf stores.holds runId = some .pending) := by
    rintro record rfl
    exact isSome_resolve runId stores
  cases session with
  | commits =>
      simp only [HitlCall.answers, HitlRouter.approveHold, inSession, Transaction.close]
      cases hrecord : (HitlHoldRepository.approve runId stores.holds).1 with
      | none => exact Or.inl ⟨rfl, trivial, by simpa using hfound _ hrecord⟩
      | some record => exact Or.inr ⟨hmemory _ _, fun _ => by simpa using hfound _ hrecord⟩
  | fails exception => exact Or.inr ⟨hmemory _ _, fun h => by cases h⟩
  | commitsThenFails exception => exact Or.inr ⟨hmemory _ _, fun h => by cases h⟩

/-- A rejection succeeds unless the database told it that there is no pending
hold. -/
theorem answers_reject :
    (HitlCall.reject session runId body).answers stores = [] ∧ session = .commits ∧
        statusOf stores.holds runId ≠ some .pending ∨
      (HitlCall.reject session runId body).answers stores = [.rejected runId] ∧
        (session = .commits → statusOf stores.holds runId = some .pending) := by
  have hmemory : ∀ holds, (match (HitlRouter.rejectInMemory true runId body
      { stores with holds := holds }).1 with
        | .error _ => []
        | .ok _ => [HitlEvent.rejected runId]) = [.rejected runId] := by
    intro holds
    obtain ⟨hold, hok⟩ := isOk_rejectInMemory runId body { stores with holds := holds }
    rw [hok]
  have hfound : ∀ record, (HitlHoldRepository.reject runId body.reason stores.holds).1 = record →
      record.isSome = decide (statusOf stores.holds runId = some .pending) := by
    rintro record rfl
    exact isSome_resolve runId stores
  cases session with
  | commits =>
      simp only [HitlCall.answers, HitlRouter.rejectHold, inSession, Transaction.close]
      cases hrecord : (HitlHoldRepository.reject runId body.reason stores.holds).1 with
      | none => exact Or.inl ⟨rfl, trivial, by simpa using hfound _ hrecord⟩
      | some record => exact Or.inr ⟨hmemory _, fun _ => by simpa using hfound _ hrecord⟩
  | fails exception => exact Or.inr ⟨hmemory _, fun h => by cases h⟩
  | commitsThenFails exception => exact Or.inr ⟨hmemory _, fun h => by cases h⟩

end Endpoints

/-- What a call does to each row. -/
theorem perform_change (call : HitlCall) (stores : HitlStores) (runId : String) :
    RowChange call runId (statusOf stores.holds runId)
      (statusOf (call.perform stores).holds runId) := by
  cases call with
  | nodeRegisters session runId' tenantId conversationId threadId reason contextSnapshot =>
      have hregister := statusOf_register runId runId' stores.holds session tenantId
        conversationId threadId reason contextSnapshot
      simp only [HitlCall.perform]
      rcases hregister with hsame | ⟨hrun, hnone, hnew⟩
      · rw [hsame]
        exact .kept
      · rw [hnew]
        exact .inserted hrun.symm hnone
  | register session insertRaises runId' body =>
      have hregister := statusOf_register runId runId' stores.holds session body.tenantId
        body.conversationId body.threadId body.reason
        { stepCount := 0, correlationId := "", hitlReason := "" }
      simp only [HitlCall.perform, HitlRouter.registerHold, HitlStores.remember]
      cases insertRaises with
      | true => exact .kept
      | false =>
          simp only [Bool.false_eq_true, if_false]
          rcases hregister with hsame | ⟨hrun, hnone, hnew⟩
          · rw [hsame]
            exact .kept
          · rw [hnew]
            exact .inserted hrun.symm hnone
  | approve session runId' body =>
      unfold HitlCall.perform
      rw [status_approveHold]
      split
      · next h =>
          obtain ⟨-, rfl, hpending⟩ := h
          exact .approved session body rfl hpending
      · exact .kept
  | reject session runId' body =>
      unfold HitlCall.perform
      rw [status_rejectHold]
      split
      · next h =>
          obtain ⟨-, rfl, hpending⟩ := h
          exact .rejected session body rfl hpending
      · exact .kept

end Iara.Api
