import Iara.Persistence.Outbox

/-!
# HITL holds

`HitlHoldRepository` over the `hitl_holds` table, unique on the run id.
-/

namespace Iara.Persistence

open Iara.Lib

inductive HoldStatus where
  | pending
  | approved
  | rejected
  deriving DecidableEq, Repr

structure ContextSnapshot where
  stepCount : Nat
  correlationId : String
  hitlReason : String
  deriving DecidableEq, Repr

structure HitlHoldRecord where
  runId : String
  tenantId : Uuid
  conversationId : String
  threadId : String
  reason : Option String
  status : HoldStatus := .pending
  contextSnapshot : ContextSnapshot
  deriving DecidableEq, Repr

abbrev HitlHolds := Table HitlHoldRecord String HitlHoldRecord.runId

/-- How the insert ends: it runs, where a conflict over the run id makes it do
nothing; it does nothing because of another conflict; or it raises, before or
after it has run. -/
inductive InsertOutcome where
  | runs
  | conflicts
  | raises (exception : String) (ran : Bool)
  deriving DecidableEq, Repr

def InsertOutcome.ran : InsertOutcome → Bool
  | .runs => true
  | .conflicts => false
  | .raises _ ran => ran

/-- A session of the node: it may fail to open, it executes the insert, and it
commits. -/
structure HoldSession where
  opening : Option String := none
  insert : InsertOutcome := .runs
  commit : Transaction := .commits
  deriving DecidableEq, Repr

namespace HoldSession

/-- The insert reaches the database. -/
def writes (session : HoldSession) : Bool :=
  session.opening.isNone && session.insert.ran && session.commit.writes

/-- What the session comes to as a whole. -/
def transaction (session : HoldSession) : Transaction :=
  match session.opening with
  | some exception => .fails exception
  | none => if session.insert.ran then session.commit else .fails "suppressed"

theorem writes_transaction (session : HoldSession) :
    session.transaction.writes = session.writes := by
  obtain ⟨opening, insert, commit⟩ := session
  cases opening with
  | some exception => rfl
  | none => cases hran : insert.ran <;> simp [transaction, writes, hran, Transaction.writes]

end HoldSession

namespace HitlHoldRepository

/-- `register` and the commit of its session.  The insert suppresses its own
exception; only a malformed tenant id or the commit raises. -/
def register (session : Transaction) (runId tenantId conversationId threadId : String)
    (reason : Option String) (contextSnapshot : ContextSnapshot) (holds : HitlHolds) :
    Except String Unit × HitlHolds :=
  match parseUuid tenantId with
  | none => (.error "ValueError", holds)
  | some tenant =>
      let record : HitlHoldRecord :=
        { runId := runId
          tenantId := tenant
          conversationId := conversationId
          threadId := threadId
          reason := reason
          contextSnapshot := contextSnapshot }
      match session with
      | .commits => (.ok (), holds.insertOrIgnore record)
      | .fails exception => (.error exception, holds)
      | .commitsThenFails exception => (.error exception, holds.insertOrIgnore record)

/-- A registration inserts a pending record of its run and thread, or nothing. -/
theorem register_cases (session : Transaction)
    (runId tenantId conversationId threadId : String) (reason : Option String)
    (contextSnapshot : ContextSnapshot) (holds : HitlHolds) :
    (register session runId tenantId conversationId threadId reason contextSnapshot holds).2 =
        holds ∨
      ∃ record : HitlHoldRecord, record.runId = runId ∧ record.threadId = threadId ∧
        record.status = .pending ∧
        (register session runId tenantId conversationId threadId reason contextSnapshot holds).2 =
          holds.insertOrIgnore record := by
  unfold register
  split
  · exact Or.inl rfl
  · split
    · exact Or.inr ⟨_, rfl, rfl, rfl, rfl⟩
    · exact Or.inl rfl
    · exact Or.inr ⟨_, rfl, rfl, rfl, rfl⟩

/-! ### The statements of a registration -/

/-- `register` as its transaction sees it.  The exception of the insert is
suppressed; that of a malformed tenant id is not. -/
def registerStatement (insert : InsertOutcome) (runId tenantId conversationId threadId : String)
    (reason : Option String) (contextSnapshot : ContextSnapshot) (holds : HitlHolds) :
    Except String HitlHolds :=
  match parseUuid tenantId with
  | none => .error "ValueError"
  | some tenant =>
      .ok <|
        if insert.ran then
          holds.insertOrIgnore
            { runId := runId
              tenantId := tenant
              conversationId := conversationId
              threadId := threadId
              reason := reason
              contextSnapshot := contextSnapshot }
        else holds

/-- The body of the node's `try`, statement by statement. -/
def registerAndCommit (session : HoldSession) (runId tenantId conversationId threadId : String)
    (reason : Option String) (contextSnapshot : ContextSnapshot) (holds : HitlHolds) :
    Except String Unit × HitlHolds :=
  match session.opening with
  | some exception => (.error exception, holds)
  | none =>
      match registerStatement session.insert runId tenantId conversationId threadId reason
          contextSnapshot holds with
      | .error exception => (.error exception, holds)
      | .ok written =>
          match session.commit with
          | .commits => (.ok (), written)
          | .fails exception => (.error exception, holds)
          | .commitsThenFails exception => (.error exception, written)

/-- The table is the one that `register` leaves. -/
theorem registerAndCommit_holds (session : HoldSession)
    (runId tenantId conversationId threadId : String) (reason : Option String)
    (contextSnapshot : ContextSnapshot) (holds : HitlHolds) :
    (registerAndCommit session runId tenantId conversationId threadId reason contextSnapshot
        holds).2 =
      (register session.transaction runId tenantId conversationId threadId reason contextSnapshot
        holds).2 := by
  obtain ⟨opening, insert, commit⟩ := session
  unfold registerAndCommit register registerStatement HoldSession.transaction
  generalize parseUuid tenantId = tenant
  cases opening with
  | some exception => cases tenant <;> rfl
  | none =>
      cases tenant with
      | none => rfl
      | some tenant =>
          cases hran : insert.ran with
          | true => cases commit <;> simp
          | false => cases commit <;> simp

/-- The row of the run after its registration: the one that was there, or a
pending one where the insert reaches the database. -/
theorem find_register (session : Transaction) (runId tenantId conversationId threadId : String)
    (reason : Option String) (contextSnapshot : ContextSnapshot) (holds : HitlHolds) :
    (∃ r, (register session runId tenantId conversationId threadId reason contextSnapshot
        holds).2.find runId = some r ∧ r.status = .pending) ↔
      match holds.find runId with
      | some r => r.status = .pending
      | none => (parseUuid tenantId).isSome = true ∧ session.writes = true := by
  unfold register
  generalize parseUuid tenantId = tenant
  cases tenant with
  | none => cases holds.find runId <;> simp
  | some tenant =>
      cases hfind : holds.find runId with
      | some r => cases session <;> simp [hfind, Table.find_insertOrIgnore]
      | none => cases session <;> simp [hfind, Table.find_insertOrIgnore, Transaction.writes]

/-- `UPDATE ... WHERE run_id = ... AND status = 'pending' RETURNING`: the row
after the update, if there was one, and the table. -/
def resolve (runId : String) (f : HitlHoldRecord → HitlHoldRecord)
    (hf : ∀ r, (f r).runId = r.runId) (holds : HitlHolds) : Option HitlHoldRecord × HitlHolds :=
  (((holds.find runId).filter fun r => r.status = .pending).map f,
    holds.update (fun r => r.runId = runId ∧ r.status = .pending) f hf)

def approve (runId : String) (holds : HitlHolds) : Option HitlHoldRecord × HitlHolds :=
  resolve runId (fun r => { r with status := .approved }) (fun _ => rfl) holds

def reject (runId : String) (reason : Option String) (holds : HitlHolds) :
    Option HitlHoldRecord × HitlHolds :=
  resolve runId
    (fun r =>
      { r with
        status := .rejected
        reason := if PyStr.truthyOption reason then reason.map (PyStr.slice · 500) else r.reason })
    (fun _ => rfl) holds

theorem find_resolve (runId runId' : String) (f : HitlHoldRecord → HitlHoldRecord)
    (hf : ∀ r, (f r).runId = r.runId) (holds : HitlHolds) :
    (resolve runId f hf holds).2.find runId' =
      (holds.find runId').map fun r =>
        if r.runId = runId ∧ r.status = .pending then f r else r := by
  unfold resolve
  rw [Table.find_update]
  simp only [decide_eq_true_eq]

end HitlHoldRepository

end Iara.Persistence
