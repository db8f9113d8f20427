import Iara.Lib.Json
import Iara.Lib.PyUuid
import Iara.Lib.Table

/-!
# The provider command outbox

`OutboxRepository.enqueue` and the two entry points of `OutboxService`, over the
`provider_command_outbox` table with its constraint `uq_outbox_idempotency`.
-/

namespace Iara.Persistence

open Iara.Lib

/-- How one session ends: it commits, it raises with nothing written, or it
raises after the commit reached the database. -/
inductive Transaction where
  | commits
  | fails (exception : String)
  | commitsThenFails (exception : String)
  deriving DecidableEq, Repr

/-- The database after a session that writes `after`, and what follows the
session: `committed` where it returns, `raised` where it raises. -/
def Transaction.close {σ π : Type} (before after : σ) (committed raised : π) :
    Transaction → π × σ
  | .commits => (committed, after)
  | .fails _ => (raised, before)
  | .commitsThenFails _ => (raised, after)

/-- What the session wrote is in the database afterwards. -/
def Transaction.writes : Transaction → Bool
  | .commits => true
  | .fails _ => false
  | .commitsThenFails _ => true

theorem Transaction.close_snd {σ π : Type} (before after : σ) (committed raised : π)
    (session : Transaction) :
    (close before after committed raised session).2 = if session.writes then after else before := by
  cases session <;> rfl

inductive RiskClass where
  | read
  | lowWrite
  | highWrite
  | critical
  deriving DecidableEq, Repr

inductive CommandStatus where
  | pending
  | sent
  | confirmed
  | failed
  | deadLettered
  deriving DecidableEq, Repr

abbrev Parameters := List (String × Json)

structure ProviderCommand where
  commandId : String
  idempotencyKey : String
  tenantId : Uuid
  provider : String
  accountIdRef : String
  capabilityName : String
  parameters : Parameters
  riskClass : RiskClass := .lowWrite
  requiresReadback : Bool := true
  correlationId : String
  status : CommandStatus := .pending
  retryCount : Nat := 0
  deriving DecidableEq, Repr

/-- A row of `provider_command_outbox`. -/
structure OutboxRow where
  tenantId : Uuid
  commandId : String
  idempotencyKey : String
  correlationId : String
  provider : String
  capabilityName : String
  parametersJson : Parameters
  riskClass : RiskClass
  status : CommandStatus := .pending
  retryCount : Nat := 0
  scheduledAt : Nat
  deriving DecidableEq, Repr

namespace OutboxRow

/-- `uq_outbox_idempotency`. -/
def key (r : OutboxRow) : Uuid × String := (r.tenantId, r.idempotencyKey)

end OutboxRow

abbrev Outbox := Table OutboxRow (Uuid × String) OutboxRow.key

namespace OutboxRepository

def row (now : Nat) (command : ProviderCommand) : OutboxRow where
  tenantId := command.tenantId
  commandId := command.commandId
  idempotencyKey := command.idempotencyKey
  correlationId := command.correlationId
  provider := command.provider
  capabilityName := command.capabilityName
  parametersJson := command.parameters
  riskClass := command.riskClass
  scheduledAt := now

/-- The table after the upsert, and whether it inserted a row. -/
def enqueue (now : Nat) (command : ProviderCommand) (outbox : Outbox) : Outbox × Bool :=
  (outbox.insertOrIgnore (row now command), !outbox.hasKey (row now command).key)

end OutboxRepository

/-- `OutboxService` over sessions whose outcomes are given by their number. -/
structure OutboxService where
  session : Nat → Transaction

namespace OutboxService

/-- The common body of `enqueue` and `enqueue_tool_command`: build the command,
then one session that inserts it and commits. -/
def enqueueCommand (service : OutboxService) (draw now : Nat)
    (commandId capabilityName : String) (parameters : Parameters) (tenantId : String)
    (correlationId : Option String) (idempotencyKey : String) (outbox : Outbox) :
    Except String Unit × Outbox :=
  match parseUuid tenantId, correlationId with
  | none, _ => (.error "ValueError", outbox)
  | some _, none => (.error "ValidationError", outbox)
  | some tenant, some correlation =>
      let command : ProviderCommand :=
        { commandId := commandId
          idempotencyKey := idempotencyKey
          tenantId := tenant
          provider := "chatwoot"
          accountIdRef := ""
          capabilityName := capabilityName
          parameters := parameters
          correlationId := correlation }
      let written := (OutboxRepository.enqueue now command outbox).1
      match service.session draw with
      | .commits => (.ok (), written)
      | .fails exception => (.error exception, outbox)
      | .commitsThenFails exception => (.error exception, written)

def enqueue (service : OutboxService) (draw now : Nat) (commandId tenantId capabilityName : String)
    (parameters : Parameters) (correlationId : Option String) (idempotencyKey : String)
    (outbox : Outbox) : Except String Unit × Outbox :=
  service.enqueueCommand draw now commandId capabilityName parameters tenantId correlationId
    idempotencyKey outbox

def enqueueToolCommand (service : OutboxService) (draw now : Nat) (commandId toolName : String)
    (arguments : Parameters) (tenantId idempotencyKey : String) (correlationId : Option String)
    (outbox : Outbox) : Except String Unit × Outbox :=
  service.enqueueCommand draw now commandId toolName arguments tenantId correlationId
    idempotencyKey outbox

/-- What a call can do to the table: nothing, or the insertion of one row with
the given key, capability and parameters. -/
theorem enqueueCommand_outbox (service : OutboxService) (draw now : Nat)
    (commandId capabilityName : String) (parameters : Parameters) (tenantId : String)
    (correlationId : Option String) (idempotencyKey : String) (outbox : Outbox) :
    (service.enqueueCommand draw now commandId capabilityName parameters tenantId correlationId
        idempotencyKey outbox).2 = outbox ∨
      ∃ r : OutboxRow, r.idempotencyKey = idempotencyKey ∧ r.capabilityName = capabilityName ∧
        r.parametersJson = parameters ∧ outbox.hasKey r.key = false ∧
        (service.enqueueCommand draw now commandId capabilityName parameters tenantId
          correlationId idempotencyKey outbox).2.rows = outbox.rows ++ [r] := by
  unfold enqueueCommand
  cases parseUuid tenantId with
  | none => exact Or.inl rfl
  | some tenant =>
      cases correlationId with
      | none => exact Or.inl rfl
      | some correlation =>
          simp only [OutboxRepository.enqueue]
          generalize hr : OutboxRepository.row now _ = r
          have hkey : r.idempotencyKey = idempotencyKey := by rw [← hr]; rfl
          have hname : r.capabilityName = capabilityName := by rw [← hr]; rfl
          have hparams : r.parametersJson = parameters := by rw [← hr]; rfl
          have hwritten : outbox.insertOrIgnore r = outbox ∨
              (outbox.hasKey r.key = false ∧
                (outbox.insertOrIgnore r).rows = outbox.rows ++ [r]) := by
            cases hk : outbox.hasKey r.key with
            | true => exact Or.inl (Table.insertOrIgnore_of_hasKey hk)
            | false => exact Or.inr ⟨rfl, Table.rows_insertOrIgnore_of_new hk⟩
          cases service.session draw with
          | fails exception => exact Or.inl rfl
          | commits =>
              rcases hwritten with h | ⟨hnew, hrows⟩
              · exact Or.inl h
              · exact Or.inr ⟨r, hkey, hname, hparams, hnew, hrows⟩
          | commitsThenFails exception =>
              rcases hwritten with h | ⟨hnew, hrows⟩
              · exact Or.inl h
              · exact Or.inr ⟨r, hkey, hname, hparams, hnew, hrows⟩

/-- A call that returns has inserted its row, unless the key was taken. -/
theorem enqueueCommand_ok {service : OutboxService} {draw now : Nat}
    {commandId capabilityName : String} {parameters : Parameters} {tenantId : String}
    {correlationId : Option String} {idempotencyKey : String} {outbox : Outbox}
    (hok : (service.enqueueCommand draw now commandId capabilityName parameters tenantId
      correlationId idempotencyKey outbox).1 = .ok ())
    (hnew : ∀ tenant, outbox.hasKey (tenant, idempotencyKey) = false) :
    ∃ r : OutboxRow, r.idempotencyKey = idempotencyKey ∧ r.capabilityName = capabilityName ∧
      r.parametersJson = parameters ∧
      (service.enqueueCommand draw now commandId capabilityName parameters tenantId
        correlationId idempotencyKey outbox).2.rows = outbox.rows ++ [r] := by
  unfold enqueueCommand at hok ⊢
  cases htenant : parseUuid tenantId with
  | none => simp [htenant] at hok
  | some tenant =>
      cases correlationId with
      | none => simp [htenant] at hok
      | some correlation =>
          simp only [htenant, OutboxRepository.enqueue] at hok ⊢
          cases hsession : service.session draw with
          | fails exception => simp [hsession] at hok
          | commitsThenFails exception => simp [hsession] at hok
          | commits => exact ⟨_, rfl, rfl, rfl, Table.rows_insertOrIgnore_of_new (hnew tenant)⟩

/-- A call that raises has written nothing, unless its commit reached the
database before the exception. -/
theorem enqueueCommand_error {service : OutboxService} {draw now : Nat}
    {commandId capabilityName : String} {parameters : Parameters} {tenantId : String}
    {correlationId : Option String} {idempotencyKey : String} {outbox : Outbox}
    {exception : String}
    (herror : (service.enqueueCommand draw now commandId capabilityName parameters tenantId
      correlationId idempotencyKey outbox).1 = .error exception)
    (hsession : ∀ e, service.session draw ≠ .commitsThenFails e) :
    (service.enqueueCommand draw now commandId capabilityName parameters tenantId
      correlationId idempotencyKey outbox).2 = outbox := by
  unfold enqueueCommand at herror ⊢
  cases htenant : parseUuid tenantId with
  | none => rfl
  | some tenant =>
      cases correlationId with
      | none => rfl
      | some correlation =>
          cases hcase : service.session draw with
          | fails e => rfl
          | commitsThenFails e => exact absurd hcase (hsession e)
          | commits => simp [htenant, hcase] at herror

/-- A session that raises without committing leaves the table alone. -/
theorem enqueueCommand_of_fails {service : OutboxService} {draw now : Nat}
    {commandId capabilityName : String} {parameters : Parameters} {tenantId : String}
    {correlationId : Option String} {idempotencyKey : String} {outbox : Outbox}
    {exception : String} (hsession : service.session draw = .fails exception) :
    (service.enqueueCommand draw now commandId capabilityName parameters tenantId
      correlationId idempotencyKey outbox).2 = outbox := by
  unfold enqueueCommand
  cases parseUuid tenantId with
  | none => rfl
  | some tenant =>
      cases correlationId with
      | none => rfl
      | some correlation => simp only [hsession]

end OutboxService

end Iara.Persistence
