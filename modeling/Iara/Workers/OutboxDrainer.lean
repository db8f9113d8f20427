import Iara.Lib.Interleaving
import Iara.Persistence.OutboxQueue
import Iara.Provider.ChatwootAdapter

/-!
# Outbox drainers side by side

`OutboxDrainerWorker._drain_batch` and `_process_command`, step by step, for any
number of drainers on one outbox.  A drainer works through the rows it fetched,
which are copies of the rows as they were then.  Its steps are the fetch, the
call of the adapter and the session that records the outcome; a tick, a new
command, a failing session or the end of a drainer can come between any two.
-/

namespace Iara.Workers

open Iara.Lib Iara.Persistence Iara.Provider

/-- `execute_command`, for what the provider does during the call. -/
abbrev ProviderAdapter := Exchange → ProviderCommand → ProviderSecurityContext → Execution

/-- `batchSize` is `DEFAULT_BATCH_SIZE`, `maxRetries` the setting
`iara_outbox_max_retries`. -/
structure OutboxDrainer where
  adapters : List (String × ProviderAdapter)
  maxRetries : Nat := 5
  batchSize : Nat := 50

namespace OutboxDrainer

variable (drainer : OutboxDrainer)

/-! ## One command -/

/-- The account reference is not stored in the outbox; command and context get
the same placeholder. -/
def providerCommand (row : OutboxRow) : ProviderCommand where
  commandId := row.commandId
  idempotencyKey := row.idempotencyKey
  tenantId := row.tenantId
  provider := row.provider
  accountIdRef := ""
  capabilityName := row.capabilityName
  parameters := row.parametersJson
  riskClass := row.riskClass
  correlationId := row.correlationId
  retryCount := row.retryCount

def securityContext (row : OutboxRow) : ProviderSecurityContext where
  tenantId := row.tenantId
  provider := row.provider
  accountIdRef := ""
  inboxId := ""
  capabilityName := row.capabilityName
  riskClass := row.riskClass

def exhausted (row : OutboxRow) : Bool := drainer.maxRetries ≤ row.retryCount

def adapterOf (row : OutboxRow) : Option ProviderAdapter :=
  drainer.adapters.lookup (if PyStr.truthy row.provider then row.provider else "chatwoot")

def execution (adapter : ProviderAdapter) (exchange : Exchange) (row : OutboxRow) : Execution :=
  adapter exchange (providerCommand row) (securityContext row)

/-- Whether a failure of the command is its last one. -/
def lastAttempt (row : OutboxRow) : Bool := drainer.maxRetries ≤ row.retryCount + 1

def backoff (row : OutboxRow) : Nat := 30 * 2 ^ row.retryCount

/-- What the handler of a failure writes. -/
def recordFailure (now : Nat) (row : OutboxRow) (outbox : Outbox) : Outbox :=
  if drainer.lastAttempt row then OutboxRepository.markDeadLettered row.commandId outbox
  else OutboxRepository.markFailedForRetry now (backoff row) row.commandId outbox

/-! ## Drainers -/

inductive DrainPhase where
  | sleeping
  | draining (row : OutboxRow) (rest : List OutboxRow)
  | executed (row : OutboxRow) (rest : List OutboxRow)
  | raised (row : OutboxRow) (rest : List OutboxRow)
  | stopped
  deriving DecidableEq, Repr

def nextCommand : List OutboxRow → DrainPhase
  | [] => .sleeping
  | row :: rest => .draining row rest

inductive DrainStep where
  | fetch
  | deadLetter (session : Transaction)
  | execute (exchange : Exchange)
  | markSent (session : Transaction)
  | recordFailure (session : Transaction)
  | crash

/-- `applied` lists what the providers carried out, each call with the key of
its row. -/
structure DrainShared where
  outbox : Outbox
  now : Nat := 0
  applied : List ((Uuid × String) × ProviderCall) := []

/-- An exception of the sessions that record a failure leaves `_drain_batch`:
the rest of the batch is dropped. -/
def act (s : DrainShared) (phase : DrainPhase) (step : DrainStep) :
    Option (DrainPhase × DrainShared) :=
  match phase, step with
  | .sleeping, .fetch =>
      if drainer.adapters.isEmpty then some (.sleeping, s)
      else
        some (nextCommand (OutboxRepository.fetchPendingAll drainer.batchSize s.now s.outbox), s)
  | .draining row rest, .deadLetter outcome =>
      if drainer.exhausted row then
        let outbox' := OutboxRepository.markDeadLettered row.commandId s.outbox
        some (outcome.close s { s with outbox := outbox' } (nextCommand rest) .sleeping)
      else none
  | .draining row rest, .execute exchange =>
      if drainer.exhausted row then none
      else
        match drainer.adapterOf row with
        | none => some (nextCommand rest, s)
        | some adapter =>
            let e := execution adapter exchange row
            let s' := { s with applied := s.applied ++ e.applied.map fun call => (row.key, call) }
            match e.result with
            | .ok _ => some (.executed row rest, s')
            | .error _ => some (.raised row rest, s')
  | .executed row rest, .markSent outcome =>
      let outbox' := OutboxRepository.markSent row.commandId s.outbox
      some (outcome.close s { s with outbox := outbox' } (nextCommand rest) (.raised row rest))
  | .raised row rest, .recordFailure outcome =>
      let outbox' := drainer.recordFailure s.now row s.outbox
      some (outcome.close s { s with outbox := outbox' } (nextCommand rest) .sleeping)
  | .stopped, _ => none
  | _, .crash => some (.stopped, s)
  | _, _ => none

section Act

variable {drainer} {s : DrainShared} {row : OutboxRow} {rest : List OutboxRow}
  {exchange : Exchange} {adapter : ProviderAdapter}

theorem act_deadLetter (h : drainer.exhausted row = true) (outcome : Transaction) :
    drainer.act s (.draining row rest) (.deadLetter outcome) =
      some (outcome.close s
        { s with outbox := OutboxRepository.markDeadLettered row.commandId s.outbox }
        (nextCommand rest) .sleeping) := if_pos h

theorem act_execute_none (h : drainer.exhausted row = false)
    (hadapter : drainer.adapterOf row = none) :
    drainer.act s (.draining row rest) (.execute exchange) = some (nextCommand rest, s) := by
  simp only [act, h, Bool.false_eq_true, if_false, hadapter]

theorem act_execute_ok {result : ProviderMutationResult} (h : drainer.exhausted row = false)
    (hadapter : drainer.adapterOf row = some adapter)
    (hresult : (execution adapter exchange row).result = .ok result) :
    drainer.act s (.draining row rest) (.execute exchange) =
      some (.executed row rest,
        { s with
          applied := s.applied ++
            (execution adapter exchange row).applied.map fun call => (row.key, call) }) := by
  simp only [act, h, Bool.false_eq_true, if_false, hadapter, hresult]

theorem act_execute_error {e : IaraError} (h : drainer.exhausted row = false)
    (hadapter : drainer.adapterOf row = some adapter)
    (hresult : (execution adapter exchange row).result = .error e) :
    drainer.act s (.draining row rest) (.execute exchange) =
      some (.raised row rest,
        { s with
          applied := s.applied ++
            (execution adapter exchange row).applied.map fun call => (row.key, call) }) := by
  simp only [act, h, Bool.false_eq_true, if_false, hadapter, hresult]

end Act

inductive DrainEvent where
  | tick (elapsed : Nat)
  | enqueue (command : ProviderCommand)
  | start

def environment (s : DrainShared) : DrainEvent → Option (List DrainPhase × DrainShared)
  | .tick elapsed => some ([], { s with now := s.now + elapsed })
  | .enqueue command =>
      some ([], { s with outbox := (OutboxRepository.enqueue s.now command s.outbox).1 })
  | .start => some ([.sleeping], s)

def drainers : Interleaving DrainShared DrainPhase DrainStep DrainEvent where
  act := drainer.act
  environment := environment

abbrev DrainConfig := Interleaving.Config DrainShared DrainPhase

abbrev DrainMove := Interleaving.Move DrainStep DrainEvent

end OutboxDrainer

end Iara.Workers
