import Iara.Workers.OutboxDrainer

/-!
# The adapters of the worker process

The dictionary of provider adapters as `workers.main` builds it, and one call of
`_process_command` whose sessions all commit, as a function.
-/

namespace Iara.Workers

open Iara.Lib Iara.Persistence Iara.Provider

/-- The settings that `main` hands to the adapters and to the drainer.  The two
scheduling adapters are built elsewhere. -/
structure WorkerSettings where
  text : PyText
  chatwootAccountId : String
  chatwootMcpMaxRetries : Nat
  iaraOutboxMaxRetries : Nat
  googleCalendarWriteAdapter : ProviderAdapter
  clinicorpWriteAdapter : ProviderAdapter

namespace WorkerSettings

variable (settings : WorkerSettings)

/-- The dictionary of adapters, for the arguments given to the constructor of
the registry. -/
def wire (tenantId accountIdRef : Option String) :
    Except String (List (String × ProviderAdapter)) :=
  (ChatwootMcpRegistry.init tenantId accountIdRef).map fun registry =>
    [("chatwoot", ChatwootMcpAdapter.executeCommand
        { text := settings.text
          registry := registry
          accountId := settings.chatwootAccountId
          maxRetries := settings.chatwootMcpMaxRetries }),
      ("google_calendar", settings.googleCalendarWriteAdapter),
      ("clinicorp", settings.clinicorpWriteAdapter)]

/-- `main` calls `ChatwootMcpRegistry()`. -/
def adapters : Except String (List (String × ProviderAdapter)) := settings.wire none none

def outboxDrainer (adapters : List (String × ProviderAdapter)) : OutboxDrainer where
  adapters := adapters
  maxRetries := settings.iaraOutboxMaxRetries

end WorkerSettings

namespace OutboxDrainer

variable (drainer : OutboxDrainer)

/-- `_process_command`, where every session commits. -/
def processCommand (exchange : Exchange) (row : OutboxRow) (s : DrainShared) : DrainShared :=
  if drainer.exhausted row then
    { s with outbox := OutboxRepository.markDeadLettered row.commandId s.outbox }
  else
    match drainer.adapterOf row with
    | none => s
    | some adapter =>
        let e := execution adapter exchange row
        let applied := s.applied ++ e.applied.map fun call => (row.key, call)
        match e.result with
        | .ok _ =>
            { s with
              outbox := OutboxRepository.markSent row.commandId s.outbox
              applied := applied }
        | .error _ =>
            { s with
              outbox := drainer.recordFailure s.now row s.outbox
              applied := applied }

/-- The steps of a drainer that processes its next row without a failing session. -/
def processSteps (exchange : Exchange) (row : OutboxRow) : List DrainStep :=
  if drainer.exhausted row then [.deadLetter .commits]
  else
    match drainer.adapterOf row with
    | none => [.execute exchange]
    | some adapter =>
        match (execution adapter exchange row).result with
        | .ok _ => [.execute exchange, .markSent .commits]
        | .error _ => [.execute exchange, .recordFailure .commits]

/-- The steps of one drainer among any, as moves. -/
theorem run_processSteps (exchange : Exchange) (row : OutboxRow) (rest : List OutboxRow)
    (s : DrainShared) :
    drainer.drainers.machine.run ⟨s, [.draining row rest]⟩
        ((drainer.processSteps exchange row).map fun step => .party 0 step) =
      some ⟨drainer.processCommand exchange row s, [nextCommand rest]⟩ := by
  unfold processSteps processCommand
  cases hexhausted : drainer.exhausted row with
  | true =>
      simp only [if_true]
      exact Interleaving.run_alone_cons (act_deadLetter hexhausted .commits)
  | false =>
      simp only [Bool.false_eq_true, if_false]
      cases hadapter : drainer.adapterOf row with
      | none => exact Interleaving.run_alone_cons (act_execute_none hexhausted hadapter)
      | some adapter =>
          cases hresult : (execution adapter exchange row).result with
          | ok result =>
              simp only [hresult]
              rw [Interleaving.run_alone_cons (act_execute_ok hexhausted hadapter hresult)]
              exact Interleaving.run_alone_cons rfl
          | error e =>
              simp only [hresult]
              rw [Interleaving.run_alone_cons (act_execute_error hexhausted hadapter hresult)]
              exact Interleaving.run_alone_cons rfl

end OutboxDrainer

end Iara.Workers
