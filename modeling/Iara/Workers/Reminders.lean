import Iara.Lib.PyDatetime
import Iara.Persistence.FollowUp
import Iara.Workers.OutboxDrainer

/-!
# The reminder of an appointment

`_post_schedule_hook`, and one call of `_process_command` with it, whatever
becomes of its sessions: the states of the database that it leaves one after the
other.
-/

namespace Iara.Workers

open Iara.Lib Iara.Persistence Iara.Provider
open ChatwootMcpAdapter (get)

/-! ## The hook -/

/-- What the hook takes from the standard library. -/
structure ReminderHook where
  time : PyTime
  /-- `hashlib.sha256(text.encode()).hexdigest()`. -/
  sha256 : String → String
  /-- `str(value)`. -/
  str : Json → String

namespace ReminderHook

variable (hook : ReminderHook)

def scheduleAppointment : String := "schedule_appointment"

/-- `params.get("datetime_iso", "") or params.get("start", {}).get("dateTime", "")`;
`none` is the `AttributeError` of a `start` that is no object. -/
def appointmentText (parameters : Parameters) : Option Json :=
  let direct := get parameters "datetime_iso" (.str "")
  if direct.truthy then some direct
  else
    match get parameters "start" (.obj []) with
    | .obj start => some (get start "dateTime" (.str ""))
    | _ => none

/-- An hour before the appointment; a naive time is one in UTC. -/
def triggerAt (parameters : Parameters) : Option Datetime :=
  match appointmentText parameters with
  | some (.str text) =>
      if !PyStr.truthy text then none
      else
        match hook.time.fromIsoFormat text with
        | none => none
        | some appointment => (appointment.assumeUtc.later (-Datetime.hour)).toOption
  | _ => none

def digest (text : String) : String := PyStr.slice (hook.sha256 text) 16

def payload (command : ProviderCommand) : Option FollowUpPayload :=
  (hook.triggerAt command.parameters).map fun trigger =>
    { tenantId := formatUuid command.tenantId
      conversationId := hook.str (get command.parameters "conversation_id" (.str ""))
      contactRef := hook.str (get command.parameters "contact_ref" (.str ""))
      messageRef := "msg:" ++ hook.digest ("appointment_reminder:" ++ command.commandId)
      messageLength := 80
      reasonRef := hook.digest "appointment_confirmation"
      triggerAt := trigger.instant
      triggerAtIso := hook.time.isoFormat trigger
      idempotencyKey := "confirmation:" ++ hook.digest command.commandId
      correlationId := command.correlationId
      maxAttempts := 1 }

/-- Every exception is logged and swallowed. -/
def postScheduleHook (session : Transaction) (itemId : String) (command : ProviderCommand)
    (queue : FollowUpQueue) : FollowUpQueue :=
  match hook.payload command with
  | none => queue
  | some payload => (FollowUpRepository.enqueueRaw session itemId payload queue).2

end ReminderHook

/-! ## One command -/

structure DrainStores where
  outbox : Outbox
  followUps : FollowUpQueue

/-- What happens during one call of `_process_command`: the exchange with the
provider, the ends of the sessions, the clock and the id drawn for a follow-up. -/
structure CommandRun where
  exchange : Exchange
  deadLetter : Transaction := .commits
  markSent : Transaction := .commits
  recordFailure : Transaction := .commits
  reminder : Transaction := .commits
  now : Nat := 0
  itemId : String := ""

namespace OutboxDrainer

variable (drainer : OutboxDrainer) (hook : ReminderHook) (run : CommandRun) (row : OutboxRow)

/-- The state that a session leaves, if it writes. -/
def written (session : Transaction) (s : DrainStores) : List DrainStores :=
  if session.writes then [s] else []

/-- The handler of an exception. -/
def afterFailure (s : DrainStores) : List DrainStores :=
  written run.recordFailure
    { s with outbox := drainer.recordFailure run.now row s.outbox }

/-- After the commit of `mark_sent`. -/
def afterSent (s : DrainStores) : List DrainStores :=
  if row.capabilityName = ReminderHook.scheduleAppointment then
    [{ s with
       followUps :=
         hook.postScheduleHook run.reminder run.itemId (providerCommand row) s.followUps }]
  else []

/-- The states of the database that the call leaves, in order. -/
def handleCommand (s : DrainStores) : List DrainStores :=
  if drainer.exhausted row then
    written run.deadLetter
      { s with outbox := OutboxRepository.markDeadLettered row.commandId s.outbox }
  else
    match drainer.adapterOf row with
    | none => []
    | some adapter =>
        match (execution adapter run.exchange row).result with
        | .error _ => drainer.afterFailure run row s
        | .ok _ =>
            let sent : DrainStores :=
              { s with outbox := OutboxRepository.markSent row.commandId s.outbox }
            match run.markSent with
            | .commits => sent :: afterSent hook run row sent
            | .fails _ => drainer.afterFailure run row s
            | .commitsThenFails _ => sent :: drainer.afterFailure run row sent

/-- The state at the end of the call. -/
def handled (s : DrainStores) : DrainStores :=
  (drainer.handleCommand hook run row s).getLast?.getD s

/-! ## The steps of the call -/

/-- The steps of a drainer that make up the call. -/
def handleSteps : List DrainStep :=
  if drainer.exhausted row then [.deadLetter run.deadLetter]
  else
    match drainer.adapterOf row with
    | none => [.execute run.exchange]
    | some adapter =>
        match (execution adapter run.exchange row).result with
        | .error _ => [.execute run.exchange, .recordFailure run.recordFailure]
        | .ok _ =>
            match run.markSent with
            | .commits => [.execute run.exchange, .markSent .commits]
            | session =>
                [.execute run.exchange, .markSent session, .recordFailure run.recordFailure]

variable {drainer hook run row}

/-- The hook leaves the outbox alone. -/
theorem outbox_last_afterSent (sent s : DrainStores) :
    ((sent :: afterSent hook run row sent).getLast?.getD s).outbox = sent.outbox := by
  unfold afterSent
  split <;> rfl

theorem outbox_last_written (session : Transaction) (before after : DrainStores) :
    ((written session after).getLast?.getD before).outbox =
      if session.writes then after.outbox else before.outbox := by
  unfold written
  split <;> rfl

/-- A failure is recorded by a step as by the handler of the call. -/
theorem run_recordFailure (rest : List OutboxRow) {s : DrainShared} (queue : FollowUpQueue)
    (hnow : run.now = s.now) :
    ∃ c, drainer.drainers.machine.run ⟨s, [.raised row rest]⟩
        ([.recordFailure run.recordFailure].map fun step => .party 0 step) = some c ∧
      c.shared.outbox = ((drainer.afterFailure run row ⟨s.outbox, queue⟩).getLast?.getD
        ⟨s.outbox, queue⟩).outbox := by
  let recorded : DrainShared := { s with outbox := drainer.recordFailure s.now row s.outbox }
  let closed := run.recordFailure.close s recorded (nextCommand rest) DrainPhase.sleeping
  have hact : drainer.act s (.raised row rest) (.recordFailure run.recordFailure) =
      some (closed.1, closed.2) := rfl
  refine ⟨_, Interleaving.run_alone_cons hact, ?_⟩
  rw [afterFailure, outbox_last_written, hnow]
  change closed.2.outbox = _
  rw [Transaction.close_snd]
  split <;> rfl

/-- Step by step, a drainer leaves the outbox as the call does. -/
theorem run_handleSteps (rest : List OutboxRow) {s : DrainShared} (queue : FollowUpQueue)
    (hnow : run.now = s.now) :
    ∃ c, drainer.drainers.machine.run ⟨s, [.draining row rest]⟩
        ((drainer.handleSteps run row).map fun step => .party 0 step) = some c ∧
      c.shared.outbox = (drainer.handled hook run row ⟨s.outbox, queue⟩).outbox := by
  unfold handleSteps handled handleCommand
  cases hexhausted : drainer.exhausted row with
  | true =>
      let dead : DrainShared :=
        { s with outbox := OutboxRepository.markDeadLettered row.commandId s.outbox }
      let closed := run.deadLetter.close s dead (nextCommand rest) DrainPhase.sleeping
      have hact : drainer.act s (.draining row rest) (.deadLetter run.deadLetter) =
          some (closed.1, closed.2) := act_deadLetter hexhausted run.deadLetter
      refine ⟨_, Interleaving.run_alone_cons hact, ?_⟩
      simp only [if_true, outbox_last_written]
      rw [Transaction.close_snd]
      split <;> rfl
  | false =>
      simp only [Bool.false_eq_true, if_false]
      cases hadapter : drainer.adapterOf row with
      | none =>
          exact ⟨_, Interleaving.run_alone_cons (act_execute_none hexhausted hadapter), rfl⟩
      | some adapter =>
          cases hresult : (execution adapter run.exchange row).result with
          | error e =>
              simp only [hresult]
              rw [Interleaving.run_alone_cons (act_execute_error hexhausted hadapter hresult)]
              exact run_recordFailure rest queue hnow
          | ok result =>
              let executed : DrainShared :=
                { s with
                  applied := s.applied ++
                    (execution adapter run.exchange row).applied.map fun call => (row.key, call) }
              let sent : DrainShared :=
                { executed with outbox := OutboxRepository.markSent row.commandId s.outbox }
              have hexecute : drainer.act s (.draining row rest) (.execute run.exchange) =
                  some (.executed row rest, executed) := act_execute_ok hexhausted hadapter hresult
              simp only [hresult]
              cases hsession : run.markSent with
              | commits =>
                  have hact : drainer.act executed (.executed row rest) (.markSent .commits) =
                      some (nextCommand rest, sent) := rfl
                  simp only
                  rw [Interleaving.run_alone_cons hexecute]
                  refine ⟨_, Interleaving.run_alone_cons hact, ?_⟩
                  rw [outbox_last_afterSent]
              | fails exception =>
                  have hact : drainer.act executed (.executed row rest)
                      (.markSent (.fails exception)) = some (.raised row rest, executed) := rfl
                  simp only
                  rw [Interleaving.run_alone_cons hexecute, Interleaving.run_alone_cons hact]
                  exact run_recordFailure rest queue hnow
              | commitsThenFails exception =>
                  have hact : drainer.act executed (.executed row rest)
                      (.markSent (.commitsThenFails exception)) =
                        some (.raised row rest, sent) := rfl
                  simp only
                  rw [Interleaving.run_alone_cons hexecute, Interleaving.run_alone_cons hact]
                  obtain ⟨c, hrun, houtbox⟩ := run_recordFailure rest (s := sent) queue hnow
                  refine ⟨c, hrun, houtbox.trans ?_⟩
                  rw [List.getLast?_cons]
                  rfl

end OutboxDrainer

end Iara.Workers
