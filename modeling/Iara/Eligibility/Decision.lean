import Iara.Lib.PyStr
import Iara.Lib.PyUuid

/-!
# Eligibility of a normalized event

`EligibilityChecker.check` with the contracts it reads.  The two database checks
come last, so the rules before them are a function of the event alone
(`checkEvent`), and the idempotency check precedes the debounce check.
-/

namespace Iara.Eligibility

open Iara.Lib

inductive MessageType where
  | incoming
  | outgoing
  | activity
  | template
  deriving DecidableEq, Repr

def MessageType.value : MessageType → String
  | .incoming => "incoming"
  | .outgoing => "outgoing"
  | .activity => "activity"
  | .template => "template"

inductive SenderType where
  | contact
  | agentBot
  | user
  | system
  deriving DecidableEq, Repr

def SenderType.value : SenderType → String
  | .contact => "contact"
  | .agentBot => "agent_bot"
  | .user => "user"
  | .system => "system"

inductive EligibilityReason where
  | accepted
  | outgoingMessage
  | botSender
  | privateNote
  | accountMismatch
  | duplicateEvent
  | debounceActive
  | unsupportedEventType
  deriving DecidableEq, Repr

structure EligibilityDecision where
  eligible : Bool
  reason : EligibilityReason
  details : String := ""
  enrichmentNeeded : Bool := false
  enrichmentFields : List String := []
  deriving DecidableEq, Repr

namespace EligibilityDecision

def accept : EligibilityDecision where
  eligible := true
  reason := .accepted

def reject (reason : EligibilityReason) (details : String) : EligibilityDecision where
  eligible := false
  reason := reason
  details := details

end EligibilityDecision

structure TenantContext where
  tenantId : Uuid
  tenantKey : String
  providerAccountId : String
  deriving DecidableEq, Repr

/-- The fields of a normalized event that the checks and the job are made from. -/
structure NormalizedChatwootEvent where
  correlationId : String
  idempotencyKey : String
  rawHash : String
  accountIdRef : String
  conversationId : String
  messageType : Option MessageType := none
  senderType : Option SenderType := none
  contentText : Option String := none
  isPrivate : Bool := false
  deriving DecidableEq, Repr

/-- What the normalizer keeps of a message's text: nothing of a private note,
and at most 4096 characters. -/
def contentText (isPrivate : Bool) (content : Option String) : Option String :=
  if isPrivate then none else content.map fun s => PyStr.slice s 4096

/-- `_make_account_ref`, over the hexadecimal SHA-256 digest of a string. -/
def makeAccountRef (sha256 : String → String) (accountId : String) : String :=
  "acct:" ++ PyStr.slice (sha256 accountId) 12

structure EligibilityChecker where
  sha256 : String → String
  tenant : TenantContext

namespace EligibilityChecker

variable (checker : EligibilityChecker) (event : NormalizedChatwootEvent)

/-- Rules 1 to 6; `none` where none of them rejects. -/
def checkEvent : Option EligibilityDecision :=
  if event.accountIdRef ≠ makeAccountRef checker.sha256 checker.tenant.providerAccountId then
    some (.reject .accountMismatch "account binding mismatch")
  else
    match event.messageType with
    | none =>
        some (.reject .unsupportedEventType
          "event has no message_type — not a processable message event")
    | some .outgoing => some (.reject .outgoingMessage "outgoing messages do not trigger agent")
    | some .activity =>
        some (.reject .unsupportedEventType
          ("message_type=" ++ MessageType.activity.value ++ " is not eligible"))
    | some .template =>
        some (.reject .unsupportedEventType
          ("message_type=" ++ MessageType.template.value ++ " is not eligible"))
    | some .incoming =>
        match event.senderType with
        | some .agentBot =>
            some (.reject .botSender
              ("sender_type=" ++ SenderType.agentBot.value ++ " is not eligible"))
        | some .system =>
            some (.reject .botSender
              ("sender_type=" ++ SenderType.system.value ++ " is not eligible"))
        | _ =>
            if event.isPrivate then
              some (.reject .privateNote "private notes are excluded from agent processing")
            else none

/-- Past the rules no sender is a bot or the system. -/
theorem senderType_of_checkEvent {checker : EligibilityChecker} {event : NormalizedChatwootEvent}
    (h : checker.checkEvent event = none) :
    event.senderType ≠ some .agentBot ∧ event.senderType ≠ some .system := by
  have hincoming : event.messageType = some .incoming := by
    unfold checkEvent at h
    split at h
    · cases h
    · cases htype : event.messageType with
      | none => simp only [htype] at h; cases h
      | some type =>
          cases type with
          | incoming => rfl
          | _ => simp only [htype] at h; cases h
  constructor <;>
  · intro hsender
    unfold checkEvent at h
    simp only [hincoming, hsender] at h
    split at h <;> cases h

/-- Rule 7. -/
def duplicateEvent : EligibilityDecision :=
  .reject .duplicateEvent "idempotency key already seen"

/-- Rule 8. -/
def debounceActive : EligibilityDecision :=
  .reject .debounceActive "conversation is in debounce window — event queued"

/-- `check`; a checker that is absent is `none`. -/
def check (isDuplicate isDebouncing : Option Bool) : EligibilityDecision :=
  match checker.checkEvent event with
  | some decision => decision
  | none =>
      if isDuplicate.getD false then duplicateEvent
      else if isDebouncing.getD false then debounceActive
      else .accept

theorem checkEvent_eq_some {decision : EligibilityDecision}
    (h : checker.checkEvent event = some decision) : decision.eligible = false := by
  unfold checkEvent at h
  split at h
  · cases h
    rfl
  · split at h
    · cases h
      rfl
    · cases h
      rfl
    · cases h
      rfl
    · cases h
      rfl
    · split at h
      · cases h
        rfl
      · cases h
        rfl
      · split at h
        · cases h
          rfl
        · cases h

/-- An event is eligible when no rule rejects it. -/
theorem check_eligible_iff {isDuplicate isDebouncing : Option Bool} :
    (checker.check event isDuplicate isDebouncing).eligible = true ↔
      checker.checkEvent event = none ∧ isDuplicate.getD false = false ∧
        isDebouncing.getD false = false := by
  unfold check
  cases h : checker.checkEvent event with
  | some decision => simp [checker.checkEvent_eq_some event h]
  | none =>
      simp only [true_and]
      cases isDuplicate.getD false with
      | true => simp [duplicateEvent, EligibilityDecision.reject]
      | false =>
          cases isDebouncing.getD false with
          | true => simp [debounceActive, EligibilityDecision.reject]
          | false => simp [EligibilityDecision.accept]

/-- A private note is not eligible. -/
theorem isPrivate_eq_false_of_checkEvent (h : checker.checkEvent event = none) :
    event.isPrivate = false := by
  unfold checkEvent at h
  split at h
  · cases h
  · split at h
    · cases h
    · cases h
    · cases h
    · cases h
    · split at h
      · cases h
      · cases h
      · split at h
        · cases h
        next hprivate => simpa using hprivate

end EligibilityChecker

end Iara.Eligibility
