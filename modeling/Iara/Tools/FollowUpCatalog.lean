import Iara.Lib.PyDatetime
import Iara.Tools.Gateway

/-!
# The follow-up catalog

`build_followup_schedule_payload`, with its quiet hours.  The clock, the hash and
the conversions of the standard library are fields of the runtime.
-/

namespace Iara.Tools

open Iara.Lib Iara.Persistence

/-! ## Quiet hours -/

def quietHoursStart : Nat := 22

def quietHoursEnd : Nat := 8

/-- The hour of the day of a wall clock. -/
def hourOf (wall : Int) : Int := wall / Datetime.hour % 24

/-- The window is one that passes midnight. -/
def Quiet (wall : Int) : Prop := quietHoursStart ≤ hourOf wall ∨ hourOf wall < quietHoursEnd

instance (wall : Int) : Decidable (Quiet wall) := inferInstanceAs (Decidable (_ ∨ _))

def isQuietHour (dt : Datetime) : Bool := decide (Quiet dt.wall)

def nextNonQuietTime (triggerAt : Datetime) : Except String Datetime :=
  if !isQuietHour triggerAt then .ok triggerAt
  else do
    let candidate := triggerAt.atHour quietHoursEnd (by decide)
    let past ← candidate.le triggerAt
    if past then candidate.later Datetime.day else return candidate

/-- Quiet is the time from ten in the evening to eight in the morning. -/
theorem quiet_iff {wall : Int} :
    Quiet wall ↔ 79200000000 ≤ wall % 86400000000 ∨ wall % 86400000000 < 28800000000 := by
  unfold Quiet hourOf quietHoursStart quietHoursEnd Datetime.hour Datetime.minute
  omega

theorem nextNonQuietTime_of_awake {dt : Datetime} (h : ¬ Quiet dt.wall) :
    nextNonQuietTime dt = .ok dt := by
  unfold nextNonQuietTime isQuietHour
  rw [decide_eq_false h]
  rfl

/-- The next eight o'clock of a wall clock. -/
def nextEight (wall : Int) : Int :=
  let eight := wall / Datetime.day * Datetime.day + quietHoursEnd * Datetime.hour
  if eight ≤ wall then eight + Datetime.day else eight

theorem nextNonQuietTime_eq_ok_iff {dt next : Datetime} (h : Quiet dt.wall) :
    nextNonQuietTime dt = .ok next ↔ next.wall = nextEight dt.wall ∧ next.offset = dt.offset := by
  have hle := Datetime.le_of_offset (Datetime.atHour_offset dt quietHoursEnd (by decide))
  rw [Datetime.atHour_wall] at hle
  unfold nextNonQuietTime isQuietHour nextEight
  rw [decide_eq_true h]
  simp only [Bool.not_true, Bool.false_eq_true, if_false, bind, Except.bind, hle]
  by_cases hpast : dt.wall / Datetime.day * Datetime.day + quietHoursEnd * Datetime.hour ≤ dt.wall
  · simp only [hpast, decide_true, if_true]
    rw [Datetime.later_eq_ok_iff, Datetime.atHour_wall, Datetime.atHour_offset]
  · simp only [hpast, decide_false, Bool.false_eq_true, if_false]
    constructor
    · intro hsame
      cases hsame
      exact ⟨rfl, rfl⟩
    · rintro ⟨hwall, hoffset⟩
      exact congrArg Except.ok (Datetime.ext hwall.symm hoffset.symm)

theorem nextEight_spec {wall : Int} (h : Quiet wall) :
    nextEight wall % 86400000000 = 28800000000 ∧ wall < nextEight wall ∧
      nextEight wall ≤ wall + 36000000000 := by
  rw [quiet_iff] at h
  unfold nextEight quietHoursEnd Datetime.day Datetime.hour Datetime.minute
  simp only
  split <;> omega

/-- Ten o'clock in the evening of the last day there is. -/
def lastEvening : Int := Datetime.maxWall + 1 - 2 * Datetime.hour

/-- In the last two hours of the calendar there is no next non-quiet time. -/
theorem exists_nextNonQuietTime_iff (dt : Datetime) :
    (∃ next, nextNonQuietTime dt = .ok next) ↔ dt.wall < lastEvening := by
  have hmem := dt.wall_mem
  by_cases hquiet : Quiet dt.wall
  · have hspec := nextEight_spec hquiet
    have hquiet' := quiet_iff.mp hquiet
    have hbounds : Datetime.minWall ≤ nextEight dt.wall ∧ nextEight dt.wall ≤ Datetime.maxWall ↔
        dt.wall < lastEvening := by
      unfold lastEvening Datetime.minWall Datetime.maxWall Datetime.day Datetime.hour
        Datetime.minute at *
      omega
    rw [← hbounds]
    constructor
    · rintro ⟨next, hnext⟩
      rw [← ((nextNonQuietTime_eq_ok_iff hquiet).mp hnext).1]
      exact next.wall_mem
    · intro hin
      exact ⟨{ dt with wall := nextEight dt.wall, wall_mem := hin },
        (nextNonQuietTime_eq_ok_iff hquiet).mpr ⟨rfl, rfl⟩⟩
  · refine iff_of_true ⟨dt, nextNonQuietTime_of_awake hquiet⟩ ?_
    rw [quiet_iff] at hquiet
    unfold lastEvening Datetime.maxWall Datetime.day Datetime.hour Datetime.minute at *
    omega

/-- The next non-quiet time is outside the quiet hours. -/
theorem nextNonQuietTime_awake {dt next : Datetime} (h : nextNonQuietTime dt = .ok next) :
    isQuietHour next = false := by
  refine decide_eq_false ?_
  by_cases hquiet : Quiet dt.wall
  · have hspec := nextEight_spec hquiet
    rw [quiet_iff, ((nextNonQuietTime_eq_ok_iff hquiet).mp h).1]
    omega
  · rw [nextNonQuietTime_of_awake hquiet] at h
    cases h
    exact hquiet

/-! ## The runtime -/

/-- A float, as a number of hours: a finite one by the microseconds that `timedelta`
rounds it to. -/
inductive Hours where
  | finite (microseconds : Int)
  | infinity
  | negativeInfinity
  | nan

/-- `timedelta(hours=max(0.0, hours))`. -/
def Hours.delay : Hours → Except String Int
  | .finite microseconds => .ok (max 0 microseconds)
  | .infinity => .error "OverflowError"
  | .negativeInfinity => .ok 0
  -- `nan > 0.0` is false
  | .nan => .ok 0

/-- What the payload takes from the clock and the standard library. -/
structure FollowUpRuntime where
  time : PyTime
  /-- The wall clock of `datetime.now(UTC)`, by the number of the draw. -/
  clock : Nat → Datetime
  /-- `hashlib.sha256(text.encode()).hexdigest()`. -/
  sha256 : String → String
  /-- `str(value)`. -/
  str : Json → String
  /-- `int(value)`. -/
  int : Json → Except String Int
  /-- `float(value)`. -/
  float : Json → Except String Hours

namespace FollowUpRuntime

variable (runtime : FollowUpRuntime)

/-- `datetime.now(UTC)`. -/
def now (draw : Nat) : Datetime := (runtime.clock draw).replaceUtc

def textRef (text : String) : String := PyStr.slice (runtime.sha256 text) 16

/-- `value.encode()` is a method of strings only. -/
def encoded : Json → Except String String
  | .str s => .ok s
  | _ => .error "AttributeError"

def reasonRef (reason : Json) : Except String String :=
  if reason.truthy then (encoded reason).map runtime.textRef else .ok ""

/-- `float(arguments.get("delay_hours", 1.0))`. -/
def delayHours (arguments : Parameters) : Except String Hours :=
  match arguments.lookup "delay_hours" with
  | none => .ok (.finite Datetime.hour)
  | some value => runtime.float value

def triggerAt (now : Datetime) (arguments : Parameters) : Except String Datetime :=
  let triggerAtIso := (arguments.lookup "trigger_at_iso").getD (.str "")
  if triggerAtIso.truthy then
    match triggerAtIso with
    | .str s =>
        match runtime.time.fromIsoFormat s with
        | some triggerAt => .ok triggerAt.assumeUtc
        | none => now.later Datetime.hour
    | _ => .error "TypeError"
  else do
    let hours ← runtime.delayHours arguments
    let delay ← hours.delay
    now.later delay

def buildFollowupSchedulePayload (draw : Nat) (arguments : Parameters)
    (tenantId conversationId idempotencyKey correlationId : String) :
    Except String FollowUpDecision := do
  let message ← encoded ((arguments.lookup "message").getD (.str ""))
  let reasonRef ← runtime.reasonRef ((arguments.lookup "reason").getD (.str ""))
  let contactRef := runtime.str ((arguments.lookup "contact_ref").getD (.str ""))
  let triggerAt ← runtime.triggerAt (runtime.now draw) arguments
  let triggerAt ← nextNonQuietTime triggerAt
  if ((arguments.lookup "opted_out").getD (.bool false)).truthy then
    return .skipped
      [("status", .str "skipped"), ("skip_reason", .str "opted_out"),
        ("idempotency_key", .str idempotencyKey)]
  let maxAttempts ← runtime.int ((arguments.lookup "max_attempts").getD (.num 3))
  return .scheduled
    { tenantId := tenantId
      conversationId := conversationId
      contactRef := contactRef
      messageRef := "msg:" ++ runtime.textRef message
      messageLength := message.length
      reasonRef := reasonRef
      triggerAt := triggerAt.instant
      triggerAtIso := runtime.time.isoFormat triggerAt
      idempotencyKey := idempotencyKey
      correlationId := correlationId
      maxAttempts := maxAttempts }

variable {runtime} {draw : Nat} {arguments : Parameters}
  {tenantId conversationId idempotencyKey correlationId : String} {payload : FollowUpPayload}

/-- How a payload comes to be scheduled. -/
theorem scheduled_inv
    (h : runtime.buildFollowupSchedulePayload draw arguments tenantId conversationId
      idempotencyKey correlationId = .ok (.scheduled payload)) :
    ((arguments.lookup "opted_out").getD (.bool false)).truthy = false ∧
      ∃ message reasonRef asked dt maxAttempts,
        runtime.triggerAt (runtime.now draw) arguments = .ok asked ∧
        nextNonQuietTime asked = .ok dt ∧
        payload =
          { tenantId := tenantId
            conversationId := conversationId
            contactRef := runtime.str ((arguments.lookup "contact_ref").getD (.str ""))
            messageRef := "msg:" ++ runtime.textRef message
            messageLength := message.length
            reasonRef := reasonRef
            triggerAt := dt.instant
            triggerAtIso := runtime.time.isoFormat dt
            idempotencyKey := idempotencyKey
            correlationId := correlationId
            maxAttempts := maxAttempts } := by
  unfold buildFollowupSchedulePayload at h
  obtain ⟨message, -, h⟩ := bind_eq_ok h
  obtain ⟨reasonRef, -, h⟩ := bind_eq_ok h
  obtain ⟨asked, hasked, h⟩ := bind_eq_ok h
  obtain ⟨dt, hnext, h⟩ := bind_eq_ok h
  cases hoptedOut : ((arguments.lookup "opted_out").getD (.bool false)).truthy with
  | true =>
      rw [hoptedOut] at h
      cases h
  | false =>
      rw [hoptedOut] at h
      obtain ⟨maxAttempts, -, h⟩ := bind_eq_ok h
      cases h
      exact ⟨rfl, message, reasonRef, asked, dt, maxAttempts, hasked, hnext, rfl⟩

/-- What is returned for a send that is suppressed. -/
theorem skipped_eq {skipped : Parameters}
    (h : runtime.buildFollowupSchedulePayload draw arguments tenantId conversationId
      idempotencyKey correlationId = .ok (.skipped skipped)) :
    skipped =
      [("status", .str "skipped"), ("skip_reason", .str "opted_out"),
        ("idempotency_key", .str idempotencyKey)] := by
  unfold buildFollowupSchedulePayload at h
  obtain ⟨message, -, h⟩ := bind_eq_ok h
  obtain ⟨reasonRef, -, h⟩ := bind_eq_ok h
  obtain ⟨asked, -, h⟩ := bind_eq_ok h
  obtain ⟨dt, -, h⟩ := bind_eq_ok h
  cases hoptedOut : ((arguments.lookup "opted_out").getD (.bool false)).truthy with
  | true =>
      rw [hoptedOut] at h
      cases h
      rfl
  | false =>
      rw [hoptedOut] at h
      obtain ⟨maxAttempts, -, h⟩ := bind_eq_ok h
      cases h

/-- A scheduled payload carries the identifiers it was asked for, and triggers
outside the quiet hours. -/
theorem scheduled_spec
    (h : runtime.buildFollowupSchedulePayload draw arguments tenantId conversationId
      idempotencyKey correlationId = .ok (.scheduled payload)) :
    payload.tenantId = tenantId ∧ payload.conversationId = conversationId ∧
      payload.idempotencyKey = idempotencyKey ∧ payload.correlationId = correlationId ∧
      ((arguments.lookup "opted_out").getD (.bool false)).truthy = false ∧
      ∃ dt, isQuietHour dt = false ∧ payload.triggerAt = dt.instant := by
  obtain ⟨hoptedOut, message, reasonRef, asked, dt, maxAttempts, -, hnext, rfl⟩ := scheduled_inv h
  exact ⟨rfl, rfl, rfl, rfl, hoptedOut, dt, nextNonQuietTime_awake hnext, rfl⟩

end FollowUpRuntime

end Iara.Tools
