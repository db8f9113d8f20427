import Iara.Tools.FollowUpCatalog
import Mathlib.Order.Bounds.Basic

/-!
# Quiet hours

The quiet hours are hours of UTC, and `_is_quiet_hour` reads the hour of the wall
clock that a datetime carries.  A follow-up is triggered at the earliest instant
outside the quiet hours from the one that was asked for where the two clocks agree,
where that instant is not in the past, and where there is a datetime for it.
-/

namespace Iara.Tools

open Iara.Lib Iara.Persistence

/-- The instants from `i` on at which a follow-up may be sent. -/
def sendable (i : Int) : Set Int := {j | i ≤ j ∧ ¬ Quiet j}

/-- The time of day that the code rolls forward to, on one clock. -/
def awake (wall : Int) : Int := if Quiet wall then nextEight wall else wall

theorem awake_isLeast (i : Int) : IsLeast (sendable i) (awake i) := by
  unfold awake
  split
  · next hquiet =>
    have hspec := nextEight_spec hquiet
    rw [quiet_iff] at hquiet
    constructor
    · exact ⟨by omega, by rw [quiet_iff]; omega⟩
    · -- every instant of the hours before eight o'clock is quiet
      rintro j ⟨hle, hawake⟩
      rw [quiet_iff] at hawake
      omega
  · next hawake => exact ⟨⟨Int.le_refl _, hawake⟩, fun j hj => hj.1⟩

theorem awake_of_next {dt next : Datetime} (h : nextNonQuietTime dt = .ok next) :
    next.wall = awake dt.wall ∧ next.offset = dt.offset := by
  unfold awake
  split
  · next hquiet => exact (nextNonQuietTime_eq_ok_iff hquiet).mp h
  · next hawake =>
    rw [nextNonQuietTime_of_awake hawake] at h
    cases h
    exact ⟨rfl, rfl⟩

/-- Two clocks less than a day apart lead to one instant exactly where they show the
same time, or are both outside the quiet hours. -/
theorem awake_sub_iff {wall offset : Int}
    (hoffset : -Datetime.day < offset ∧ offset < Datetime.day) :
    awake wall - offset = awake (wall - offset) ↔
      offset = 0 ∨ ¬ Quiet wall ∧ ¬ Quiet (wall - offset) := by
  unfold Datetime.day Datetime.hour Datetime.minute at hoffset
  unfold awake
  by_cases hwall : Quiet wall
  · have hspec := nextEight_spec hwall
    by_cases hutc : Quiet (wall - offset)
    · -- two times at eight o'clock, each within ten hours of the instant
      have hspec' := nextEight_spec hutc
      simp only [hwall, hutc, if_true, not_true_eq_false, false_and, or_false]
      omega
    · rw [if_pos hwall, if_neg hutc]
      simp only [hwall, not_true_eq_false, false_and, or_false]
      constructor
      · intro hsame
        omega
      · rintro rfl
        rw [Int.sub_zero] at hutc
        exact absurd hwall hutc
  · by_cases hutc : Quiet (wall - offset)
    · have hspec' := nextEight_spec hutc
      rw [if_neg hwall, if_pos hutc]
      simp only [hutc, not_true_eq_false, and_false, or_false]
      constructor
      · intro hsame
        omega
      · rintro rfl
        rw [Int.sub_zero] at hutc
        exact absurd hutc hwall
    · simp [hwall, hutc]

/-! ## Requests -/

/-- What is asked for: a time, or a delay from now. -/
inductive Request where
  | at (asked : Datetime)
  | after (now : Datetime) (delay : Int)

namespace Request

/-- The instant that is asked for; a naive time is one in UTC. -/
def instant : Request → Int
  | .at asked => asked.instant
  | .after now delay => now.instant + delay

/-- A time is on the clock of UTC, and before the last evening of the calendar, or is
outside the quiet hours by both clocks; a delay ends before the last evening and, if it
is negative, has no sendable instant between its end and now. -/
def Holds : Request → Prop
  | .at asked =>
      asked.offset.getD 0 = 0 ∧ asked.wall < lastEvening ∨
        ¬ Quiet asked.wall ∧ ¬ Quiet asked.instant
  | .after now delay =>
      now.wall + max 0 delay < lastEvening ∧
        (0 ≤ delay ∨ ∀ j ∈ sendable (now.instant + delay), now.instant ≤ j)

end Request

namespace FollowUpRuntime

variable (runtime : FollowUpRuntime)

/-- The request of the arguments, if they name a time that can be read or a finite
delay. -/
def request (draw : Nat) (arguments : Parameters) : Option Request :=
  let triggerAtIso := (arguments.lookup "trigger_at_iso").getD (.str "")
  if triggerAtIso.truthy then
    match triggerAtIso with
    | .str s => (runtime.time.fromIsoFormat s).map .at
    | _ => none
  else
    match runtime.delayHours arguments with
    | .ok (.finite delay) => some (.after (runtime.now draw) delay)
    | _ => none

/-- The other arguments can be read, and nobody has opted out. -/
structure Schedulable (arguments : Parameters) : Prop where
  message : ∃ message, encoded ((arguments.lookup "message").getD (.str "")) = .ok message
  reason : ∃ ref, runtime.reasonRef ((arguments.lookup "reason").getD (.str "")) = .ok ref
  maxAttempts : ∃ n, runtime.int ((arguments.lookup "max_attempts").getD (.num 3)) = .ok n
  optedOut : ((arguments.lookup "opted_out").getD (.bool false)).truthy = false

section Triggers

variable (draw : Nat) (arguments : Parameters)
  (tenantId conversationId idempotencyKey correlationId : String)

/-- The follow-up is scheduled, for the earliest sendable instant from the one that was
asked for. -/
def TriggersEarliest (request : Request) : Prop :=
  ∃ payload, runtime.buildFollowupSchedulePayload draw arguments tenantId conversationId
      idempotencyKey correlationId = .ok (.scheduled payload) ∧
    IsLeast (sendable request.instant) payload.triggerAt

variable {runtime draw arguments tenantId conversationId idempotencyKey correlationId}

/-- What is scheduled depends on the trigger alone. -/
theorem exists_scheduled_iff {P : Int → Prop} (hform : runtime.Schedulable arguments) :
    (∃ payload, runtime.buildFollowupSchedulePayload draw arguments tenantId conversationId
        idempotencyKey correlationId = .ok (.scheduled payload) ∧ P payload.triggerAt) ↔
      ∃ asked next, runtime.triggerAt (runtime.now draw) arguments = .ok asked ∧
        nextNonQuietTime asked = .ok next ∧ P next.instant := by
  constructor
  · rintro ⟨payload, h, hP⟩
    obtain ⟨-, message, reasonRef, asked, next, maxAttempts, hasked, hnext, rfl⟩ := scheduled_inv h
    exact ⟨asked, next, hasked, hnext, hP⟩
  · rintro ⟨asked, next, hasked, hnext, hP⟩
    obtain ⟨message, hmessage⟩ := hform.message
    obtain ⟨ref, hreason⟩ := hform.reason
    obtain ⟨n, hattempts⟩ := hform.maxAttempts
    simp only [buildFollowupSchedulePayload, bind, Except.bind, hmessage, hreason, hasked, hnext,
      hform.optedOut, hattempts]
    exact ⟨_, rfl, hP⟩

/-- From a datetime on: the trigger is the earliest from an instant that is no later. -/
theorem next_isLeast_iff (asked : Datetime) (i : Int) :
    (∃ next, nextNonQuietTime asked = .ok next ∧ IsLeast (sendable i) next.instant) ↔
      asked.wall < lastEvening ∧
        IsLeast (sendable i) (awake asked.wall - asked.offset.getD 0) := by
  have hinstant : ∀ next, nextNonQuietTime asked = .ok next →
      next.instant = awake asked.wall - asked.offset.getD 0 := by
    intro next hnext
    obtain ⟨hwall, hoffset⟩ := awake_of_next hnext
    rw [Datetime.instant, hwall, hoffset]
  rw [← exists_nextNonQuietTime_iff]
  constructor
  · rintro ⟨next, hnext, hleast⟩
    exact ⟨⟨next, hnext⟩, hinstant next hnext ▸ hleast⟩
  · rintro ⟨⟨next, hnext⟩, hleast⟩
    exact ⟨next, hnext, (hinstant next hnext).symm ▸ hleast⟩

theorem lt_lastEvening_of_awake {dt : Datetime} (h : ¬ Quiet dt.wall) : dt.wall < lastEvening :=
  (exists_nextNonQuietTime_iff dt).mp ⟨dt, nextNonQuietTime_of_awake h⟩

/-- A time that is asked for. -/
theorem next_at_iff (asked : Datetime) :
    (∃ next, nextNonQuietTime asked.assumeUtc = .ok next ∧
        IsLeast (sendable asked.instant) next.instant) ↔ (Request.at asked).Holds := by
  have hoffset : -Datetime.day < asked.offset.getD 0 ∧ asked.offset.getD 0 < Datetime.day := by
    have hmem := asked.assumeUtc.offset_mem
    rw [Datetime.assumeUtc_offset] at hmem
    exact hmem _ rfl
  have hleast : IsLeast (sendable asked.instant) (awake asked.wall - asked.offset.getD 0) ↔
      awake asked.wall - asked.offset.getD 0 = awake (asked.wall - asked.offset.getD 0) :=
    ⟨fun h => h.unique (awake_isLeast asked.instant), fun h => h ▸ awake_isLeast asked.instant⟩
  rw [next_isLeast_iff, Datetime.assumeUtc_wall, Datetime.assumeUtc_offset, Option.getD_some,
    hleast, awake_sub_iff hoffset]
  constructor
  · rintro ⟨hlast, hutc | hawake⟩
    · exact .inl ⟨hutc, hlast⟩
    · exact .inr hawake
  · rintro (⟨hutc, hlast⟩ | hawake)
    · exact ⟨hlast, .inl hutc⟩
    · exact ⟨lt_lastEvening_of_awake hawake.1, .inr hawake⟩

/-- A delay that is asked for; one that is negative is taken for none. -/
theorem next_after_iff {now : Datetime} (hutc : now.offset = some 0) (delay : Int) :
    (∃ asked next, now.later (max 0 delay) = .ok asked ∧ nextNonQuietTime asked = .ok next ∧
        IsLeast (sendable (now.instant + delay)) next.instant) ↔
      (Request.after now delay).Holds := by
  have hnow : now.instant = now.wall := by
    rw [Datetime.instant, hutc]
    exact Int.sub_zero _
  have hlast : now.wall + max 0 delay < lastEvening → now.Fits (max 0 delay) := by
    intro h
    rw [Datetime.fits_iff (Int.le_max_left _ _)]
    unfold lastEvening Datetime.hour Datetime.minute at h
    omega
  -- the sendable instants from the request on are those from now on, if none is between
  have hleast : IsLeast (sendable (now.instant + delay)) (awake (now.wall + max 0 delay)) ↔
      (0 ≤ delay ∨ ∀ j ∈ sendable (now.instant + delay), now.instant ≤ j) := by
    have hawake := awake_isLeast (now.wall + max 0 delay)
    by_cases hdelay : 0 ≤ delay
    · rw [Int.max_eq_right hdelay] at hawake ⊢
      exact iff_of_true (hnow ▸ hawake) (.inl hdelay)
    · rw [Int.max_eq_left (by omega), Int.add_zero] at hawake ⊢
      simp only [hdelay, false_or, hnow]
      constructor
      · intro h j hj
        exact Int.le_trans hawake.1.1 (h.2 hj)
      · intro h
        exact ⟨⟨by have := hawake.1.1; omega, hawake.1.2⟩, fun j hj => hawake.2 ⟨h j hj, hj.2⟩⟩
  constructor
  · rintro ⟨asked, next, hasked, hnext⟩
    obtain ⟨hwall, hoffset⟩ := Datetime.later_eq_ok_iff.mp hasked
    obtain ⟨hevening, hearliest⟩ := (next_isLeast_iff asked _).mp ⟨next, hnext⟩
    rw [hwall, hoffset, hutc, Option.getD_some, Int.sub_zero] at hearliest
    exact ⟨hwall ▸ hevening, hleast.mp hearliest⟩
  · rintro ⟨hevening, hbetween⟩
    obtain ⟨asked, hasked⟩ := Datetime.later_of_fits (hlast hevening)
    obtain ⟨hwall, hoffset⟩ := Datetime.later_eq_ok_iff.mp hasked
    obtain ⟨next, hnext⟩ := (next_isLeast_iff asked (now.instant + delay)).mpr (by
      rw [hwall, hoffset, hutc, Option.getD_some, Int.sub_zero]
      exact ⟨hevening, hleast.mpr hbetween⟩)
    exact ⟨asked, next, hasked, hnext⟩

end Triggers

/-- The trigger of a follow-up is the earliest instant outside the quiet hours from the
one that its arguments ask for, exactly under the condition on the request. -/
theorem triggersEarliest_iff (runtime : FollowUpRuntime) (draw : Nat) (arguments : Parameters)
    (tenantId conversationId idempotencyKey correlationId : String) (request : Request)
    (hrequest : runtime.request draw arguments = some request)
    (hform : runtime.Schedulable arguments) :
    runtime.TriggersEarliest draw arguments tenantId conversationId idempotencyKey correlationId
        request ↔ request.Holds := by
  unfold TriggersEarliest
  rw [exists_scheduled_iff hform]
  unfold FollowUpRuntime.request at hrequest
  unfold triggerAt
  generalize (arguments.lookup "trigger_at_iso").getD (.str "") = triggerAtIso at hrequest ⊢
  cases htruthy : triggerAtIso.truthy with
  | true =>
      simp only [htruthy, if_true] at hrequest ⊢
      cases triggerAtIso with
      | str s =>
          obtain ⟨asked, hasked, rfl⟩ := Option.map_eq_some_iff.mp hrequest
          simp only [hasked, Except.ok.injEq, exists_and_left, exists_eq_left']
          exact next_at_iff asked
      | _ => cases hrequest
  | false =>
      simp only [htruthy, Bool.false_eq_true, if_false] at hrequest ⊢
      cases hhours : runtime.delayHours arguments with
      | error e => simp [hhours] at hrequest
      | ok hours =>
          cases hours with
          | finite delay =>
              simp only [hhours, Option.some.injEq] at hrequest
              subst hrequest
              exact next_after_iff rfl delay
          | _ => simp [hhours] at hrequest

end FollowUpRuntime

/-! ## Two nights -/

/-- Half past eleven, UTC. -/
def halfPastEleven : Datetime := .nearest 84600000000 (some 0)

/-- Eight in the evening in Recife. -/
def eightInRecife : Datetime := .nearest 72000000000 (some (-10800000000))

def nights : List (String × Datetime) :=
  [("1970-01-01T23:30:00+00:00", halfPastEleven), ("1970-01-01T20:00:00-03:00", eightInRecife)]

def nightIso (dt : Datetime) : String :=
  if dt.offset = some 0 then "1970-01-02T08:00:00+00:00" else "1970-01-01T20:00:00-03:00"

/-- The standard library, as far as the two nights call it. -/
def nightRuntime : FollowUpRuntime where
  time :=
    { fromIsoFormat := fun s => nights.lookup s
      isoFormat := nightIso }
  clock := fun _ => .nearest 43200000000 none
  sha256 := fun _ => "e3b0c44298fc1c149afbf4c8996fb92427ae41e4649b934ca495991b7852b855"
  str := fun _ => ""
  int := fun _ => .ok 3
  float := fun _ => .error "ValueError"

def nightPayload (dt : Datetime) : FollowUpPayload where
  tenantId := "00000000-0000-0000-0000-000000000001"
  conversationId := "7"
  contactRef := ""
  messageRef := "msg:" ++ nightRuntime.textRef ""
  messageLength := 0
  reasonRef := ""
  triggerAt := dt.instant
  triggerAtIso := nightIso dt
  idempotencyKey := "key"
  correlationId := "corr"
  maxAttempts := 3

def nightArguments (triggerAtIso : String) : Parameters := [("trigger_at_iso", .str triggerAtIso)]

theorem nightSchedulable (triggerAtIso : String) :
    nightRuntime.Schedulable (nightArguments triggerAtIso) :=
  ⟨⟨"", rfl⟩, ⟨"", rfl⟩, ⟨3, rfl⟩, rfl⟩

theorem night_triggersEarliest :
    nightRuntime.TriggersEarliest 0 (nightArguments "1970-01-01T23:30:00+00:00")
      "00000000-0000-0000-0000-000000000001" "7" "key" "corr" (.at halfPastEleven) :=
  (FollowUpRuntime.triggersEarliest_iff nightRuntime 0 (nightArguments "1970-01-01T23:30:00+00:00")
    _ _ _ _ (.at halfPastEleven) rfl (nightSchedulable _)).mpr (.inl ⟨rfl, by decide⟩)

/-- Eight in the evening in Recife is eleven at night, UTC, and stays as it is. -/
theorem evening_not_earliest :
    nightRuntime.request 0 (nightArguments "1970-01-01T20:00:00-03:00") =
        some (.at eightInRecife) ∧
      ¬ nightRuntime.TriggersEarliest 0 (nightArguments "1970-01-01T20:00:00-03:00")
        "00000000-0000-0000-0000-000000000001" "7" "key" "corr" (.at eightInRecife) := by
  refine ⟨rfl, ?_⟩
  rintro ⟨payload, hscheduled, hleast⟩
  have hkept : nightRuntime.buildFollowupSchedulePayload 0
      (nightArguments "1970-01-01T20:00:00-03:00") "00000000-0000-0000-0000-000000000001" "7"
        "key" "corr" = .ok (.scheduled (nightPayload eightInRecife)) := rfl
  obtain rfl : nightPayload eightInRecife = payload := by
    rw [hkept] at hscheduled
    cases hscheduled
    rfl
  exact absurd hleast.1.2 (by decide)

end Iara.Tools
