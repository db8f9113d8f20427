import Iara.Lib.PyJson
import Iara.Proofs.FirstFreeSlot

/-!
# Answers about availability

`check_availability` counts the free slots of a grid from the start of the range on,
and names the first free start without a look at the end of the range.  The two agree
with each other and with the range exactly where a slot of the grid is free or, at the
end of the calendar, where one of them raises and no half hour of the range is free.
-/

namespace Iara.Provider.GoogleCalendar

open Iara.Lib

/-- The slot from `t` on lies inside the range. -/
def Within (start stop : Datetime) (t : Int) : Prop :=
  start.instant ≤ t ∧ t + slotLength ≤ stop.instant

/-- The slot from `t` on meets no busy period. -/
def Clear (busy : List (Datetime × Datetime)) (t : Int) : Prop :=
  ∀ period ∈ busy, Disjoint (slot t) (span period)

/-- What a summary says is what the range and the busy periods are. -/
structure Consistent (py : PyTime) (start stop : Datetime) (busy : List (Datetime × Datetime))
    (summary : AvailabilitySummary) : Prop where
  next_iff : summary.nextAvailableSlot.isSome = true ↔ ∃ t, Within start stop t ∧ Clear busy t
  next_within : ∀ s ∈ summary.nextAvailableSlot,
    ∃ t : Datetime, s = py.isoFormat t ∧ Within start stop t.instant
  count_iff : 0 < summary.availableSlotsCount ↔ summary.nextAvailableSlot.isSome = true

/-- A slot of the grid from the start on lies inside the range and is free. -/
def GridSlotFree (start stop : Datetime) (busy : List (Datetime × Datetime)) : Prop :=
  ∃ k : Nat, Within start stop (start.instant + k * slotLength) ∧
    Clear busy (start.instant + k * slotLength)

section Answers

variable {py : PyTime} {busy : List (Datetime × Datetime)} {start stop : Datetime}
  {rangeStart rangeEnd : String} {busyPeriods : List BusyPeriod}

theorem filterMap_of_read (hread : busyPeriods.mapM (readPeriod py) = .ok busy) :
    (busyPeriods.filterMap fun period => (readPeriod py period).toOption) = busy := by
  induction busyPeriods generalizing busy with
  | nil =>
      cases hread
      rfl
  | cons period rest ih =>
      rw [List.mapM_cons] at hread
      obtain ⟨p, hp, hread⟩ := bind_eq_ok hread
      obtain ⟨ps, hps, hread⟩ := bind_eq_ok hread
      cases hread
      rw [List.filterMap_cons, hp, ih hps]
      rfl

/-- One of the two loops looks for a slot that would end after the last datetime. -/
def Overflows (start stop : Datetime) (busy : List (Datetime × Datetime)) : Prop :=
  GridOverflows start stop ∨ ¬ ScanFits (inOrder busy) start

theorem countFreeSlots_of_read (hstart : readTime py rangeStart = .ok start)
    (hstop : readTime py rangeEnd = .ok stop)
    (hread : busyPeriods.mapM (readPeriod py) = .ok busy) :
    countFreeSlots py rangeStart rangeEnd busyPeriods =
      (freeSlots busy stop (wholeSlots start stop + 1) start).map List.length := by
  unfold countFreeSlots countedSlots
  rw [hstart, hstop]
  simp only [filterMap_of_read hread]

/-- The slots that are counted are there exactly where a slot of the grid is free. -/
theorem countFreeSlots_pos_iff (hstart : readTime py rangeStart = .ok start)
    (hstop : readTime py rangeEnd = .ok stop) (hstartAware : start.aware = true)
    (hstopAware : stop.aware = true) (hread : busyPeriods.mapM (readPeriod py) = .ok busy)
    (hbusy : AllAware busy) (hproper : ∀ period ∈ busy, period.1.instant < period.2.instant)
    (hfits : ¬ GridOverflows start stop) :
    ∃ n, countFreeSlots py rangeStart rangeEnd busyPeriods = .ok n ∧
      (0 < n ↔ GridSlotFree start stop busy) := by
  obtain ⟨slots, hslots, hmem⟩ :=
    mem_freeSlots_iff hbusy hstartAware hstopAware (Nat.lt_succ_self _) hfits
  rw [countFreeSlots_of_read hstart hstop hread, hslots]
  refine ⟨slots.length, rfl, ?_⟩
  have hgrid : ∀ (k : Nat) (c : Datetime), start.later (k * slotLength) = .ok c →
      (k < wholeSlots start stop ∧ Free busy c ↔
        Within start stop (start.instant + k * slotLength) ∧
          Clear busy (start.instant + k * slotLength)) := by
    intro k c hc
    have hlater := slots_nonneg k
    rw [lt_wholeSlots_iff, free_iff_disjoint hproper, Datetime.instant_of_later hc]
    unfold Within Clear
    constructor
    · rintro ⟨hends, hfree⟩
      exact ⟨⟨by omega, hends⟩, hfree⟩
    · rintro ⟨⟨-, hends⟩, hfree⟩
      exact ⟨hends, hfree⟩
  rw [List.length_pos_iff_exists_mem]
  constructor
  · rintro ⟨c, hc⟩
    obtain ⟨hfree, k, hk, hlater⟩ := (hmem c).mp hc
    exact ⟨k, (hgrid k c hlater).mp ⟨hk, hfree⟩⟩
  · rintro ⟨k, hk⟩
    have hlt : k < wholeSlots start stop := lt_wholeSlots_iff.mpr hk.1.2
    obtain ⟨c, hlater⟩ := Datetime.later_of_fits (fits_of_lt hfits hlt)
    exact ⟨c, (hmem c).mpr ⟨((hgrid k c hlater).mpr hk).2, k, hlt, hlater⟩⟩

/-- On a configured adapter and an answer that can be read, the summary has the count and
the first free start, and this is never missing. -/
theorem checkAvailability_of_read {adapter : GoogleCalendarAdapter} {data : FreeBusyAnswer}
    {serviceType calendarId : String} {n : Nat} {slot : String}
    (hconfigured : adapter.isConfigured = true)
    (hcount : countFreeSlots py rangeStart rangeEnd (data.busyOf calendarId) = .ok n)
    (hnext : findNextFreeStart py rangeStart (data.busyOf calendarId) = .ok (some slot)) :
    checkAvailability py adapter (.ok data) rangeStart rangeEnd serviceType calendarId =
      { availableSlotsCount := n
        nextAvailableSlot := some slot
        serviceType := serviceType
        configured := true } := by
  unfold checkAvailability
  rw [if_pos hconfigured]
  simp only [bind, Except.bind, hcount, hnext]
  rfl

/-- Where one of the loops raises, the answer is an error. -/
theorem checkAvailability_of_overflows {adapter : GoogleCalendarAdapter} {data : FreeBusyAnswer}
    {serviceType calendarId : String} (hconfigured : adapter.isConfigured = true)
    (hstart : readTime py rangeStart = .ok start) (hstop : readTime py rangeEnd = .ok stop)
    (hstartAware : start.aware = true) (hstopAware : stop.aware = true)
    (hread : (data.busyOf calendarId).mapM (readPeriod py) = .ok busy) (hbusy : AllAware busy)
    (hproper : ∀ period ∈ busy, period.1.instant < period.2.instant)
    (hover : Overflows start stop busy) :
    checkAvailability py adapter (.ok data) rangeStart rangeEnd serviceType calendarId =
      { availableSlotsCount := 0
        nextAvailableSlot := none
        serviceType := serviceType
        configured := true
        error := some "OverflowError" } := by
  unfold checkAvailability
  rw [if_pos hconfigured]
  by_cases hgrid : GridOverflows start stop
  · have hcount : countFreeSlots py rangeStart rangeEnd (data.busyOf calendarId) =
        .error "OverflowError" := by
      rw [countFreeSlots_of_read hstart hstop hread,
        freeSlots_of_overflows hbusy hstartAware hstopAware (Nat.lt_succ_self _) hgrid]
      rfl
    simp only [bind, Except.bind, hcount]
  · obtain ⟨n, hcount, -⟩ := countFreeSlots_pos_iff hstart hstop hstartAware hstopAware hread
      hbusy hproper hgrid
    have hnext : findNextFreeStart py rangeStart (data.busyOf calendarId) =
        .error "OverflowError" := by
      rw [findNextFreeStart_of_read hstart hstartAware hread hbusy,
        if_neg (hover.resolve_left hgrid)]
    simp only [bind, Except.bind, hcount, hnext]

/-- A free slot of the grid is no earlier than the first free start. -/
theorem firstFreeStart_within (hproper : ∀ period ∈ busy, period.1.instant < period.2.instant)
    (hgrid : GridSlotFree start stop busy) :
    Within start stop (firstFreeStart busy start).instant := by
  obtain ⟨k, ⟨hfrom, hends⟩, hclear⟩ := hgrid
  have hleast := firstFreeStart_isLeast hproper start
  have hle := hleast.2 ⟨hfrom, hclear⟩
  refine ⟨hleast.1.1, ?_⟩
  omega

/-- For aware ranges and aware busy periods in any order, the answer is consistent exactly
where a slot of the grid is free or, if a loop overflows, where no half hour of the range
is. -/
theorem answer_consistent_iff (py : PyTime) (adapter : GoogleCalendarAdapter)
    (data : FreeBusyAnswer) (rangeStart rangeEnd serviceType calendarId : String)
    (start stop : Datetime) (busy : List (Datetime × Datetime))
    (hconfigured : adapter.isConfigured = true)
    (hstart : readTime py rangeStart = .ok start) (hstop : readTime py rangeEnd = .ok stop)
    (hstartAware : start.aware = true) (hstopAware : stop.aware = true)
    (hread : (data.busyOf calendarId).mapM (readPeriod py) = .ok busy) (hbusy : AllAware busy)
    (hproper : ∀ period ∈ busy, period.1.instant < period.2.instant) :
    Consistent py start stop busy
        (checkAvailability py adapter (.ok data) rangeStart rangeEnd serviceType calendarId) ↔
      ¬ Overflows start stop busy ∧ GridSlotFree start stop busy ∨
        Overflows start stop busy ∧ ¬ ∃ t, Within start stop t ∧ Clear busy t := by
  by_cases hover : Overflows start stop busy
  · rw [checkAvailability_of_overflows hconfigured hstart hstop hstartAware hstopAware hread hbusy
      hproper hover]
    simp only [hover, not_true_eq_false, false_and, false_or, true_and]
    constructor
    · intro h hfree
      exact absurd (h.next_iff.mpr hfree) Bool.false_ne_true
    · intro hnone
      refine ⟨iff_of_false Bool.false_ne_true hnone, ?_,
        iff_of_false (Nat.lt_irrefl 0) Bool.false_ne_true⟩
      rintro s hs
      cases hs
  · obtain ⟨hgridFits, hscanFits⟩ := not_or.mp hover
    obtain ⟨n, hcount, hpos⟩ := countFreeSlots_pos_iff hstart hstop hstartAware hstopAware hread
      hbusy hproper hgridFits
    have hnext := findNextFreeStart_of_read hstart hstartAware hread hbusy
    rw [if_pos (not_not.mp hscanFits)] at hnext
    rw [checkAvailability_of_read hconfigured hcount hnext]
    simp only [hover, not_false_eq_true, true_and, false_and, or_false]
    constructor
    · intro h
      exact hpos.mp (h.count_iff.mpr rfl)
    · intro hgrid
      have hwithin := firstFreeStart_within hproper hgrid
      refine ⟨iff_of_true rfl ?_, ?_, iff_of_true (hpos.mpr hgrid) rfl⟩
      · exact ⟨_, hwithin, (firstFreeStart_isLeast hproper start).1.2⟩
      · rintro s hs
        obtain rfl := Option.some.inj hs
        exact ⟨firstFreeStart busy start, rfl, hwithin⟩

end Answers

/-! ## An hour at the clinic -/

def nineOClock : Datetime := .nearest 1772442000000000 (some 0)

def quarterPastNine : Datetime := .nearest 1772442900000000 (some 0)

def quarterToTen : Datetime := .nearest 1772444700000000 (some 0)

def clinicClock : List (String × Datetime) :=
  [("2026-03-02T09:00:00+00:00", nineOClock), ("2026-03-02T09:15:00+00:00", quarterPastNine),
    ("2026-03-02T09:45:00+00:00", quarterToTen), ("2026-03-02T10:00:00+00:00", tenOClock)]

def clinicTime : PyTime where
  fromIsoFormat s := clinicClock.lookup s
  isoFormat d := ((clinicClock.find? fun entry => entry.2 = d).map Prod.fst).getD ""

def clinicAdapter : GoogleCalendarAdapter where
  privateKey := some "key"
  clientEmail := some "agenda@clinic"

def clinicAnswer (busy : List BusyPeriod) : FreeBusyAnswer where
  calendars := some [("primary", { busy := some busy })]

/-- What is answered about the hour from nine to ten. -/
def clinicSummary (busy : List BusyPeriod) : AvailabilitySummary :=
  checkAvailability clinicTime clinicAdapter (.ok (clinicAnswer busy)) "2026-03-02T09:00:00Z"
    "2026-03-02T10:00:00Z" "general" "primary"

theorem clinic_consistent_iff :
    Consistent clinicTime nineOClock tenOClock [(nineOClock, quarterPastNine)]
        (checkAvailability clinicTime clinicAdapter
          (.ok (clinicAnswer
            [[("start", "2026-03-02T09:00:00Z"), ("end", "2026-03-02T09:15:00Z")]]))
          "2026-03-02T09:00:00Z" "2026-03-02T10:00:00Z" "general" "primary") ↔
      ¬ Overflows nineOClock tenOClock [(nineOClock, quarterPastNine)] ∧
          GridSlotFree nineOClock tenOClock [(nineOClock, quarterPastNine)] ∨
        Overflows nineOClock tenOClock [(nineOClock, quarterPastNine)] ∧
          ¬ ∃ t, Within nineOClock tenOClock t ∧ Clear [(nineOClock, quarterPastNine)] t :=
  answer_consistent_iff clinicTime clinicAdapter _ "2026-03-02T09:00:00Z" "2026-03-02T10:00:00Z"
    "general" "primary" nineOClock tenOClock [(nineOClock, quarterPastNine)] (by decide)
    (by decide +kernel) (by decide +kernel) rfl rfl rfl (by unfold AllAware; decide)
    (by decide +kernel)

def busyThroughout : List BusyPeriod :=
  [[("start", "2026-03-02T09:00:00Z"), ("end", "2026-03-02T10:00:00Z")]]

def freeInTheMiddle : List BusyPeriod :=
  [[("start", "2026-03-02T09:00:00Z"), ("end", "2026-03-02T09:15:00Z")],
    [("start", "2026-03-02T09:45:00Z"), ("end", "2026-03-02T10:00:00Z")]]

/-- No slot counted, and one named. -/
def noneButNext (slot : String) : AvailabilitySummary where
  availableSlotsCount := 0
  nextAvailableSlot := some slot
  serviceType := "general"
  configured := true

/-- An hour that is busy throughout has a next slot, which is after its end; and half an
hour that is free in the middle of the hour is named and not counted. -/
theorem clinic_not_consistent :
    (clinicSummary busyThroughout = noneButNext "2026-03-02T10:00:00+00:00" ∧
      ¬ Consistent clinicTime nineOClock tenOClock [(nineOClock, tenOClock)]
        (clinicSummary busyThroughout)) ∧
    clinicSummary freeInTheMiddle = noneButNext "2026-03-02T09:15:00+00:00" ∧
      ¬ Consistent clinicTime nineOClock tenOClock
        [(nineOClock, quarterPastNine), (quarterToTen, tenOClock)]
        (clinicSummary freeInTheMiddle) := by
  have hnone : ∀ busy slot, ¬ Consistent clinicTime nineOClock tenOClock busy
      (noneButNext slot) := fun busy slot h =>
    absurd (h.count_iff.mpr rfl) (Nat.lt_irrefl 0)
  have hfull : clinicSummary busyThroughout = noneButNext "2026-03-02T10:00:00+00:00" := by
    decide +kernel
  have hmiddle : clinicSummary freeInTheMiddle = noneButNext "2026-03-02T09:15:00+00:00" := by
    decide +kernel
  refine ⟨⟨hfull, ?_⟩, hmiddle, ?_⟩
  · rw [hfull]
    exact hnone _ _
  · rw [hmiddle]
    exact hnone _ _

end Iara.Provider.GoogleCalendar
