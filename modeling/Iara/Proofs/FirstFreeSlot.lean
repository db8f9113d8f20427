import Iara.Provider.Scheduling.GoogleCalendar
import Mathlib

/-!
# The first free slot

Of all instants from the start of the range on, `_find_next_free_start` returns
the first at which a slot of half an hour meets no busy period.
-/

namespace Iara.Provider.GoogleCalendar

open Iara.Lib

/-- The instants of a slot from `t` on. -/
def slot (t : Int) : Set Int := Set.Ico t (t + slotLength)

/-- The instants of a busy period. -/
def span (period : Datetime × Datetime) : Set Int :=
  Set.Ico period.1.instant period.2.instant

section FirstFree

variable {py : PyTime} {busy : List (Datetime × Datetime)} {start c : Datetime}

theorem disjoint_slot_iff {period : Datetime × Datetime} {i : Int}
    (hproper : period.1.instant < period.2.instant) :
    Disjoint (slot i) (span period) ↔
      i + slotLength ≤ period.1.instant ∨ period.2.instant ≤ i := by
  have hslot := slotLength_pos
  unfold slot span
  rw [Set.Ico_disjoint_Ico]
  omega

theorem disjoint_iff_not_blocks {period : Datetime × Datetime}
    (hproper : period.1.instant < period.2.instant) :
    Disjoint (slot c.instant) (span period) ↔ ¬ Blocks period c := by
  rw [disjoint_slot_iff hproper, Availability.not_blocks_iff]

theorem free_iff_disjoint (hproper : ∀ period ∈ busy, period.1.instant < period.2.instant) :
    Free busy c ↔ ∀ period ∈ busy, Disjoint (slot c.instant) (span period) :=
  forall₂_congr fun period hperiod => (disjoint_iff_not_blocks (hproper period hperiod)).symm

/-- What the loop returns on the periods in order. -/
def firstFreeStart (busy : List (Datetime × Datetime)) (start : Datetime) : Datetime :=
  Availability.firstFree Datetime.instant slotLength (inOrder busy) start

theorem firstFreeStart_aware (haware : start.aware = true) (hbusy : AllAware busy) :
    (firstFreeStart busy start).aware = true := by
  rcases Availability.firstFree_eq_or_mem Datetime.instant slotLength (inOrder busy) start with
    h | ⟨period, hperiod, h⟩
  · rw [firstFreeStart, h]
    exact haware
  · rw [firstFreeStart, h]
    exact (hbusy.inOrder period hperiod).2

theorem firstFreeStart_isLeast
    (hproper : ∀ period ∈ busy, period.1.instant < period.2.instant) (start : Datetime) :
    IsLeast {i | start.instant ≤ i ∧ ∀ period ∈ busy, Disjoint (slot i) (span period)}
      (firstFreeStart busy start).instant := by
  constructor
  · have hfree : Free (inOrder busy) (firstFreeStart busy start) :=
      Availability.free_firstFree (pairwise_inOrder busy) start
    exact ⟨Availability.key_le_firstFree _ _,
      (free_iff_disjoint hproper).mp (free_inOrder_iff.mp hfree)⟩
  · rintro i ⟨hle, hdisjoint⟩
    refine Availability.key_firstFree_le hle fun period hperiod => ?_
    have hmem := mem_inOrder.mp hperiod
    exact (disjoint_slot_iff (hproper period hmem)).mp (hdisjoint period hmem)

/-- What the search comes to: the first free start, or a slot on the way to it would end
after the last datetime. -/
theorem findNextFreeStart_of_read {rangeStart : String} {busyPeriods : List BusyPeriod}
    (hstart : readTime py rangeStart = .ok start) (haware : start.aware = true)
    (hread : busyPeriods.mapM (readPeriod py) = .ok busy) (hbusy : AllAware busy) :
    findNextFreeStart py rangeStart busyPeriods =
      if ScanFits (inOrder busy) start then
        .ok (some (py.isoFormat (firstFreeStart busy start)))
      else .error "OverflowError" := by
  unfold findNextFreeStart
  rw [nextFreeStart_of_read hstart hread hbusy, nextFree_of_aware hbusy.inOrder haware]
  split <;> rfl

/-- The search tries the start and ends of busy periods, and nothing without any. -/
theorem exists_not_fits (h : ¬ ScanFits (inOrder busy) start) :
    busy ≠ [] ∧ ∃ c : Datetime, (c = start ∨ ∃ period ∈ busy, c = period.2) ∧
      ¬ c.Fits slotLength := by
  unfold ScanFits at h
  push Not at h
  obtain ⟨c, hc, hnot⟩ := h
  constructor
  · rintro rfl
    cases hc
  · refine ⟨c, (Availability.mem_tried hc).imp_right ?_, hnot⟩
    rintro ⟨period, hperiod, h⟩
    exact ⟨period, mem_inOrder.mp hperiod, h⟩

/-- The search returns the least instant from the start on whose slot meets none of
the busy periods, in whatever order these are and however they overlap.  Where there are
busy periods, and the start or one of their ends has no datetime half an hour later, it
may raise instead. -/
theorem findNextFreeStart_isLeast (py : PyTime) (rangeStart : String)
    (busyPeriods : List BusyPeriod) (start : Datetime) (busy : List (Datetime × Datetime))
    (hstart : readTime py rangeStart = .ok start) (haware : start.aware = true)
    (hread : busyPeriods.mapM (readPeriod py) = .ok busy) (hbusy : AllAware busy)
    (hproper : ∀ period ∈ busy, period.1.instant < period.2.instant) :
    (∃ t : Datetime, findNextFreeStart py rangeStart busyPeriods = .ok (some (py.isoFormat t)) ∧
      t.aware = true ∧
      IsLeast {i | start.instant ≤ i ∧ ∀ period ∈ busy, Disjoint (slot i) (span period)}
        t.instant) ∨
    findNextFreeStart py rangeStart busyPeriods = .error "OverflowError" ∧ busy ≠ [] ∧
      ∃ c : Datetime, (c = start ∨ ∃ period ∈ busy, c = period.2) ∧ ¬ c.Fits slotLength := by
  rw [findNextFreeStart_of_read hstart haware hread hbusy]
  by_cases hfits : ScanFits (inOrder busy) start
  · rw [if_pos hfits]
    exact .inl ⟨firstFreeStart busy start, rfl, firstFreeStart_aware haware hbusy,
      firstFreeStart_isLeast hproper start⟩
  · rw [if_neg hfits]
    exact .inr ⟨rfl, exists_not_fits hfits⟩

end FirstFree

/-! ## A morning with three appointments -/

def tenOClock : Datetime := .nearest 1772445600000000 (some 0)

def quarterPastTen : Datetime := .nearest 1772446500000000 (some 0)

def elevenOClock : Datetime := .nearest 1772449200000000 (some 0)

def twentyPastEleven : Datetime := .nearest 1772450400000000 (some 0)

/-- Noon in Recife. -/
def recifeNoon : Datetime := .nearest 1772452800000000 (some (-10800000000))

/-- The morning, UTC, and noon in Recife. -/
def morning : List (String × Datetime) :=
  [("2026-03-02T10:00:00+00:00", tenOClock), ("2026-03-02T10:15:00+00:00", quarterPastTen),
    ("2026-03-02T11:00:00+00:00", elevenOClock), ("2026-03-02T11:20:00+00:00", twentyPastEleven),
    ("2026-03-02T12:00:00-03:00", recifeNoon)]

def morningTime : PyTime where
  fromIsoFormat s := morning.lookup s
  isoFormat d := ((morning.find? fun entry => entry.2 = d).map Prod.fst).getD ""

/-- One period lies in another, and the gap before the last is too short for a slot. -/
def morningBusy : List BusyPeriod :=
  [[("start", "2026-03-02T11:20:00+00:00"), ("end", "2026-03-02T12:00:00-03:00")],
    [("start", "2026-03-02T10:00:00+00:00"), ("end", "2026-03-02T11:00:00+00:00")],
    [("start", "2026-03-02T10:00:00+00:00"), ("end", "2026-03-02T10:15:00+00:00")]]

def morningPeriods : List (Datetime × Datetime) :=
  [(twentyPastEleven, recifeNoon), (tenOClock, elevenOClock), (tenOClock, quarterPastTen)]

theorem morning_isLeast :
    ∃ t : Datetime,
      findNextFreeStart morningTime "2026-03-02T10:00:00Z" morningBusy =
        .ok (some (morningTime.isoFormat t)) ∧
      t.aware = true ∧
      IsLeast {i | tenOClock.instant ≤ i ∧
        ∀ period ∈ morningPeriods, Disjoint (slot i) (span period)} t.instant := by
  refine (findNextFreeStart_isLeast morningTime "2026-03-02T10:00:00Z" morningBusy tenOClock
    morningPeriods (by decide +kernel) rfl (by decide +kernel) (by unfold AllAware; decide)
    (by decide +kernel)).resolve_right ?_
  rintro ⟨hraised, -⟩
  have hfound : findNextFreeStart morningTime "2026-03-02T10:00:00Z" morningBusy =
      .ok (some "2026-03-02T12:00:00-03:00") := by decide +kernel
  rw [hfound] at hraised
  cases hraised

/-! ## The last evening -/

/-- A quarter to midnight on the last day of the calendar, five hours east. -/
def lastQuarter : Datetime := .nearest 253402299900000000 (some 18000000000)

def lastEvening : List (String × Datetime) :=
  ("9999-12-31T23:45:00+05:00", lastQuarter) :: morning

def lastTime : PyTime where
  fromIsoFormat s := lastEvening.lookup s
  isoFormat d := ((lastEvening.find? fun entry => entry.2 = d).map Prod.fst).getD ""

def longPast : List BusyPeriod :=
  [[("start", "2026-03-02T10:00:00+00:00"), ("end", "2026-03-02T11:00:00+00:00")]]

/-- The slot meets no busy period, and the search raises because it looks for its end. -/
theorem lastQuarter_overflows :
    findNextFreeStart lastTime "9999-12-31T23:45:00+05:00" longPast = .error "OverflowError" ∧
      longPast.mapM (readPeriod lastTime) = .ok [(tenOClock, elevenOClock)] ∧
      IsLeast {i | lastQuarter.instant ≤ i ∧
        ∀ period ∈ [(tenOClock, elevenOClock)], Disjoint (slot i) (span period)}
        lastQuarter.instant := by
  refine ⟨by decide +kernel, by decide +kernel, ⟨Int.le_refl _, ?_⟩, fun i hi => hi.1⟩
  rw [← free_iff_disjoint (by decide +kernel)]
  decide +kernel

end Iara.Provider.GoogleCalendar
