import Iara.Lib.Availability
import Iara.Lib.PyDatetime
import Iara.Lib.PyJson
import Mathlib.Tactic.Ring

/-!
# Reading availability from Google Calendar

`_count_free_slots` and `_find_next_free_start`, on the busy periods of a
freeBusy answer, and the summary that `check_availability` makes of the two.  Both
compare datetimes, and a naive one among aware ones makes them raise; so does a slot
that would end after the last datetime there is.
-/

namespace Iara.Provider.GoogleCalendar

open Iara.Lib

/-- A busy period, as the answer has it. -/
abbrev BusyPeriod := List (String × String)

def slotLength : Int := 30 * Datetime.minute

/-- `s.replace("Z", "+00:00")`. -/
def replaceZ (s : String) : String :=
  String.ofList (s.toList.flatMap fun c => if c = 'Z' then "+00:00".toList else [c])

variable (py : PyTime)

def readTime (s : String) : Except String Datetime :=
  match py.fromIsoFormat (replaceZ s) with
  | some d => .ok d
  | none => .error "ValueError"

def readField (period : BusyPeriod) (field : String) : Except String Datetime :=
  match period.lookup field with
  | some s => readTime py s
  | none => .error "KeyError"

def readPeriod (period : BusyPeriod) : Except String (Datetime × Datetime) := do
  let bs ← readField py period "start"
  let be ← readField py period "end"
  return (bs, be)

/-! ## Counting the free slots -/

/-- `any(bs < slot_end and be > cursor for bs, be in busy)`. -/
def isBusy (cursor slotEnd : Datetime) : List (Datetime × Datetime) → Except String Bool
  | [] => .ok false
  | (bs, be) :: rest => do
      let startsBefore ← bs.lt slotEnd
      let blocked ← if startsBefore then cursor.lt be else .ok false
      if blocked then .ok true else isBusy cursor slotEnd rest

/-- How many slots fit from the start on, one after the other. -/
def wholeSlots (start stop : Datetime) : Nat :=
  ((stop.instant - start.instant) / slotLength).toNat

/-- The starts of the slots that are counted, by at most so many rounds of the loop
`while cursor + step <= end`. -/
def freeSlots (busy : List (Datetime × Datetime)) (stop : Datetime) :
    Nat → Datetime → Except String (List Datetime)
  | 0, _ => .ok []
  | fuel + 1, cursor => do
      let slotEnd ← cursor.later slotLength
      let more ← slotEnd.le stop
      if more then
        let blocked ← isBusy cursor slotEnd busy
        let rest ← freeSlots busy stop fuel slotEnd
        return if blocked then rest else cursor :: rest
      else return []

/-- A range that cannot be read has no slots, and a period that cannot be read is
passed over. -/
def countedSlots (rangeStart rangeEnd : String) (busyPeriods : List BusyPeriod) :
    Except String (List Datetime) :=
  match readTime py rangeStart, readTime py rangeEnd with
  | .ok start, .ok stop =>
      let busy := busyPeriods.filterMap fun period => (readPeriod py period).toOption
      -- one round more than there are slots finds the end of the range
      freeSlots busy stop (wholeSlots start stop + 1) start
  | _, _ => .ok []

def countFreeSlots (rangeStart rangeEnd : String) (busyPeriods : List BusyPeriod) :
    Except String Nat :=
  (countedSlots py rangeStart rangeEnd busyPeriods).map List.length

/-! ## The next free start -/

/-- `sorted(..., key=lambda x: x[0])`. -/
def sortedByStart (busy : List (Datetime × Datetime)) :
    Except String (List (Datetime × Datetime)) :=
  if (busy.all fun p => p.1.aware) || (busy.all fun p => !p.1.aware) then
    .ok (busy.insertionSort fun p q => p.1.instant ≤ q.1.instant)
  else .error "TypeError"

def nextFree : List (Datetime × Datetime) → Datetime → Except String Datetime
  | [], cursor => .ok cursor
  | (bs, be) :: rest, cursor => do
      let slotEnd ← cursor.later slotLength
      let fits ← slotEnd.le bs
      if fits then .ok cursor
      else
        let ends ← cursor.lt be
        nextFree rest (if ends then be else cursor)

/-- The datetime that is returned, before it is printed. -/
def nextFreeStart (rangeStart : String) (busyPeriods : List BusyPeriod) :
    Except String (Option Datetime) :=
  match readTime py rangeStart with
  | .error _ => .ok none
  | .ok cursor => do
      let whole := busyPeriods.filter fun period =>
        (period.lookup "start").isSome && (period.lookup "end").isSome
      let busy ← whole.mapM (readPeriod py)
      let sorted ← sortedByStart busy
      let free ← nextFree sorted cursor
      return some free

def findNextFreeStart (rangeStart : String) (busyPeriods : List BusyPeriod) :
    Except String (Option String) :=
  (nextFreeStart py rangeStart busyPeriods).map fun free => free.map py.isoFormat

/-! ## The answer -/

/-- A calendar of a freeBusy answer. -/
structure FreeBusyCalendar where
  busy : Option (List BusyPeriod)

structure FreeBusyAnswer where
  calendars : Option (List (String × FreeBusyCalendar))

/-- `data.get("calendars", {}).get(calendar_id, {}).get("busy", [])`. -/
def FreeBusyAnswer.busyOf (data : FreeBusyAnswer) (calendarId : String) : List BusyPeriod :=
  (((data.calendars.getD []).lookup calendarId).bind FreeBusyCalendar.busy).getD []

structure AvailabilitySummary where
  availableSlotsCount : Nat
  nextAvailableSlot : Option String
  serviceType : String
  provider : String := "google_calendar"
  configured : Bool
  error : Option String := none
  deriving DecidableEq, Repr

structure GoogleCalendarAdapter where
  privateKey : Option String
  clientEmail : Option String

def GoogleCalendarAdapter.isConfigured (adapter : GoogleCalendarAdapter) : Bool :=
  PyStr.truthyOption adapter.privateKey && PyStr.truthyOption adapter.clientEmail

/-- `freeBusy` is what the token and the query come to: the body of the answer, or the
exception that one of them raised. -/
def checkAvailability (adapter : GoogleCalendarAdapter) (freeBusy : Except String FreeBusyAnswer)
    (dateRangeStart dateRangeEnd serviceType calendarId : String) : AvailabilitySummary :=
  if adapter.isConfigured then
    let answer : Except String (Nat × Option String) := do
      let data ← freeBusy
      let busyPeriods := data.busyOf calendarId
      let slotCount ← countFreeSlots py dateRangeStart dateRangeEnd busyPeriods
      let nextSlot ← findNextFreeStart py dateRangeStart busyPeriods
      return (slotCount, nextSlot)
    match answer with
    | .ok (slotCount, nextSlot) =>
        { availableSlotsCount := slotCount
          nextAvailableSlot := nextSlot
          serviceType := serviceType
          configured := true }
    | .error exception =>
        { availableSlotsCount := 0
          nextAvailableSlot := none
          serviceType := serviceType
          configured := true
          error := some exception }
  else
    { availableSlotsCount := 0
      nextAvailableSlot := none
      serviceType := serviceType
      configured := false
      error := some "service_account_missing" }

/-! ## Aware periods -/

section Aware

variable {py} {busy : List (Datetime × Datetime)} {cursor slotEnd c start stop : Datetime}
  {k n : Nat}

def AllAware (busy : List (Datetime × Datetime)) : Prop :=
  ∀ period ∈ busy, period.1.aware = true ∧ period.2.aware = true

abbrev Blocks (period : Datetime × Datetime) (c : Datetime) : Prop :=
  Availability.Blocks Datetime.instant slotLength period c

abbrev Free (busy : List (Datetime × Datetime)) (c : Datetime) : Prop :=
  Availability.Free Datetime.instant slotLength busy c

theorem slotLength_pos : 0 < slotLength := by decide

theorem AllAware.tail {period : Datetime × Datetime} (h : AllAware (period :: busy)) :
    AllAware busy := fun p hp => h p (List.mem_cons_of_mem _ hp)

/-- Between aware datetimes the test is whether the slot is free. -/
theorem isBusy_of_aware (hbusy : AllAware busy) (hcursor : cursor.aware = true)
    (hend : cursor.later slotLength = .ok slotEnd) :
    isBusy cursor slotEnd busy = .ok (decide (¬ Free busy cursor)) := by
  induction busy with
  | nil => simp [isBusy, Availability.Free]
  | cons period rest ih =>
      obtain ⟨bs, be⟩ := period
      have hbs : bs.aware = true := (hbusy (bs, be) List.mem_cons_self).1
      have hbe : be.aware = true := (hbusy (bs, be) List.mem_cons_self).2
      have hstart : bs.lt slotEnd = .ok (decide (bs.instant < cursor.instant + slotLength)) := by
        rw [Datetime.lt_of_aware (hbs.trans ((Datetime.aware_of_later hend).trans hcursor).symm),
          Datetime.instant_of_later hend]
      have hstop := Datetime.lt_of_aware (a := cursor) (b := be) (hcursor.trans hbe.symm)
      have hfree : Free ((bs, be) :: rest) cursor ↔ ¬ Blocks (bs, be) cursor ∧ Free rest cursor :=
        List.forall_mem_cons
      unfold isBusy
      rw [hstart, hstop, ih hbusy.tail]
      by_cases hblocks : Blocks (bs, be) cursor
      · have hnot : ¬ Free ((bs, be) :: rest) cursor := fun h => (hfree.mp h).1 hblocks
        simp [hblocks.1, hblocks.2, hnot, bind, Except.bind]
      · have hiff : Free ((bs, be) :: rest) cursor ↔ Free rest cursor := by
          rw [hfree, and_iff_right hblocks]
        by_cases hbefore : bs.instant < cursor.instant + slotLength
        · have hpast : ¬ cursor.instant < be.instant := fun h => hblocks ⟨hbefore, h⟩
          simp [hbefore, hpast, hiff, bind, Except.bind]
        · simp [hbefore, hiff, bind, Except.bind]

/-- One naive datetime against an aware period ends the test. -/
theorem isBusy_of_naive {period : Datetime × Datetime} (hperiod : period.1.aware = true)
    (hend : slotEnd.aware = false) :
    isBusy cursor slotEnd (period :: busy) = .error "TypeError" := by
  have hne : period.1.aware ≠ slotEnd.aware := by simp [hperiod, hend]
  unfold isBusy
  rw [Datetime.lt_of_not_aware hne]
  rfl

/-! ## The grid -/

/-- The loop runs as long as a whole slot is left. -/
theorem lt_wholeSlots_iff :
    k < wholeSlots start stop ↔ start.instant + k * slotLength + slotLength ≤ stop.instant := by
  have hdiv := Int.le_ediv_iff_mul_le (a := (k : Int) + 1) (b := stop.instant - start.instant)
    slotLength_pos
  have hmul : ((k : Int) + 1) * slotLength = k * slotLength + slotLength := by ring
  unfold wholeSlots
  omega

/-- The count looks for a slot beyond the whole ones, and its end is no datetime. -/
def GridOverflows (start stop : Datetime) : Prop :=
  ¬ start.Fits ((wholeSlots start stop + 1 : Nat) * slotLength)

instance (start stop : Datetime) : Decidable (GridOverflows start stop) :=
  inferInstanceAs (Decidable (¬ _))

theorem slots_nonneg (k : Nat) : 0 ≤ (k : Int) * slotLength :=
  Int.mul_nonneg (Int.natCast_nonneg k) slotLength_pos.le

/-- A grid that does not overflow has a datetime for each of its points. -/
theorem fits_of_lt (hfits : ¬ GridOverflows start stop) (hlt : k < wholeSlots start stop) :
    start.Fits (k * slotLength) := by
  have hbound := (Datetime.fits_iff (slots_nonneg _)).mp (not_not.mp hfits)
  have hle : (k : Int) * slotLength ≤ (wholeSlots start stop + 1 : Nat) * slotLength :=
    Int.mul_le_mul_of_nonneg_right (by omega) slotLength_pos.le
  rw [Datetime.fits_iff (slots_nonneg k)]
  omega

/-- One slot further on there is one whole slot less. -/
theorem wholeSlots_next (hend : cursor.later slotLength = .ok slotEnd)
    (hmore : slotEnd.instant ≤ stop.instant) :
    wholeSlots cursor stop = wholeSlots slotEnd stop + 1 := by
  have hinstant := Datetime.instant_of_later hend
  refine eq_of_forall_lt_iff fun k => ?_
  rw [lt_wholeSlots_iff]
  cases k with
  | zero =>
      simp only [Nat.zero_lt_succ, iff_true]
      omega
  | succ k =>
      rw [Nat.succ_lt_succ_iff, lt_wholeSlots_iff, hinstant]
      push_cast
      rw [show cursor.instant + ((k : Int) + 1) * slotLength + slotLength =
        cursor.instant + slotLength + k * slotLength + slotLength by ring]

theorem wholeSlots_last (hend : cursor.later slotLength = .ok slotEnd)
    (hlast : ¬ slotEnd.instant ≤ stop.instant) : wholeSlots cursor stop = 0 := by
  have hinstant := Datetime.instant_of_later hend
  by_contra hne
  have hmore := (lt_wholeSlots_iff (k := 0)).mp (Nat.pos_of_ne_zero hne)
  omega

/-- A point of the grid is where the grid starts, or one of the next slot's grid. -/
theorem grid_succ (hend : cursor.later slotLength = .ok slotEnd) (n : Nat) :
    (∃ k < n + 1, cursor.later (k * slotLength) = .ok c) ↔
      c = cursor ∨ ∃ k < n, slotEnd.later (k * slotLength) = .ok c := by
  obtain ⟨hwall, hoffset⟩ := Datetime.later_eq_ok_iff.mp hend
  rw [Nat.exists_lt_succ_left]
  refine or_congr (by simp [eq_comm]) (exists_congr fun k => and_congr_right fun _ => ?_)
  rw [Datetime.later_eq_ok_iff, Datetime.later_eq_ok_iff, hwall, hoffset]
  push_cast
  rw [show cursor.wall + ((k : Int) + 1) * slotLength =
    cursor.wall + slotLength + k * slotLength by ring]

theorem fits_next (hend : cursor.later slotLength = .ok slotEnd) (n : Nat) :
    cursor.Fits ((n + 1 : Nat) * slotLength) ↔ slotEnd.Fits (n * slotLength) := by
  rw [Datetime.fits_iff (slots_nonneg _), Datetime.fits_iff (slots_nonneg _),
    (Datetime.later_eq_ok_iff.mp hend).1]
  push_cast
  rw [show cursor.wall + ((n : Int) + 1) * slotLength =
    cursor.wall + slotLength + n * slotLength by ring]

/-- With rounds enough, the slots counted are those of the grid that are free. -/
theorem mem_freeSlots_iff {fuel : Nat} (hbusy : AllAware busy) (hcursor : cursor.aware = true)
    (hstop : stop.aware = true) (hfuel : wholeSlots cursor stop < fuel)
    (hfits : ¬ GridOverflows cursor stop) :
    ∃ slots, freeSlots busy stop fuel cursor = .ok slots ∧
      ∀ c, c ∈ slots ↔
        Free busy c ∧ ∃ k < wholeSlots cursor stop, cursor.later (k * slotLength) = .ok c := by
  induction fuel generalizing cursor with
  | zero => exact absurd hfuel (Nat.not_lt_zero _)
  | succ fuel ih =>
      have hstep : cursor.Fits slotLength := by
        have hbound := (Datetime.fits_iff (slots_nonneg _)).mp (not_not.mp hfits)
        have hrest := slots_nonneg (wholeSlots cursor stop)
        push_cast at hbound
        rw [Datetime.fits_iff slotLength_pos.le]
        rw [show cursor.wall + ((wholeSlots cursor stop : Int) + 1) * slotLength =
          cursor.wall + slotLength + wholeSlots cursor stop * slotLength by ring] at hbound
        omega
      obtain ⟨slotEnd, hend⟩ := Datetime.later_of_fits hstep
      have haware : slotEnd.aware = true := (Datetime.aware_of_later hend).trans hcursor
      unfold freeSlots
      simp only [hend, bind, Except.bind, Datetime.le_of_aware (haware.trans hstop.symm),
        isBusy_of_aware hbusy hcursor hend]
      by_cases hmore : slotEnd.instant ≤ stop.instant
      · have hcount := wholeSlots_next hend hmore
        obtain ⟨rest, hrest, hmem⟩ := ih haware (by omega) (by
          unfold GridOverflows at hfits ⊢
          rwa [hcount, fits_next hend] at hfits)
        simp only [hmore, decide_true, if_true, hrest]
        refine ⟨_, rfl, fun c => ?_⟩
        rw [hcount, grid_succ hend]
        by_cases hfree : Free busy cursor
        · simp only [hfree, not_true_eq_false, decide_false, Bool.false_eq_true, if_false,
            List.mem_cons, hmem]
          constructor
          · rintro (rfl | ⟨hc, hk⟩)
            · exact ⟨hfree, .inl rfl⟩
            · exact ⟨hc, .inr hk⟩
          · rintro ⟨hc, rfl | hk⟩
            · exact .inl rfl
            · exact .inr ⟨hc, hk⟩
        · simp only [hfree, not_false_eq_true, decide_true, if_true, hmem]
          constructor
          · rintro ⟨hc, hk⟩
            exact ⟨hc, .inr hk⟩
          · rintro ⟨hc, rfl | hk⟩
            · exact absurd hc hfree
            · exact ⟨hc, hk⟩
      · rw [wholeSlots_last hend hmore]
        simp only [hmore, decide_false, Bool.false_eq_true, if_false]
        exact ⟨[], rfl, by simp⟩

/-- A grid that overflows is not counted. -/
theorem freeSlots_of_overflows {fuel : Nat} (hbusy : AllAware busy)
    (hcursor : cursor.aware = true) (hstop : stop.aware = true)
    (hfuel : wholeSlots cursor stop < fuel) (hover : GridOverflows cursor stop) :
    freeSlots busy stop fuel cursor = .error "OverflowError" := by
  induction fuel generalizing cursor with
  | zero => exact absurd hfuel (Nat.not_lt_zero _)
  | succ fuel ih =>
      unfold freeSlots
      by_cases hstep : cursor.Fits slotLength
      · obtain ⟨slotEnd, hend⟩ := Datetime.later_of_fits hstep
        have haware : slotEnd.aware = true := (Datetime.aware_of_later hend).trans hcursor
        simp only [hend, bind, Except.bind, Datetime.le_of_aware (haware.trans hstop.symm),
          isBusy_of_aware hbusy hcursor hend]
        by_cases hmore : slotEnd.instant ≤ stop.instant
        · have hcount := wholeSlots_next hend hmore
          have hrest := ih haware (by omega) (by
            unfold GridOverflows at hover ⊢
            rwa [hcount, fits_next hend] at hover)
          simp only [hmore, decide_true, if_true, hrest]
        · -- the first end is a datetime, and there is no further one to look for
          unfold GridOverflows at hover
          rw [wholeSlots_last hend hmore, Nat.zero_add, Nat.cast_one, Int.one_mul] at hover
          exact absurd hstep hover
      · rw [Datetime.later_of_not_fits hstep]
        rfl

/-- A range that is counted from an aware start on has an aware end. -/
theorem aware_of_freeSlots {fuel : Nat} {slots : List Datetime} (hcursor : cursor.aware = true)
    (h : freeSlots busy stop (fuel + 1) cursor = .ok slots) : stop.aware = true := by
  unfold freeSlots at h
  obtain ⟨slotEnd, hend, h⟩ := bind_eq_ok h
  obtain ⟨more, hmore, -⟩ := bind_eq_ok h
  have haware : slotEnd.aware = true := (Datetime.aware_of_later hend).trans hcursor
  by_contra hnaive
  rw [Datetime.le_of_not_aware fun hkind => hnaive (hkind.symm.trans haware)] at hmore
  cases hmore

/-! ## The search -/

/-- Every slot that the search tries ends at a datetime. -/
def ScanFits (busy : List (Datetime × Datetime)) (cursor : Datetime) : Prop :=
  ∀ c ∈ Availability.tried Datetime.instant slotLength busy cursor, c.Fits slotLength

instance (busy : List (Datetime × Datetime)) (cursor : Datetime) :
    Decidable (ScanFits busy cursor) :=
  inferInstanceAs (Decidable (∀ c ∈ Availability.tried Datetime.instant slotLength busy cursor, _))

theorem scanFits_cons {period : Datetime × Datetime} :
    ScanFits (period :: busy) cursor ↔ cursor.Fits slotLength ∧
      (¬ cursor.instant + slotLength ≤ period.1.instant →
        ScanFits busy (if cursor.instant < period.2.instant then period.2 else cursor)) := by
  unfold ScanFits
  rw [Availability.tried, List.forall_mem_cons]
  refine and_congr_right fun _ => ?_
  by_cases h : cursor.instant + slotLength ≤ period.1.instant
  · simp [h]
  · simp [h]

/-- Between aware datetimes the loop is the scan, as far as its slots end at datetimes. -/
theorem nextFree_of_aware (hbusy : AllAware busy) (hcursor : cursor.aware = true) :
    nextFree busy cursor =
      if ScanFits busy cursor then
        .ok (Availability.firstFree Datetime.instant slotLength busy cursor)
      else .error "OverflowError" := by
  induction busy generalizing cursor with
  | nil => simp [nextFree, ScanFits, Availability.tried, Availability.firstFree]
  | cons period rest ih =>
      obtain ⟨bs, be⟩ := period
      have hbs : bs.aware = true := (hbusy (bs, be) List.mem_cons_self).1
      have hbe : be.aware = true := (hbusy (bs, be) List.mem_cons_self).2
      have hends := Datetime.lt_of_aware (a := cursor) (b := be) (hcursor.trans hbe.symm)
      unfold nextFree
      by_cases hstep : cursor.Fits slotLength
      · obtain ⟨slotEnd, hend⟩ := Datetime.later_of_fits hstep
        have hfits : slotEnd.le bs =
            .ok (decide (cursor.instant + slotLength ≤ bs.instant)) := by
          rw [Datetime.le_of_aware
            (((Datetime.aware_of_later hend).trans hcursor).trans hbs.symm),
            Datetime.instant_of_later hend]
        unfold Availability.firstFree
        simp only [hend, hfits, hends, bind, Except.bind, scanFits_cons, hstep, true_and]
        by_cases h : cursor.instant + slotLength ≤ bs.instant
        · simp [h]
        · by_cases hpast : cursor.instant < be.instant
          · simpa [h, hpast] using ih hbusy.tail hbe
          · simpa [h, hpast] using ih hbusy.tail hcursor
      · rw [if_neg fun h => hstep (scanFits_cons.mp h).1, Datetime.later_of_not_fits hstep]
        rfl

/-- The periods in the order in which the loop meets them. -/
def inOrder (busy : List (Datetime × Datetime)) : List (Datetime × Datetime) :=
  busy.insertionSort fun p q => p.1.instant ≤ q.1.instant

theorem mem_inOrder {period : Datetime × Datetime} : period ∈ inOrder busy ↔ period ∈ busy :=
  List.mem_insertionSort _

theorem free_inOrder_iff : Free (inOrder busy) c ↔ Free busy c :=
  ⟨fun h => h.of_subset fun _ => mem_inOrder.mpr, fun h => h.of_subset fun _ => mem_inOrder.mp⟩

theorem AllAware.inOrder (h : AllAware busy) : AllAware (inOrder busy) :=
  fun period hperiod => h period (mem_inOrder.mp hperiod)

theorem sortedByStart_of_aware (h : AllAware busy) : sortedByStart busy = .ok (inOrder busy) := by
  have hall : (busy.all fun p => p.1.aware) = true := List.all_eq_true.mpr fun p hp => (h p hp).1
  unfold sortedByStart GoogleCalendar.inOrder
  rw [hall, Bool.true_or, if_pos rfl]

theorem pairwise_inOrder (busy : List (Datetime × Datetime)) :
    (inOrder busy).Pairwise fun p q => p.1.instant ≤ q.1.instant := by
  have htotal : Std.Total fun p q : Datetime × Datetime => p.1.instant ≤ q.1.instant :=
    ⟨fun p q => Int.le_total p.1.instant q.1.instant⟩
  have htrans : IsTrans (Datetime × Datetime) fun p q => p.1.instant ≤ q.1.instant :=
    ⟨fun _ _ _ => Int.le_trans⟩
  exact List.pairwise_insertionSort _ _

theorem readPeriod_complete {period : BusyPeriod} {p : Datetime × Datetime}
    (h : readPeriod py period = .ok p) :
    ((period.lookup "start").isSome && (period.lookup "end").isSome) = true := by
  unfold readPeriod readField at h
  cases hstart : period.lookup "start" with
  | none =>
      rw [hstart] at h
      cases h
  | some bs =>
      cases hstop : period.lookup "end" with
      | none =>
          rw [hstart, hstop] at h
          cases hbs : readTime py bs <;> simp [hbs, bind, Except.bind] at h
      | some be => rfl

theorem readPeriod_of_mem {busyPeriods : List BusyPeriod}
    (hread : busyPeriods.mapM (readPeriod py) = .ok busy) :
    ∀ period ∈ busyPeriods, ∃ p, readPeriod py period = .ok p := by
  induction busyPeriods generalizing busy with
  | nil => simp
  | cons period rest ih =>
      rw [List.mapM_cons] at hread
      cases hp : readPeriod py period with
      | error e =>
          rw [hp] at hread
          cases hread
      | ok p =>
          cases hps : rest.mapM (readPeriod py) with
          | error e =>
              rw [hp, hps] at hread
              cases hread
          | ok ps => exact List.forall_mem_cons.mpr ⟨⟨p, hp⟩, ih hps⟩

/-- On aware periods that can be read, the search is the loop over them in order. -/
theorem nextFreeStart_of_read {rangeStart : String} {busyPeriods : List BusyPeriod}
    (hstart : readTime py rangeStart = .ok start)
    (hread : busyPeriods.mapM (readPeriod py) = .ok busy) (hbusy : AllAware busy) :
    nextFreeStart py rangeStart busyPeriods = (nextFree (inOrder busy) start).map some := by
  have hwhole : (busyPeriods.filter fun period =>
      (period.lookup "start").isSome && (period.lookup "end").isSome) = busyPeriods := by
    refine List.filter_eq_self.mpr fun period hperiod => ?_
    obtain ⟨p, hp⟩ := readPeriod_of_mem hread period hperiod
    exact readPeriod_complete hp
  unfold nextFreeStart
  rw [hstart]
  simp only [hwhole, hread, sortedByStart_of_aware hbusy, bind, Except.bind]
  cases nextFree _ start <;> rfl

theorem nextFree_of_naive {period : Datetime × Datetime} (hperiod : period.1.aware = true)
    (hcursor : cursor.aware = false) : nextFree (period :: busy) cursor ≠ .ok c := by
  unfold nextFree
  cases hend : cursor.later slotLength with
  | error e => simp [bind, Except.bind]
  | ok slotEnd =>
      have hne : slotEnd.aware ≠ period.1.aware := by
        simp [Datetime.aware_of_later hend, hperiod, hcursor]
      simp [Datetime.le_of_not_aware hne, bind, Except.bind]

end Aware

end Iara.Provider.GoogleCalendar
