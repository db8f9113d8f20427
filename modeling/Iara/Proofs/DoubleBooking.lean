import Iara.Provider.Scheduling.GoogleCalendar
import Iara.Provider.Scheduling.WriteAdapters

/-!
# Double booking

The write adapter and the read adapter meet only in the calendar.  The events
that the writer posts start and end at the same time, so no slot from that time
on is blocked by them.

The calendar is a service of its own: what it keeps and how it carries out a
request are fields, with what its API documents as laws.
-/

namespace Iara.Provider.Scheduling

open Iara.Lib Iara.Persistence GoogleCalendar
open ChatwootMcpAdapter (get)

/-! ## The calendar -/

/-- A time as the calendar keeps it: text with an offset, which the reader
understands. -/
structure EventTime (py : PyTime) where
  text : String
  time : Datetime
  read : readTime py text = .ok time
  aware : time.aware = true

structure CalendarEvent (py : PyTime) where
  id : String
  start : EventTime py
  stop : EventTime py

section Calendar

variable {py : PyTime}

def dateTimeOf (arguments : Parameters) (field : String) : Option Json :=
  match arguments.lookup field with
  | some (.obj value) => value.lookup "dateTime"
  | _ => none

/-- The event has the times of the request. -/
def CalendarEvent.PostedBy (e : CalendarEvent py) (arguments : Parameters) : Prop :=
  dateTimeOf arguments "start" = some (.str e.start.text) ∧
    dateTimeOf arguments "end" = some (.str e.stop.text)

/-- The event is the one the request names. -/
def CalendarEvent.NamedBy (e : CalendarEvent py) (arguments : Parameters) : Prop :=
  arguments.lookup "event_id" = some (.str e.id)

def CalendarEvent.period (e : CalendarEvent py) : Datetime × Datetime := (e.start.time, e.stop.time)

/-- Every stored event is one busy period, with its times unchanged. -/
def freeBusy (events : List (CalendarEvent py)) : List BusyPeriod :=
  events.map fun e => [("start", e.start.text), ("end", e.stop.text)]

end Calendar

/-- `none` is a refused request. -/
structure CalendarService (py : PyTime) where
  State : Type
  events : State → List (CalendarEvent py)
  carryOut : State → ProviderCall → Option State
  insert_events : ∀ {s s' : State} {call : ProviderCall}, call.toolName = "events.insert" →
    carryOut s call = some s' →
      ∃ e : CalendarEvent py, e.PostedBy call.arguments ∧ (events s').Perm (e :: events s)
  patch_events : ∀ {s s' : State} {call : ProviderCall}, call.toolName = "events.patch" →
    carryOut s call = some s' →
      (∃ e ∈ events s', e.NamedBy call.arguments) ∧
        (∀ e ∈ events s', e.NamedBy call.arguments → e.PostedBy call.arguments) ∧
        ∀ e : CalendarEvent py, ¬ e.NamedBy call.arguments → (e ∈ events s' ↔ e ∈ events s)

/-! ## What the reader offers -/

section Offers

variable {py : PyTime} {events : List (CalendarEvent py)} {c start stop : Datetime}
  {rangeStart rangeEnd : String} {slots : List Datetime}

/-- A slot that some query counts, or that some query names as the next one. -/
def Offered (events : List (CalendarEvent py)) (c : Datetime) : Prop :=
  (∃ rangeStart rangeEnd slots,
      countedSlots py rangeStart rangeEnd (freeBusy events) = .ok slots ∧ c ∈ slots) ∨
    ∃ rangeStart, nextFreeStart py rangeStart (freeBusy events) = .ok (some c)

/-- The slots from `c` and from `t` on meet. -/
def Overlap (c t : Datetime) : Prop :=
  c.instant < t.instant + slotLength ∧ t.instant < c.instant + slotLength

instance (c t : Datetime) : Decidable (Overlap c t) := inferInstanceAs (Decidable (_ ∧ _))

def NoDoubleBooking (events : List (CalendarEvent py)) (t : Datetime) : Prop :=
  ∀ c, Offered events c → ¬ Overlap c t

def periods (events : List (CalendarEvent py)) : List (Datetime × Datetime) :=
  events.map CalendarEvent.period

/-- The cursors of the search from a start: the times that it tries, and where it stops. -/
def Visits (busy : List (Datetime × Datetime)) (start c : Datetime) : Prop :=
  c ∈ Availability.tried Datetime.instant slotLength (inOrder busy) start ∨
    c = Availability.firstFree Datetime.instant slotLength (inOrder busy) start

/-- Some query of the calendar, none of whose slots ends after the last datetime, has `c`
on its grid or as a cursor of its search. -/
def Askable (events : List (CalendarEvent py)) (c : Datetime) : Prop :=
  c.aware = true ∧
    ((∃ rangeStart rangeEnd start stop, ∃ k < wholeSlots start stop,
        readTime py rangeStart = .ok start ∧ readTime py rangeEnd = .ok stop ∧
          start.aware = stop.aware ∧ ¬ GridOverflows start stop ∧
          start.later (k * slotLength) = .ok c) ∨
      ∃ rangeStart start, readTime py rangeStart = .ok start ∧ start.aware = true ∧
        ScanFits (inOrder (periods events)) start ∧ Visits (periods events) start c)

theorem allAware_periods (events : List (CalendarEvent py)) : AllAware (periods events) := by
  intro period hperiod
  obtain ⟨e, -, rfl⟩ := List.mem_map.mp hperiod
  exact ⟨e.start.aware, e.stop.aware⟩

theorem free_periods_iff :
    Free (periods events) c ↔ ∀ e ∈ events, ¬ Blocks e.period c := List.forall_mem_map

theorem readPeriod_event (e : CalendarEvent py) :
    readPeriod py [("start", e.start.text), ("end", e.stop.text)] = .ok e.period := by
  have hstart : readField py [("start", e.start.text), ("end", e.stop.text)] "start" =
      .ok e.start.time := e.start.read
  have hstop : readField py [("start", e.start.text), ("end", e.stop.text)] "end" =
      .ok e.stop.time := e.stop.read
  simp only [readPeriod, hstart, hstop, CalendarEvent.period, bind, Except.bind, pure, Except.pure]

theorem filterMap_readPeriod (events : List (CalendarEvent py)) :
    (freeBusy events).filterMap (fun period => (readPeriod py period).toOption) =
      periods events := by
  have hread : ((fun period => (readPeriod py period).toOption) ∘
      fun e : CalendarEvent py => [("start", e.start.text), ("end", e.stop.text)]) =
        some ∘ CalendarEvent.period :=
    funext fun e => congrArg Except.toOption (readPeriod_event e)
  rw [freeBusy, List.filterMap_map, hread, List.filterMap_eq_map]
  rfl

theorem mapM_readPeriod (events : List (CalendarEvent py)) :
    (freeBusy events).mapM (readPeriod py) = .ok (periods events) := by
  induction events with
  | nil => rfl
  | cons e rest ih =>
      have ih' : List.mapM (readPeriod py)
          (rest.map fun e => [("start", e.start.text), ("end", e.stop.text)]) =
            .ok (periods rest) := ih
      simp only [freeBusy, List.map_cons, List.mapM_cons, readPeriod_event, ih', bind, Except.bind]
      rfl

theorem countedSlots_freeBusy (hstart : readTime py rangeStart = .ok start)
    (hstop : readTime py rangeEnd = .ok stop) :
    countedSlots py rangeStart rangeEnd (freeBusy events) =
      freeSlots (periods events) stop (wholeSlots start stop + 1) start := by
  unfold countedSlots
  rw [hstart, hstop]
  simp only [filterMap_readPeriod]

theorem nextFreeStart_freeBusy (hstart : readTime py rangeStart = .ok start) :
    nextFreeStart py rangeStart (freeBusy events) =
      (nextFree (inOrder (periods events)) start).map some :=
  nextFreeStart_of_read hstart (mapM_readPeriod events) (allAware_periods events)

/-- A query that starts at a naive datetime counts nothing of a calendar that is not
empty. -/
theorem freeSlots_of_naive {fuel : Nat} (hne : events ≠ []) (hnaive : start.aware = false)
    (h : freeSlots (periods events) stop fuel start = .ok slots) : slots = [] := by
  obtain ⟨e, rest, rfl⟩ := List.exists_cons_of_ne_nil hne
  cases fuel with
  | zero => exact (Except.ok.inj h).symm
  | succ fuel =>
      unfold freeSlots at h
      obtain ⟨slotEnd, hend, h⟩ := bind_eq_ok h
      obtain ⟨more, -, h⟩ := bind_eq_ok h
      cases more with
      | false => exact (Except.ok.inj h).symm
      | true =>
          have hnaiveEnd : slotEnd.aware = false := (Datetime.aware_of_later hend).trans hnaive
          rw [show periods (e :: rest) = e.period :: periods rest from rfl,
            isBusy_of_naive e.start.aware hnaiveEnd] at h
          cases h

/-- Nor does it name a next start. -/
theorem not_nextFree_of_naive (hne : events ≠ []) (hnaive : start.aware = false) (c : Datetime) :
    nextFree (inOrder (periods events)) start ≠ .ok c := by
  obtain ⟨e, rest, rfl⟩ := List.exists_cons_of_ne_nil hne
  cases hsorted : inOrder (periods (e :: rest)) with
  | nil =>
      have hmem : e.period ∈ inOrder (periods (e :: rest)) := mem_inOrder.mpr List.mem_cons_self
      simp [hsorted] at hmem
  | cons period tail =>
      have hperiod : period ∈ periods (e :: rest) :=
        mem_inOrder.mp (hsorted ▸ List.mem_cons_self)
      exact nextFree_of_naive (allAware_periods _ period hperiod).1 hnaive

theorem askable_of_counted (hne : events ≠ [])
    (hslots : countedSlots py rangeStart rangeEnd (freeBusy events) = .ok slots) (hc : c ∈ slots) :
    Askable events c ∧ Free (periods events) c := by
  have hsome : countedSlots py rangeStart rangeEnd (freeBusy events) ≠ .ok [] := by
    intro hnone
    obtain rfl := Except.ok.inj (hslots.symm.trans hnone)
    cases hc
  cases hstart : readTime py rangeStart with
  | error e => exact absurd (by simp [countedSlots, hstart]) hsome
  | ok start =>
      cases hstop : readTime py rangeEnd with
      | error e => exact absurd (by simp [countedSlots, hstart, hstop]) hsome
      | ok stop =>
          rw [countedSlots_freeBusy hstart hstop] at hslots hsome
          cases haware : start.aware with
          | false => exact absurd (freeSlots_of_naive hne haware hslots ▸ hslots) hsome
          | true =>
              have hstopAware : stop.aware = true := aware_of_freeSlots haware hslots
              by_cases hover : GridOverflows start stop
              · rw [freeSlots_of_overflows (allAware_periods events) haware hstopAware
                  (Nat.lt_succ_self _) hover] at hslots
                cases hslots
              · obtain ⟨slots', hslots', hmem⟩ := mem_freeSlots_iff (allAware_periods events)
                  haware hstopAware (Nat.lt_succ_self _) hover
                obtain rfl := Except.ok.inj (hslots.symm.trans hslots')
                obtain ⟨hfree, k, hk, hlater⟩ := (hmem c).mp hc
                refine ⟨⟨(Datetime.aware_of_later hlater).trans haware, .inl ?_⟩, hfree⟩
                exact ⟨rangeStart, rangeEnd, start, stop, k, hk, hstart, hstop,
                  haware.trans hstopAware.symm, hover, hlater⟩

theorem askable_of_next (hne : events ≠ [])
    (hnext : nextFreeStart py rangeStart (freeBusy events) = .ok (some c)) :
    Askable events c ∧ Free (periods events) c := by
  cases hstart : readTime py rangeStart with
  | error e => simp [nextFreeStart, hstart] at hnext
  | ok start =>
      rw [nextFreeStart_freeBusy hstart] at hnext
      cases haware : start.aware with
      | false =>
          cases hfree : nextFree (inOrder (periods events)) start with
          | error e => simp [hfree, Except.map] at hnext
          | ok c' => exact absurd hfree (not_nextFree_of_naive hne haware c')
      | true =>
          have hbusy := (allAware_periods events).inOrder
          rw [nextFree_of_aware hbusy haware] at hnext
          by_cases hfits : ScanFits (inOrder (periods events)) start
          · rw [if_pos hfits] at hnext
            obtain rfl := Option.some.inj (Except.ok.inj hnext)
            refine ⟨⟨?_, .inr ⟨rangeStart, start, hstart, haware, hfits, .inr rfl⟩⟩,
              free_inOrder_iff.mp (Availability.free_firstFree (pairwise_inOrder _) start)⟩
            rcases Availability.firstFree_eq_or_mem Datetime.instant slotLength
              (inOrder (periods events)) start with h | ⟨period, hperiod, h⟩
            · rw [h]
              exact haware
            · rw [h]
              exact (hbusy period hperiod).2
          · rw [if_neg hfits] at hnext
            cases hnext

theorem offered_of_askable (hask : Askable events c) (hfree : Free (periods events) c) :
    Offered events c := by
  obtain ⟨haware, ⟨rangeStart, rangeEnd, start, stop, k, hk, hstart, hstop, hkind, hfits, hlater⟩ |
    ⟨rangeStart, start, hstart, hstartAware, hfits, hvisits⟩⟩ := hask
  · have hstartAware : start.aware = true := (Datetime.aware_of_later hlater).symm.trans haware
    obtain ⟨slots, hslots, hmem⟩ := mem_freeSlots_iff (allAware_periods events) hstartAware
      (hkind.symm.trans hstartAware) (Nat.lt_succ_self _) hfits
    refine .inl ⟨rangeStart, rangeEnd, slots, ?_, (hmem _).mpr ⟨hfree, k, hk, hlater⟩⟩
    rw [countedSlots_freeBusy hstart hstop, hslots]
  · -- the search stops at the first cursor that is free
    have hstops : Availability.firstFree Datetime.instant slotLength
        (inOrder (periods events)) start = c := by
      rcases hvisits with htried | rfl
      · exact Availability.firstFree_of_mem_tried htried (free_inOrder_iff.mpr hfree)
      · rfl
    refine .inr ⟨rangeStart, ?_⟩
    rw [nextFreeStart_freeBusy hstart,
      nextFree_of_aware (allAware_periods events).inOrder hstartAware, if_pos hfits, hstops]
    rfl

/-- A calendar that is not empty offers the slots that can be asked for and are
free. -/
theorem offered_iff (hne : events ≠ []) :
    Offered events c ↔ Askable events c ∧ Free (periods events) c := by
  constructor
  · rintro (⟨rangeStart, rangeEnd, slots, hslots, hc⟩ | ⟨rangeStart, hnext⟩)
    · exact askable_of_counted hne hslots hc
    · exact askable_of_next hne hnext
  · rintro ⟨hask, hfree⟩
    exact offered_of_askable hask hfree

end Offers

/-! ## What the writer leaves in the calendar -/

section Bookings

variable {py : PyTime} {service : CalendarService py} {events events' : List (CalendarEvent py)}
  {call : ProviderCall} {calls : List ProviderCall} {cal cal' : service.State}
  {command : ProviderCommand} {calendarId text : String} {pyText : PyText}
  {sha256 : String → String} {maxRetries : Nat} {exchange : Exchange}
  {context : ProviderSecurityContext} {t : Datetime}

/-- The request moves the event to another time. -/
def MovedBy (call : ProviderCall) (e : CalendarEvent py) : Prop :=
  call.toolName = "events.patch" ∧ e.NamedBy call.arguments

/-- The events with the times of the request are there, and of the others all
those the request does not move. -/
structure Booked (call : ProviderCall) (events events' : List (CalendarEvent py)) : Prop where
  posted : ∃ e ∈ events', e.PostedBy call.arguments
  old : ∀ e ∈ events', e.PostedBy call.arguments ∨ (e ∈ events ∧ ¬ MovedBy call e)
  kept : ∀ e ∈ events, ¬ MovedBy call e → e ∈ events'

theorem Booked.trans {events'' : List (CalendarEvent py)} (h : Booked call events events')
    (h' : Booked call events' events'') : Booked call events events'' where
  posted := h'.posted
  old e he := by
    rcases h'.old e he with hposted | ⟨hmid, hstays⟩
    · exact .inl hposted
    · exact h.old e hmid
  kept e he hstays := h'.kept e (h.kept e he hstays) hstays

/-- One request that the calendar carries out. -/
theorem booked_of_carryOut
    (hmethod : call.toolName = "events.insert" ∨ call.toolName = "events.patch")
    (h : service.carryOut cal call = some cal') :
    Booked call (service.events cal) (service.events cal') := by
  rcases hmethod with hinsert | hpatch
  · obtain ⟨e, hposted, hperm⟩ := service.insert_events hinsert h
    have hstays : ∀ e : CalendarEvent py, ¬ MovedBy call e := by
      rintro e ⟨hpatch, -⟩
      rw [hinsert] at hpatch
      exact absurd hpatch (by decide)
    refine ⟨⟨e, hperm.mem_iff.mpr List.mem_cons_self, hposted⟩, fun e' he' => ?_, fun e' he' _ =>
      hperm.mem_iff.mpr (List.mem_cons_of_mem _ he')⟩
    rcases List.mem_cons.mp (hperm.mem_iff.mp he') with rfl | hold
    · exact .inl hposted
    · exact .inr ⟨hold, hstays e'⟩
  · obtain ⟨⟨e, he, hnamed⟩, hposted, hothers⟩ := service.patch_events hpatch h
    refine ⟨⟨e, he, hposted e he hnamed⟩, fun e' he' => ?_, fun e' he' hstays =>
      (hothers e' fun hnamed' => hstays ⟨hpatch, hnamed'⟩).mpr he'⟩
    by_cases hnamed' : e'.NamedBy call.arguments
    · exact .inl (hposted e' he' hnamed')
    · exact .inr ⟨(hothers e' hnamed').mp he', fun hmoved => hnamed' hmoved.2⟩

/-- All the requests of one command: the same call, once or more. -/
theorem booked_of_calls (hmethod : call.toolName = "events.insert" ∨ call.toolName = "events.patch")
    (hcalls : ∀ call' ∈ calls, call' = call) (hne : calls ≠ [])
    (h : calls.foldlM service.carryOut cal = some cal') :
    Booked call (service.events cal) (service.events cal') := by
  induction calls generalizing cal with
  | nil => exact absurd rfl hne
  | cons first rest ih =>
      obtain rfl := hcalls first List.mem_cons_self
      rw [List.foldlM_cons] at h
      obtain ⟨mid, hmid, hrest⟩ := Option.bind_eq_some_iff.mp h
      have hfirst := booked_of_carryOut hmethod hmid
      by_cases hlast : rest = []
      · subst hlast
        obtain rfl := Option.some.inj hrest
        exact hfirst
      · exact hfirst.trans
          (ih (fun call' hcall' => hcalls call' (List.mem_cons_of_mem _ hcall')) hlast hrest)

/-! ## The time of a booking -/

/-- The capabilities that put an appointment at a time. -/
def Books (command : ProviderCommand) : Prop :=
  command.capabilityName = "schedule_appointment" ∨
    command.capabilityName = "reschedule_appointment"

/-- The start that the command asks for. -/
def bookedTime (command : ProviderCommand) : Json :=
  if command.capabilityName = "schedule_appointment" then
    get command.parameters "datetime_iso" (.str "")
  else get command.parameters "new_datetime_iso" (.str "")

/-- The command moves the event to another time. -/
def Reschedules (command : ProviderCommand) (e : CalendarEvent py) : Prop :=
  command.capabilityName = "reschedule_appointment" ∧
    get command.parameters "appointment_ref" (.str "") = .str e.id

/-- The request that a booking command stands for. -/
theorem call_of_books (py : PyTime) (hbooks : Books command)
    (h : call ∈ ((googleCalendarWriteAdapter calendarId pyText sha256 maxRetries).executeCommand
      exchange command context).applied) :
    (call.toolName = "events.insert" ∨ call.toolName = "events.patch") ∧
      (∀ e : CalendarEvent py, MovedBy call e ↔ Reschedules command e) ∧
      dateTimeOf call.arguments "start" = some (bookedTime command) ∧
      dateTimeOf call.arguments "end" = some (bookedTime command) := by
  obtain ⟨method, hmethod, rfl⟩ := SchedulingWriteAdapter.mem_executeCommand h
  rcases hbooks with hcap | hcap
  · rw [hcap] at hmethod
    obtain rfl : "events.insert" = method := Option.some.inj hmethod
    refine ⟨.inl rfl, fun e => ?_, ?_, ?_⟩
    · simp [MovedBy, Reschedules, hcap]
    · rw [bookedTime, if_pos hcap, hcap]
      rfl
    · rw [bookedTime, if_pos hcap, hcap]
      rfl
  · rw [hcap] at hmethod
    obtain rfl : "events.patch" = method := Option.some.inj hmethod
    have hother : command.capabilityName ≠ "schedule_appointment" := by
      rw [hcap]
      decide
    refine ⟨.inr rfl, fun e => ?_, ?_, ?_⟩
    · rw [MovedBy, Reschedules, CalendarEvent.NamedBy, hcap]
      simp only [true_and]
      exact Option.some_inj
    · rw [bookedTime, if_neg hother, hcap]
      rfl
    · rw [bookedTime, if_neg hother, hcap]
      rfl

/-- An event of the booking starts and ends at the time asked for. -/
theorem period_of_posted {e : CalendarEvent py} (hposted : e.PostedBy call.arguments)
    (hstart : dateTimeOf call.arguments "start" = some (.str text))
    (hstop : dateTimeOf call.arguments "end" = some (.str text))
    (hread : readTime py text = .ok t) : e.period = (t, t) := by
  have hstartText : text = e.start.text := by
    simpa using hstart.symm.trans hposted.1
  have hstopText : text = e.stop.text := by
    simpa using hstop.symm.trans hposted.2
  have hstartTime : t = e.start.time :=
    Except.ok.inj (hread.symm.trans ((congrArg _ hstartText).trans e.start.read))
  have hstopTime : t = e.stop.time :=
    Except.ok.inj (hread.symm.trans ((congrArg _ hstopText).trans e.stop.read))
  exact Prod.ext hstartTime.symm hstopTime.symm

end Bookings

/-! ## A calendar kept as a list -/

section Listed

variable {py : PyTime}

def eventTime? (py : PyTime) : Json → Option (EventTime py)
  | .str text =>
      match h : readTime py text with
      | .ok time => if haware : time.aware = true then some ⟨text, time, h, haware⟩ else none
      | .error _ => none
  | _ => none

theorem text_of_eventTime? {value : Json} {time : EventTime py}
    (h : eventTime? py value = some time) : value = .str time.text := by
  unfold eventTime? at h
  split at h
  · split at h
    · split at h
      · rw [← Option.some.inj h]
      · cases h
    · cases h
  · cases h

/-- The event that a request describes, under the given id. -/
def posted? (py : PyTime) (id : String) (arguments : Parameters) : Option (CalendarEvent py) := do
  let start ← (dateTimeOf arguments "start").bind (eventTime? py)
  let stop ← (dateTimeOf arguments "end").bind (eventTime? py)
  return { id := id, start := start, stop := stop }

theorem postedBy_of_posted? {id : String} {arguments : Parameters} {e : CalendarEvent py}
    (h : posted? py id arguments = some e) : e.id = id ∧ e.PostedBy arguments := by
  obtain ⟨start, hstart, h⟩ := Option.bind_eq_some_iff.mp h
  obtain ⟨stop, hstop, h⟩ := Option.bind_eq_some_iff.mp h
  obtain rfl := Option.some.inj h
  obtain ⟨startValue, hstartValue, hstart⟩ := Option.bind_eq_some_iff.mp hstart
  obtain ⟨stopValue, hstopValue, hstop⟩ := Option.bind_eq_some_iff.mp hstop
  obtain rfl := text_of_eventTime? hstart
  obtain rfl := text_of_eventTime? hstop
  exact ⟨rfl, hstartValue, hstopValue⟩

def textField (arguments : Parameters) (field : String) : String :=
  match arguments.lookup field with
  | some (.str s) => s
  | _ => ""

/-- A new event gets its UID for its id. -/
def insertEvent (events : List (CalendarEvent py)) (arguments : Parameters) :
    Option (List (CalendarEvent py)) :=
  (posted? py (textField arguments "iCalUID") arguments).map (· :: events)

def patchEvent (events : List (CalendarEvent py)) (arguments : Parameters) :
    Option (List (CalendarEvent py)) :=
  let id := textField arguments "event_id"
  if arguments.lookup "event_id" = some (.str id) ∧ ∃ e ∈ events, e.id = id then
    (posted? py id arguments).map fun moved =>
      events.map fun e => if e.id = id then moved else e
  else none

def deleteEvent (events : List (CalendarEvent py)) (arguments : Parameters) :
    Option (List (CalendarEvent py)) :=
  some (events.filter fun e => e.id ≠ textField arguments "event_id")

theorem mem_patchEvent {events events' : List (CalendarEvent py)} {arguments : Parameters}
    (h : patchEvent events arguments = some events') :
    (∃ e ∈ events', e.NamedBy arguments) ∧
      (∀ e ∈ events', e.NamedBy arguments → e.PostedBy arguments) ∧
      ∀ e : CalendarEvent py, ¬ e.NamedBy arguments → (e ∈ events' ↔ e ∈ events) := by
  unfold patchEvent at h
  generalize textField arguments "event_id" = id at h
  by_cases hfound : arguments.lookup "event_id" = some (.str id) ∧ ∃ e ∈ events, e.id = id
  · rw [if_pos hfound] at h
    obtain ⟨hid, e₀, he₀, he₀id⟩ := hfound
    obtain ⟨moved, hmoved, rfl⟩ := Option.map_eq_some_iff.mp h
    obtain ⟨hmovedId, hposted⟩ := postedBy_of_posted? hmoved
    have hnamed : ∀ e : CalendarEvent py, e.NamedBy arguments ↔ e.id = id := by
      intro e
      unfold CalendarEvent.NamedBy
      rw [hid, Option.some_inj, Json.str.injEq, eq_comm]
    refine ⟨⟨moved, List.mem_map.mpr ⟨e₀, he₀, if_pos he₀id⟩, (hnamed moved).mpr hmovedId⟩,
      fun e he hename => ?_, fun e hename => ?_⟩
    · obtain ⟨e', -, rfl⟩ := List.mem_map.mp he
      by_cases hid' : e'.id = id
      · rw [if_pos hid']
        exact hposted
      · rw [if_neg hid'] at hename
        exact absurd ((hnamed e').mp hename) hid'
    · rw [hnamed] at hename
      constructor
      · intro he
        obtain ⟨e', he', rfl⟩ := List.mem_map.mp he
        by_cases hid' : e'.id = id
        · rw [if_pos hid'] at hename
          exact absurd hmovedId hename
        · rw [if_neg hid']
          exact he'
      · intro he
        exact List.mem_map.mpr ⟨e, he, if_neg hename⟩
  · rw [if_neg hfound] at h
    cases h

def listedCalendar (py : PyTime) : CalendarService py where
  State := List (CalendarEvent py)
  events := id
  carryOut events call :=
    if call.toolName = "events.insert" then insertEvent events call.arguments
    else if call.toolName = "events.patch" then patchEvent events call.arguments
    else if call.toolName = "events.delete" then deleteEvent events call.arguments
    else none
  insert_events := by
    intro s s' call hmethod h
    rw [if_pos hmethod] at h
    obtain ⟨e, he, rfl⟩ := Option.map_eq_some_iff.mp h
    exact ⟨e, (postedBy_of_posted? he).2, .refl _⟩
  patch_events := by
    intro s s' call hmethod h
    rw [if_neg (by rw [hmethod]; decide), if_pos hmethod] at h
    exact mem_patchEvent h

/-! ## One afternoon -/

def two : Datetime := .nearest 1772460000000000 (some 0)

def halfTwo : Datetime := .nearest 1772461800000000 (some 0)

/-- Two o'clock and half past two, UTC. -/
def afternoon : List (String × Datetime) :=
  [("2026-03-02T14:00:00+00:00", two), ("2026-03-02T14:30:00+00:00", halfTwo)]

def clinicTime : PyTime where
  fromIsoFormat s := afternoon.lookup s
  isoFormat d := ((afternoon.find? fun entry => entry.2 = d).map Prod.fst).getD ""

def twoOClock : EventTime clinicTime where
  text := "2026-03-02T14:00:00+00:00"
  time := two
  read := by decide +kernel
  aware := rfl

def halfPastTwo : EventTime clinicTime where
  text := "2026-03-02T14:30:00+00:00"
  time := halfTwo
  read := by decide +kernel
  aware := rfl

def bookingCommand (capability : String) (parameters : Parameters) : ProviderCommand where
  commandId := "c0ffee00-0000-4000-8000-000000000001"
  idempotencyKey := "booking"
  tenantId := 1
  provider := "google_calendar"
  accountIdRef := ""
  capabilityName := capability
  parameters := parameters
  correlationId := "corr"

def bookingContext : ProviderSecurityContext where
  tenantId := 1
  provider := "google_calendar"
  accountIdRef := ""
  inboxId := ""
  capabilityName := "schedule_appointment"
  riskClass := .lowWrite

/-- The calendar carries out the first request and answers it. -/
def answered : Exchange where
  posts _ := { applied := true, answer := .result "{}" }

def clinicWriter : SchedulingWriteAdapter :=
  googleCalendarWriteAdapter "primary" plainText fun _ => "e3b0c44298fc1c149afbf4c8996fb924"

/-- The appointment `b` at two, beside one that takes the half hour from two on. -/
def bothAtTwo : (listedCalendar clinicTime).State :=
  [{ id := "a", start := twoOClock, stop := halfPastTwo },
    { id := "b", start := twoOClock, stop := twoOClock }]

def bLater : (listedCalendar clinicTime).State :=
  [{ id := "a", start := twoOClock, stop := halfPastTwo },
    { id := "b", start := halfPastTwo, stop := halfPastTwo }]

def moveToTwo : ProviderCommand :=
  bookingCommand "reschedule_appointment"
    [("appointment_ref", .str "b"), ("new_datetime_iso", .str twoOClock.text)]

def scheduleAtTwo : ProviderCommand :=
  bookingCommand "schedule_appointment" [("datetime_iso", .str twoOClock.text)]

end Listed

end Iara.Provider.Scheduling
