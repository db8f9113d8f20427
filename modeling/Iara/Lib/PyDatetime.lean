import Iara.Lib.PyStr

/-!
# Datetimes

`datetime` values as the modelled code reads, compares and moves them, in
microseconds from 1970-01-01T00:00 on.  Reading and printing are fields of
`PyTime`.
-/

namespace Iara.Lib

namespace Datetime

def minute : Int := 60000000

def hour : Int := 60 * minute

def day : Int := 24 * hour

/-- `datetime.min`. -/
def minWall : Int := -719162 * day

/-- `datetime.max`, the last microsecond of the year 9999. -/
def maxWall : Int := 2932897 * day - 1

end Datetime

/-- A `datetime`: its wall clock and, where it is aware, its UTC offset, which is
less than a day. -/
@[ext]
structure Datetime where
  wall : Int
  offset : Option Int
  wall_mem : Datetime.minWall ≤ wall ∧ wall ≤ Datetime.maxWall
  offset_mem : ∀ o ∈ offset, -Datetime.day < o ∧ o < Datetime.day
  deriving DecidableEq, Repr

namespace Datetime

theorem minWall_le_maxWall : minWall ≤ maxWall := by decide

/-- The datetime with this wall clock and offset or, where they are out of range, with
the nearest ones in it. -/
def nearest (wall : Int) (offset : Option Int) : Datetime where
  wall := max minWall (min wall maxWall)
  offset := offset.map fun o => max (1 - day) (min o (day - 1))
  wall_mem := ⟨Int.le_max_left _ _, Int.max_le.mpr ⟨minWall_le_maxWall, Int.min_le_right _ _⟩⟩
  offset_mem := by
    intro o ho
    obtain ⟨o', -, rfl⟩ := Option.map_eq_some_iff.1 ho
    unfold day hour minute
    omega

def aware (d : Datetime) : Bool := d.offset.isSome

/-- What two datetimes of one kind are compared by. -/
def instant (d : Datetime) : Int := d.wall - d.offset.getD 0

/-- `d.replace(tzinfo=UTC)`. -/
def replaceUtc (d : Datetime) : Datetime :=
  { d with
    offset := some 0
    offset_mem := by decide }

/-- A naive datetime taken for one in UTC. -/
def assumeUtc (d : Datetime) : Datetime := if d.aware then d else d.replaceUtc

@[simp] theorem assumeUtc_wall (d : Datetime) : d.assumeUtc.wall = d.wall := by
  unfold assumeUtc
  split <;> rfl

@[simp] theorem assumeUtc_offset (d : Datetime) :
    d.assumeUtc.offset = some (d.offset.getD 0) := by
  unfold assumeUtc aware
  cases hoffset : d.offset with
  | none => rfl
  | some o => simp [hoffset]

@[simp] theorem assumeUtc_instant (d : Datetime) : d.assumeUtc.instant = d.instant := by
  simp [instant]

/-- `d.replace(hour=h, minute=0, second=0, microsecond=0)`. -/
def atHour (d : Datetime) (h : Nat) (hh : h < 24) : Datetime :=
  { d with
    wall := d.wall / day * day + h * hour
    wall_mem := by
      have hwall := d.wall_mem
      unfold minWall maxWall day hour minute at *
      omega }

@[simp] theorem atHour_wall (d : Datetime) (h : Nat) (hh : h < 24) :
    (d.atHour h hh).wall = d.wall / day * day + h * hour := rfl

@[simp] theorem atHour_offset (d : Datetime) (h : Nat) (hh : h < 24) :
    (d.atHour h hh).offset = d.offset := rfl

/-- There is a datetime so much later. -/
def Fits (d : Datetime) (delta : Int) : Prop := minWall ≤ d.wall + delta ∧ d.wall + delta ≤ maxWall

instance (d : Datetime) (delta : Int) : Decidable (d.Fits delta) :=
  inferInstanceAs (Decidable (_ ∧ _))

/-- `d + timedelta(...)`. -/
def later (d : Datetime) (delta : Int) : Except String Datetime :=
  if h : d.Fits delta then
    .ok
      { d with
        wall := d.wall + delta
        wall_mem := h }
  else .error "OverflowError"

section Later

variable {d d' : Datetime} {delta : Int}

theorem later_eq_ok_iff :
    d.later delta = .ok d' ↔ d'.wall = d.wall + delta ∧ d'.offset = d.offset := by
  unfold later
  constructor
  · intro h
    split at h
    · cases h
      exact ⟨rfl, rfl⟩
    · cases h
  · rintro ⟨hwall, hoffset⟩
    have hfits : d.Fits delta := by
      unfold Fits
      rw [← hwall]
      exact d'.wall_mem
    rw [dif_pos hfits]
    exact congrArg Except.ok (Datetime.ext hwall.symm hoffset.symm)

theorem later_of_fits (h : d.Fits delta) : ∃ d', d.later delta = .ok d' :=
  ⟨_, dif_pos h⟩

theorem later_of_not_fits (h : ¬ d.Fits delta) : d.later delta = .error "OverflowError" :=
  dif_neg h

theorem aware_of_later (h : d.later delta = .ok d') : d'.aware = d.aware := by
  unfold aware
  rw [(later_eq_ok_iff.1 h).2]

theorem instant_of_later (h : d.later delta = .ok d') : d'.instant = d.instant + delta := by
  obtain ⟨hwall, hoffset⟩ := later_eq_ok_iff.1 h
  unfold instant
  rw [hwall, hoffset]
  omega

@[simp] theorem later_zero (d : Datetime) : d.later 0 = .ok d :=
  later_eq_ok_iff.2 ⟨(Int.add_zero _).symm, rfl⟩

/-- What is later is bounded from above only. -/
theorem fits_iff (h : 0 ≤ delta) : d.Fits delta ↔ d.wall + delta ≤ maxWall :=
  and_iff_right (Int.le_trans d.wall_mem.1 (Int.le_add_of_nonneg_right h))

end Later

/-- A naive and an aware datetime have no order. -/
def compare (r : Int → Int → Bool) (a b : Datetime) : Except String Bool :=
  if a.aware = b.aware then .ok (r a.instant b.instant) else .error "TypeError"

/-- `a < b`. -/
def lt : Datetime → Datetime → Except String Bool := compare fun a b => a < b

/-- `a <= b`. -/
def le : Datetime → Datetime → Except String Bool := compare fun a b => a ≤ b

theorem lt_of_aware {a b : Datetime} (h : a.aware = b.aware) :
    a.lt b = .ok (decide (a.instant < b.instant)) := if_pos h

theorem le_of_aware {a b : Datetime} (h : a.aware = b.aware) :
    a.le b = .ok (decide (a.instant ≤ b.instant)) := if_pos h

theorem lt_of_not_aware {a b : Datetime} (h : a.aware ≠ b.aware) :
    a.lt b = .error "TypeError" := if_neg h

/-- Datetimes of one offset are compared by their wall clocks. -/
theorem le_of_offset {a b : Datetime} (h : a.offset = b.offset) :
    a.le b = .ok (decide (a.wall ≤ b.wall)) := by
  rw [le_of_aware (congrArg Option.isSome h)]
  unfold instant
  rw [h]
  simp

theorem le_of_not_aware {a b : Datetime} (h : a.aware ≠ b.aware) :
    a.le b = .error "TypeError" := if_neg h

end Datetime

/-- What is taken from the `datetime` module. -/
structure PyTime where
  /-- `datetime.fromisoformat(s)`; `none` is the `ValueError`. -/
  fromIsoFormat : String → Option Datetime
  isoFormat : Datetime → String

end Iara.Lib
