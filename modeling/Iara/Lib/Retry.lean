import Iara.Lib.EventLog

/-!
# Tasks that are retried

A task is executed until one of its executions returns, up to a number of
failures.  After each failure it rests, for a delay that depends on how many
came before.  The account of a task is its history and the stage it is in.

* `Step`: what can happen to a task;
* `Sound`: the counts of the history agree with the stage, and every rest was
  kept; `Sound.step` is that each step keeps it.
-/

namespace Iara.Lib.Retry

/-! ## Histories -/

inductive Attempt where
  | fetched (time : Nat)
  | executed (returned : Bool) (time : Nat)
  | shelved (time : Nat)
  deriving DecidableEq, Repr

def Attempt.failureTime : Attempt → Option Nat
  | .executed false time => some time
  | _ => none

def Attempt.isExecution : Attempt → Bool
  | .executed _ _ => true
  | _ => false

def Attempt.isProcessing : Attempt → Bool
  | .fetched _ => false
  | _ => true

/-- When the executions failed, in order. -/
def failureTimes (history : List Attempt) : List Nat := history.filterMap Attempt.failureTime

def failures (history : List Attempt) : Nat := (failureTimes history).length

def executions (history : List Attempt) : Nat := history.countP Attempt.isExecution

/-- How often the task was taken up, to be executed or to be shelved. -/
def processings (history : List Attempt) : Nat := history.countP Attempt.isProcessing

section Append

variable (history : List Attempt) (attempt : Attempt)

theorem failureTimes_append :
    failureTimes (history ++ [attempt]) = failureTimes history ++ attempt.failureTime.toList := by
  unfold failureTimes
  rw [List.filterMap_append]
  cases h : attempt.failureTime <;> simp [h]

theorem failures_append :
    failures (history ++ [attempt]) = failures history + attempt.failureTime.toList.length := by
  unfold failures
  rw [failureTimes_append, List.length_append]

theorem executions_append :
    executions (history ++ [attempt]) =
      executions history + if attempt.isExecution then 1 else 0 := by
  unfold executions
  rw [List.countP_append, List.countP_singleton]

theorem processings_append :
    processings (history ++ [attempt]) =
      processings history + if attempt.isProcessing then 1 else 0 := by
  unfold processings
  rw [List.countP_append, List.countP_singleton]

end Append

/-! ## Accounts -/

/-- The failures are those that are recorded. -/
inductive Stage where
  | absent
  | waiting (failures notBefore : Nat)
  | returned (failures : Nat)
  | raised (failures : Nat)
  | done
  | dead
  deriving DecidableEq, Repr

structure Account where
  history : List Attempt := []
  stage : Stage := .absent

structure Policy where
  limit : Nat
  delay : Nat → Nat

namespace Policy

variable (policy : Policy)

inductive Step (now : Nat) : Account → Account → Prop
  | stays {a} : Step now a a
  | appears {history notBefore} : Step now ⟨history, .absent⟩ ⟨history, .waiting 0 notBefore⟩
  | fetched {history n notBefore} (hdue : notBefore ≤ now) :
      Step now ⟨history, .waiting n notBefore⟩ ⟨history ++ [.fetched now], .waiting n notBefore⟩
  | returns {history n notBefore} (hn : n < policy.limit) :
      Step now ⟨history, .waiting n notBefore⟩ ⟨history ++ [.executed true now], .returned n⟩
  | raises {history n notBefore} (hn : n < policy.limit) (hdue : notBefore ≤ now) :
      Step now ⟨history, .waiting n notBefore⟩ ⟨history ++ [.executed false now], .raised n⟩
  | closed {history n} : Step now ⟨history, .returned n⟩ ⟨history, .done⟩
  | postponed {history n} (hn : n + 1 < policy.limit) :
      Step now ⟨history, .raised n⟩ ⟨history, .waiting (n + 1) (now + policy.delay n)⟩
  | abandoned {history n} (hn : policy.limit ≤ n + 1) :
      Step now ⟨history, .raised n⟩ ⟨history, .dead⟩
  | shelved {history n notBefore} (hn : policy.limit ≤ n) :
      Step now ⟨history, .waiting n notBefore⟩ ⟨history ++ [.shelved now], .dead⟩

/-- The counts of the history are those of the stage. -/
def Counted (a : Account) : Prop :=
  match a.stage with
  | .absent => a.history = []
  | .waiting n _ =>
      executions a.history = n ∧ failures a.history = n ∧ processings a.history = n ∧
        (n < policy.limit ∨ n = 0)
  | .returned n => executions a.history = n + 1 ∧ failures a.history = n ∧ n < policy.limit
  | .raised n =>
      executions a.history = n + 1 ∧ failures a.history = n + 1 ∧ processings a.history = n + 1 ∧
        n < policy.limit
  | .done => executions a.history ≤ policy.limit ∧ failures a.history < policy.limit
  | .dead =>
      executions a.history ≤ policy.limit ∧ (policy.limit ≠ 0 → failures a.history = policy.limit) ∧
        processings a.history ≠ 0

/-- The rest after every recorded failure ends before the task is due. -/
def Rests (now : Nat) (a : Account) : Prop :=
  match a.stage with
  | .waiting _ notBefore =>
      ∀ (i t : Nat), (failureTimes a.history)[i]? = some t → t + policy.delay i ≤ notBefore
  | .raised n =>
      ∀ (i t : Nat), (failureTimes a.history)[i]? = some t →
        t ≤ now ∧ (i < n → t + policy.delay i ≤ now)
  | _ => True

/-- A task is fetched after the rest of each of its failures, none of which was
the last it may have. -/
def allowed (before : List Attempt) : Attempt → Prop
  | .fetched time =>
      ∀ (i t : Nat), (failureTimes before)[i]? = some t →
        i + 1 < policy.limit ∧ t + policy.delay i ≤ time
  | _ => True

structure Sound (now : Nat) (a : Account) : Prop where
  counted : policy.Counted a
  rests : policy.Rests now a
  obeys : Obeys policy.allowed a.history

variable {policy} {now now' : Nat} {a b : Account}

theorem sound_absent : policy.Sound now ⟨[], .absent⟩ := ⟨rfl, trivial, obeys_nil⟩

theorem sound_waiting {notBefore : Nat} : policy.Sound now ⟨[], .waiting 0 notBefore⟩ := by
  refine ⟨⟨rfl, rfl, rfl, Or.inr rfl⟩, ?_, obeys_nil⟩
  intro i t h
  simp [failureTimes] at h

theorem Sound.mono (h : policy.Sound now a) (hle : now ≤ now') : policy.Sound now' a := by
  refine ⟨h.counted, ?_, h.obeys⟩
  have hrests := h.rests
  unfold Rests at hrests ⊢
  cases hstage : a.stage with
  | raised n =>
      simp only [hstage] at hrests ⊢
      intro i t hi
      obtain ⟨hbefore, hdelay⟩ := hrests i t hi
      exact ⟨by omega, fun hin => by have := hdelay hin; omega⟩
  | _ =>
      rw [hstage] at hrests
      exact hrests

theorem Counted.step (h : policy.Counted a) (hstep : policy.Step now a b) : policy.Counted b := by
  cases hstep with
  | stays => exact h
  | appears =>
      simp only [Counted] at h
      subst h
      exact ⟨rfl, rfl, rfl, Or.inr rfl⟩
  | fetched hdue =>
      simp only [Counted, executions_append, failures_append, processings_append] at h ⊢
      exact h
  | returns hn =>
      simp only [Counted, executions_append, failures_append] at h ⊢
      obtain ⟨hexecutions, hfailures, -, -⟩ := h
      exact ⟨by rw [hexecutions]; rfl, hfailures, hn⟩
  | raises hn hdue =>
      simp only [Counted, executions_append, failures_append, processings_append] at h ⊢
      obtain ⟨hexecutions, hfailures, hprocessings, -⟩ := h
      exact ⟨by rw [hexecutions]; rfl, by rw [hfailures]; rfl, by rw [hprocessings]; rfl, hn⟩
  | closed =>
      simp only [Counted] at h ⊢
      omega
  | postponed hn =>
      simp only [Counted] at h ⊢
      obtain ⟨hexecutions, hfailures, hprocessings, -⟩ := h
      exact ⟨hexecutions, hfailures, hprocessings, Or.inl hn⟩
  | abandoned hn =>
      simp only [Counted] at h ⊢
      omega
  | shelved hn =>
      simp only [Counted, executions_append, failures_append, processings_append] at h ⊢
      obtain ⟨hexecutions, hfailures, hprocessings, hlimit⟩ := h
      refine ⟨?_, ?_, Nat.succ_ne_zero _⟩
      · show executions _ + 0 ≤ policy.limit
        omega
      · intro hzero
        omega

/-- A rest that is over by `now` lies before every failure to come. -/
theorem Rests.step (h : policy.Rests now a) (hcounted : policy.Counted a)
    (hstep : policy.Step now a b) : policy.Rests now b := by
  cases hstep with
  | stays => exact h
  | appears =>
      simp only [Counted] at hcounted
      subst hcounted
      exact sound_waiting.rests
  | fetched hdue =>
      simp only [Rests, failureTimes_append] at h ⊢
      simpa [Attempt.failureTime] using h
  | returns hn => exact trivial
  | @raises history n notBefore hn hdue =>
      have hlength : (failureTimes history).length = n := hcounted.2.1
      simp only [Rests, failureTimes_append] at h ⊢
      intro i t hi
      by_cases hlast : i < n
      · rw [List.getElem?_append_left (by omega)] at hi
        have hrest := h i t hi
        exact ⟨by omega, fun _ => by omega⟩
      · rw [List.getElem?_append_right (by omega)] at hi
        have hmem := List.mem_of_getElem? hi
        simp only [Attempt.failureTime, Option.toList_some, List.mem_singleton] at hmem
        exact ⟨Nat.le_of_eq hmem, fun hin => absurd hin hlast⟩
  | closed => exact trivial
  | @postponed history n hn =>
      have hlength : (failureTimes history).length = n + 1 := hcounted.2.1
      simp only [Rests] at h ⊢
      intro i t hi
      obtain ⟨hbefore, hdelay⟩ := h i t hi
      have hlt := (List.getElem?_eq_some_iff.1 hi).1
      by_cases hin : i < n
      · have hrest := hdelay hin
        omega
      · have heq : i = n := by omega
        rw [heq]
        omega
  | abandoned hn => exact trivial
  | shelved hn => exact trivial

theorem Sound.obeys_step (h : policy.Sound now a) (hstep : policy.Step now a b) :
    Obeys policy.allowed b.history := by
  have hobeys := h.obeys
  cases hstep with
  | stays => exact hobeys
  | appears => exact hobeys
  | @fetched history n notBefore hdue =>
      obtain ⟨-, hlength, -, hlimit⟩ := h.counted
      refine obeys_append_iff.2 ⟨hobeys, obeys_singleton_iff.2 ?_⟩
      intro i t hi
      rw [List.append_nil] at hi
      have hlt : i < failures history := (List.getElem?_eq_some_iff.1 hi).1
      simp only at hlength
      have hrest : t + policy.delay i ≤ notBefore := h.rests i t hi
      exact ⟨by omega, by omega⟩
  | returns hn => exact obeys_append_iff.2 ⟨hobeys, obeys_singleton_iff.2 trivial⟩
  | raises hn hdue => exact obeys_append_iff.2 ⟨hobeys, obeys_singleton_iff.2 trivial⟩
  | closed => exact hobeys
  | postponed hn => exact hobeys
  | abandoned hn => exact hobeys
  | shelved hn => exact obeys_append_iff.2 ⟨hobeys, obeys_singleton_iff.2 trivial⟩

theorem Sound.step (h : policy.Sound now a) (hstep : policy.Step now a b) : policy.Sound now b :=
  ⟨h.counted.step hstep, h.rests.step h.counted hstep, h.obeys_step hstep⟩

/-! ## What a sound account says -/

theorem Sound.executions_le (h : policy.Sound now a) : executions a.history ≤ policy.limit := by
  have hcounted := h.counted
  unfold Counted at hcounted
  cases hstage : a.stage with
  | absent =>
      simp only [hstage] at hcounted
      rw [hcounted]
      exact Nat.zero_le _
  | _ =>
      simp only [hstage] at hcounted
      omega

/-- A task dies of the last failure that it may have; one that may have none dies
when it is first taken up. -/
theorem Sound.dead_iff (h : policy.Sound now a) (hraised : ∀ n, a.stage ≠ .raised n) :
    a.stage = .dead ↔ if policy.limit = 0 then processings a.history ≠ 0
      else failures a.history = policy.limit := by
  have hcounted := h.counted
  unfold Counted at hcounted
  cases hstage : a.stage with
  | absent =>
      simp only [hstage] at hcounted
      rw [hcounted]
      by_cases hzero : policy.limit = 0
      · simp [hzero, processings]
      · simp [hzero, failures, failureTimes, Ne.symm hzero]
  | raised n => exact absurd hstage (hraised n)
  | _ =>
      simp only [hstage] at hcounted
      split <;> simp <;> omega

/-- Nothing happens to a task that is done or dead. -/
theorem Step.of_finished (hstep : policy.Step now a b)
    (hfinished : a.stage = .done ∨ a.stage = .dead) : b = a := by
  cases hstep with
  | stays => rfl
  | _ => simp at hfinished

end Policy

end Iara.Lib.Retry
