import Mathlib.Data.List.Basic

/-!
# Labelled machines

Executable transition systems over arbitrary states and actions.  A system of
several parties is one machine whose actions name the party and the choices the
environment makes (failures, crashes, clock advances), so an interleaving is a
list of actions and `run` replays it.

* `invariant_of_step`: what one step preserves, a run preserves;
* `AllSteps`: the runs whose every step meets a condition on the state before it;
* `trace`: the states a run passes through, each with the action taken there.
-/

namespace Iara.Lib

/-- `step s a` is the state after action `a`, or `none` where `a` is not enabled. -/
structure Machine (σ α : Type*) where
  step : σ → α → Option σ

/-- For steps and runs that evaluation shows to be enabled. -/
theorem eq_some_getD {σ : Type*} {o : Option σ} {s : σ} (h : o.isSome = true) :
    o = some (o.getD s) := by
  cases o with
  | none => cases h
  | some t => rfl

namespace Machine

variable {σ α : Type*} (m : Machine σ α)

/-- Replay a list of actions; a disabled action ends in `none`. -/
def run : σ → List α → Option σ
  | s, [] => some s
  | s, a :: as => (m.step s a).bind fun t => run t as

@[simp] theorem run_nil (s : σ) : m.run s [] = some s := rfl

theorem run_cons (s : σ) (a : α) (as : List α) :
    m.run s (a :: as) = (m.step s a).bind fun t => m.run t as := rfl

theorem run_cons_eq_some {s u : σ} {a : α} {as : List α} :
    m.run s (a :: as) = some u ↔ ∃ t, m.step s a = some t ∧ m.run t as = some u := by
  rw [run_cons, Option.bind_eq_some_iff]

theorem run_append (s : σ) (as bs : List α) :
    m.run s (as ++ bs) = (m.run s as).bind fun t => m.run t bs := by
  induction as generalizing s with
  | nil => rfl
  | cons a as ih =>
      rw [List.cons_append, run_cons, run_cons]
      cases m.step s a with
      | none => rfl
      | some t => exact ih t

/-- What one step preserves, a run preserves. -/
theorem invariant_of_step {I : σ → Prop}
    (hstep : ∀ s a t, I s → m.step s a = some t → I t)
    {s t : σ} {as : List α} (hs : I s) (hrun : m.run s as = some t) : I t := by
  induction as generalizing s with
  | nil =>
      cases hrun
      exact hs
  | cons a as ih =>
      obtain ⟨u, hu, hrest⟩ := (m.run_cons_eq_some).1 hrun
      exact ih (hstep s a u hs hu) hrest

/-! ## Runs whose steps meet a condition -/

/-- Every step of the run meets `C`, a condition on the state before the step
and the action. -/
def AllSteps (C : σ → α → Prop) : σ → List α → Prop
  | _, [] => True
  | s, a :: as => C s a ∧ ∀ t, m.step s a = some t → AllSteps C t as

/-- What every step that meets `C` preserves, a run of such steps preserves. -/
theorem invariant_of_allSteps {C : σ → α → Prop} {I : σ → Prop}
    (hstep : ∀ s a t, I s → C s a → m.step s a = some t → I t)
    {s t : σ} {as : List α} (hs : I s) (hall : m.AllSteps C s as)
    (hrun : m.run s as = some t) : I t := by
  induction as generalizing s with
  | nil =>
      cases hrun
      exact hs
  | cons a as ih =>
      obtain ⟨u, hu, hrest⟩ := (m.run_cons_eq_some).1 hrun
      exact ih (hstep s a u hs hall.1 hu) (hall.2 u hu) hrest

variable {m}

theorem AllSteps.append_left {C : σ → α → Prop} {s : σ} {as bs : List α}
    (h : m.AllSteps C s (as ++ bs)) : m.AllSteps C s as := by
  induction as generalizing s with
  | nil => exact trivial
  | cons a as ih => exact ⟨h.1, fun t ht => ih (h.2 t ht)⟩

theorem AllSteps.after_run {C : σ → α → Prop} {s t : σ} {as bs : List α}
    (h : m.AllSteps C s (as ++ bs)) (hrun : m.run s as = some t) : m.AllSteps C t bs := by
  induction as generalizing s with
  | nil =>
      cases hrun
      exact h
  | cons a as ih =>
      obtain ⟨u, hu, hrest⟩ := m.run_cons_eq_some.1 hrun
      exact ih (h.2 u hu) hrest

variable (m)

/-! ## Traces -/

/-- The states a run passes through, each with the action taken in it. -/
def trace : σ → List α → List (σ × α)
  | _, [] => []
  | s, a :: as => (s, a) :: (m.step s a).elim [] fun t => trace t as

theorem AllSteps.and {m : Machine σ α} {C D : σ → α → Prop} {s : σ} {as : List α}
    (hC : m.AllSteps C s as) (hD : m.AllSteps D s as) :
    m.AllSteps (fun s a => C s a ∧ D s a) s as := by
  induction as generalizing s with
  | nil => exact trivial
  | cons a as ih => exact ⟨⟨hC.1, hD.1⟩, fun t ht => ih (hC.2 t ht) (hD.2 t ht)⟩

/-- A condition on the actions alone. -/
theorem allSteps_of_forall {C : α → Prop} {s : σ} {as : List α} (h : ∀ a ∈ as, C a) :
    m.AllSteps (fun _ a => C a) s as := by
  induction as generalizing s with
  | nil => exact trivial
  | cons a as ih =>
      refine ⟨h a List.mem_cons_self, ?_⟩
      intro t _
      exact ih fun b hb => h b (List.mem_cons_of_mem _ hb)

/-- A condition that holds wherever the run is cut before a step. -/
theorem allSteps_of_splits {C : σ → α → Prop} {s : σ} {as : List α}
    (h : ∀ before a after t, as = before ++ a :: after → m.run s before = some t → C t a) :
    m.AllSteps C s as := by
  induction as generalizing s with
  | nil => exact trivial
  | cons a as ih =>
      refine ⟨h [] a as s rfl rfl, ?_⟩
      intro t ht
      apply ih
      intro before b after u hsplit hrun
      apply h (a :: before) b after u
      · rw [hsplit, List.cons_append]
      · exact (m.run_cons_eq_some).2 ⟨t, ht, hrun⟩

theorem trace_cons {s t : σ} {a : α} {as : List α} (h : m.step s a = some t) :
    m.trace s (a :: as) = (s, a) :: m.trace t as := by
  rw [trace, h, Option.elim_some]

theorem allSteps_of_trace {C : σ → α → Prop} {s : σ} {as : List α}
    (h : ∀ p ∈ m.trace s as, C p.1 p.2) : m.AllSteps C s as := by
  induction as generalizing s with
  | nil => exact trivial
  | cons a as ih =>
      refine ⟨h (s, a) List.mem_cons_self, ?_⟩
      intro t ht
      apply ih
      intro p hp
      apply h p
      rw [m.trace_cons ht]
      exact List.mem_cons_of_mem _ hp

/-- The state at a position of the trace is the one the run reaches there. -/
theorem run_take_of_trace {s t : σ} {a : α} {as : List α} {i : Nat}
    (h : (m.trace s as)[i]? = some (t, a)) :
    m.run s (as.take i) = some t ∧ as[i]? = some a := by
  induction as generalizing s i with
  | nil => simp [trace] at h
  | cons b as ih =>
      cases i with
      | zero =>
          simp only [trace, List.getElem?_cons_zero, Option.some.injEq, Prod.mk.injEq] at h
          obtain ⟨rfl, rfl⟩ := h
          exact ⟨rfl, rfl⟩
      | succ i =>
          simp only [trace, List.getElem?_cons_succ] at h
          cases hb : m.step s b with
          | none => simp [hb] at h
          | some u =>
              simp only [hb, Option.elim_some] at h
              obtain ⟨hrun, hget⟩ := ih h
              refine ⟨?_, by simpa using hget⟩
              rw [List.take_succ_cons, run_cons, hb]
              exact hrun

/-- A run reaches the next position of the trace. -/
theorem trace_getElem?_of_run {s t : σ} {a : α} {as bs : List α} (h : m.run s as = some t) :
    (m.trace s (as ++ a :: bs))[as.length]? = some (t, a) := by
  induction as generalizing s with
  | nil =>
      cases h
      rfl
  | cons b as ih =>
      obtain ⟨u, hu, hrest⟩ := (m.run_cons_eq_some).1 h
      simp only [List.cons_append, trace, hu, Option.elim_some, List.length_cons,
        List.getElem?_cons_succ]
      exact ih hrest

/-- Between two positions of a trace lies a run. -/
theorem run_between_of_trace {s t u : σ} {a b : α} {as : List α} {i j : Nat} (hij : i ≤ j)
    (hi : (m.trace s as)[i]? = some (t, a)) (hj : (m.trace s as)[j]? = some (u, b)) :
    ∃ bs, m.run t bs = some u := by
  obtain ⟨hri, -⟩ := m.run_take_of_trace hi
  obtain ⟨hrj, -⟩ := m.run_take_of_trace hj
  have hsplit : as.take j = as.take i ++ (as.take j).drop i := by
    have htake : (as.take j).take i = as.take i := by
      rw [List.take_take, Nat.min_eq_left hij]
    rw [← htake, List.take_append_drop]
  rw [hsplit, run_append, hri, Option.bind_some] at hrj
  exact ⟨_, hrj⟩

end Machine

end Iara.Lib
