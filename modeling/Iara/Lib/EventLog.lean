import Iara.Lib.Machine

/-!
# Logs of events

A law about the order of events says of each event what must and what must not
have come before it.  A log obeys the law when every event of it is allowed by
the events before it.

* `obeys_append_iff`: a log is extended within the law by events that the longer
  log allows;
* `Recorder`: a machine whose steps emit events, and `obeys_of_allSteps`: a run
  obeys the law if what each step emits is allowed;
* `Machine.emitted`: what the steps of a run emit, and `Machine.emitted_invariant`: what
  every step keeps of a state and the log up to it, a run keeps.
-/

namespace Iara.Lib

variable {σ α ε : Type*} {allowed : List ε → ε → Prop} {log more : List ε} {e : ε}

/-- Every event of the log is allowed by the events before it. -/
def Obeys (allowed : List ε → ε → Prop) (log : List ε) : Prop :=
  ∀ before e after, log = before ++ e :: after → allowed before e

theorem obeys_nil : Obeys allowed [] := by
  intro before e after h
  simp at h

theorem obeys_cons_iff :
    Obeys allowed (e :: log) ↔ allowed [] e ∧ Obeys (fun before => allowed (e :: before)) log := by
  constructor
  · intro h
    refine ⟨h [] e log rfl, ?_⟩
    intro before e' after hlog
    exact h (e :: before) e' after (by rw [hlog, List.cons_append])
  · rintro ⟨hfirst, hrest⟩ before e' after hlog
    cases before with
    | nil =>
        rw [List.nil_append, List.cons.injEq] at hlog
        rw [← hlog.1]
        exact hfirst
    | cons e₀ before =>
        rw [List.cons_append, List.cons.injEq] at hlog
        rw [← hlog.1]
        exact hrest before e' after hlog.2

theorem obeys_append_iff :
    Obeys allowed (log ++ more) ↔
      Obeys allowed log ∧ Obeys (fun before => allowed (log ++ before)) more := by
  induction log generalizing allowed with
  | nil => simp [obeys_nil]
  | cons e log ih => simp only [List.cons_append, obeys_cons_iff, ih, and_assoc]

/-- One more event. -/
theorem obeys_singleton_iff : Obeys allowed [e] ↔ allowed [] e := by
  rw [obeys_cons_iff, and_iff_left obeys_nil]

/-! ## Machines that emit events -/

/-- A machine whose every step emits the events it leads to. -/
structure Recorder (σ α ε : Type*) where
  next : σ → α → σ
  events : σ → α → List ε

namespace Recorder

variable (m : Recorder σ α ε)

/-- The state, and the log of all events so far. -/
def machine : Machine (σ × List ε) α where
  step s a := some (m.next s.1 a, s.2 ++ m.events s.1 a)

/-- If every step keeps the invariant and emits what the log allows, the run
obeys the law. -/
theorem obeys_of_allSteps {C : σ → α → Prop} {I : σ → List ε → Prop}
    (hallowed : ∀ s log a, I s log → C s a →
      Obeys (fun before => allowed (log ++ before)) (m.events s a))
    (hinv : ∀ s log a, I s log → C s a → I (m.next s a) (log ++ m.events s a))
    {s t : σ × List ε} {as : List α} (hs : I s.1 s.2) (hlog : Obeys allowed s.2)
    (hall : m.machine.AllSteps (fun s a => C s.1 a) s as) (hrun : m.machine.run s as = some t) :
    I t.1 t.2 ∧ Obeys allowed t.2 := by
  refine m.machine.invariant_of_allSteps (I := fun u => I u.1 u.2 ∧ Obeys allowed u.2) ?_
    ⟨hs, hlog⟩ hall hrun
  rintro u a t ⟨hu, hobeys⟩ hC hstep
  cases hstep
  exact ⟨hinv u.1 u.2 a hu hC, obeys_append_iff.2 ⟨hobeys, hallowed u.1 u.2 a hu hC⟩⟩

end Recorder

/-! ## Logs of runs -/

namespace Machine

variable (m : Machine σ α) (emit : σ → α → List ε)

/-- What the steps of a run emit, in order. -/
def emitted : σ → List α → List ε
  | _, [] => []
  | s, a :: as => emit s a ++ (m.step s a).elim [] fun t => emitted t as

variable {m emit}

theorem emitted_cons {s t : σ} {a : α} {as : List α} (h : m.step s a = some t) :
    m.emitted emit s (a :: as) = emit s a ++ m.emitted emit t as := by
  rw [emitted, h, Option.elim_some]

theorem emitted_append {s t : σ} {as bs : List α} (hrun : m.run s as = some t) :
    m.emitted emit s (as ++ bs) = m.emitted emit s as ++ m.emitted emit t bs := by
  induction as generalizing s with
  | nil =>
      cases hrun
      rfl
  | cons a as ih =>
      obtain ⟨u, hu, hrest⟩ := m.run_cons_eq_some.1 hrun
      rw [List.cons_append, emitted_cons hu, emitted_cons hu, ih hrest, List.append_assoc]

/-- An event of a run was emitted by one of its steps. -/
theorem mem_emitted {s : σ} {as : List α} (h : e ∈ m.emitted emit s as) :
    ∃ before a after t, as = before ++ a :: after ∧ m.run s before = some t ∧ e ∈ emit t a := by
  induction as generalizing s with
  | nil => cases h
  | cons a as ih =>
      rw [emitted, List.mem_append] at h
      rcases h with hfirst | hrest
      · exact ⟨[], a, as, s, rfl, rfl, hfirst⟩
      · cases hstep : m.step s a with
        | none =>
            rw [hstep] at hrest
            cases hrest
        | some u =>
            rw [hstep, Option.elim_some] at hrest
            obtain ⟨before, b, after, t, rfl, hrun, hemit⟩ := ih hrest
            refine ⟨a :: before, b, after, t, rfl, ?_, hemit⟩
            exact m.run_cons_eq_some.2 ⟨u, hstep, hrun⟩

/-- What every step keeps of the state and the log up to it, a run keeps. -/
theorem emitted_invariant {C : σ → α → Prop} {I : σ → List ε → Prop}
    (hstep : ∀ s log a t, I s log → C s a → m.step s a = some t → I t (log ++ emit s a))
    {s t : σ} {before : List ε} {as : List α} (hs : I s before) (hall : m.AllSteps C s as)
    (hrun : m.run s as = some t) : I t (before ++ m.emitted emit s as) := by
  induction as generalizing s before with
  | nil =>
      cases hrun
      rw [emitted, List.append_nil]
      exact hs
  | cons a as ih =>
      obtain ⟨u, hu, hrest⟩ := m.run_cons_eq_some.1 hrun
      rw [emitted_cons hu, ← List.append_assoc]
      exact ih (hstep s before a u hs hall.1 hu) (hall.2 u hu) hrest

end Machine

end Iara.Lib
