import Iara.Workers.Cluster
import Iara.Workers.History

/-!
# What one step of a worker can do

`ActEffect` collects, for one step of one handler, everything that the proofs
about whole runs use: what stays as it was, and where the shared tables change.
-/

namespace Iara.Workers

open Iara.Lib Iara.Persistence Iara.Graph

/-- The lease block lies behind. -/
def Phase.pastLease : Phase → Bool
  | .received => false
  | .leasing => false
  | .selected _ _ _ => false
  | _ => true

def Handler.pastLease (h : Handler) : Bool := h.phase.pastLease

/-- The graph is yet to be run, in this delivery or in the next. -/
def Phase.beforeRun : Phase → Bool
  | .received => true
  | .leasing => true
  | .selected _ _ _ => true
  | .ready => true
  | .settled .requeued => true
  | _ => false

/-- The delivery has run the graph, or will, or has a reason not to. -/
def Handler.accounted (h : Handler) : Bool :=
  h.ranGraph || h.phase.beforeRun || !h.message.payload.complete || h.conflicted

namespace Cluster

variable {cluster : Cluster}

/-- The row in which the leases of the job's conversation are kept. -/
def leaseRow (s : Shared) (h : Handler) : Option ConversationRunLease :=
  h.message.payload.leaseKey.bind s.leases.find

/-- The step is a statement of `acquire` that finds the row of its conversation
taken: leased and not yet released for the `SELECT`, not yet expired for the
upsert. -/
def meetsLease (s : Shared) (h : Handler) : HandlerStep → Bool
  | .select => (leaseRow s h).any (ConversationRunLease.active s.rt.world.now)
  | .upsert _ =>
      match h.phase with
      | .selected _ startedAt _ => (leaseRow s h).any fun r => startedAt < r.expiresAt
      | _ => false
  | _ => false

structure ActEffect (cluster : Cluster) (s : Shared) (h : Handler) (a : HandlerStep)
    (h' : Handler) (s' : Shared) : Prop where
  message : h'.message = h.message
  draws : s.rt.world.draws ≤ s'.rt.world.draws
  /-- Past the lease block, what is known of the lease is settled. -/
  settled : h.pastLease = true →
    h'.pastLease = true ∧ h'.drawnToken = h.drawnToken ∧ h'.leased = h.leased
  leased : h.pastLease = false → h'.leased = true → h.leased = true ∨ h'.pastLease = true
  token : h'.drawnToken = h.drawnToken ∨ ∃ d, s.rt.world.draws ≤ d ∧ d < s'.rt.world.draws ∧
    h'.drawnToken = some (cluster.worker.deps.uuids.gen d)
  /-- No row of the leases goes away, and a new token in a row is the one that
  the acquire of this handler has drawn. -/
  leases : ∀ key r, s.leases.find key = some r → ∃ r', s'.leases.find key = some r' ∧
    (r'.fencingToken = r.fencingToken ∨
      (h.pastLease = false ∧ h.drawnToken = some r'.fencingToken))
  outbox : s'.rt.world.outbox = s.rt.world.outbox ∨ ∃ run, h.phase = .running run
  conflicted : h'.conflicted = true → h.conflicted = true ∨ meetsLease s h a = true
  accounted : h.accounted = true → h'.accounted = true

namespace ActEffect

variable {s : Shared} {h : Handler} {a : HandlerStep}

/-- A step that only moves the handler on. -/
theorem of_phase {phase : Phase} {queue : List Message}
    (hpast : h.pastLease = true → phase.pastLease = true)
    (haccounted : h.accounted = true → ({ h with phase := phase } : Handler).accounted = true) :
    ActEffect cluster s h a { h with phase := phase } { s with queue := queue } where
  message := rfl
  draws := Nat.le_refl _
  settled hs := ⟨hpast hs, rfl, rfl⟩
  leased _ hleased := Or.inl hleased
  token := Or.inl rfl
  leases _ r hr := ⟨r, hr, Or.inl rfl⟩
  outbox := Or.inl rfl
  conflicted := Or.inl
  accounted := haccounted

end ActEffect

theorem accounted_of_beforeRun {h : Handler} (hphase : h.phase.beforeRun = true) :
    h.accounted = true := by
  simp [Handler.accounted, hphase]

/-- Once the graph is no longer ahead, the phase does not matter. -/
theorem accounted_of_phase {h : Handler} (hphase : h.phase.beforeRun = false) (phase : Phase)
    (haccounted : h.accounted = true) : ({ h with phase := phase } : Handler).accounted = true := by
  unfold Handler.accounted at *
  simp only [hphase, Bool.or_false] at haccounted
  simp only [Bool.or_eq_true] at *
  tauto

theorem select_effect {s : Shared} {h : Handler} (hpast : h.pastLease = false)
    {key : ConversationKey} (hkey : h.message.payload.leaseKey = some key) :
    ActEffect cluster s h .select (cluster.select s h key).1 (cluster.select s h key).2 where
  message := rfl
  draws := by
    unfold select
    simp only [World.draw_draws]
    omega
  settled := by simp [hpast]
  leased _ hleased := Or.inl hleased
  token := by
    refine Or.inr ⟨s.rt.world.draws + 1, by omega, ?_, rfl⟩
    unfold select
    simp only [World.draw_draws]
    omega
  leases _ r hr := ⟨r, hr, Or.inl rfl⟩
  outbox := Or.inl rfl
  conflicted := by
    intro hconflicted
    simp only [select, Bool.or_eq_true] at hconflicted
    refine hconflicted.imp_right ?_
    intro hconflict
    unfold selected at hconflict
    rcases (cluster.repository (cluster.worker.deps.uuids.gen s.rt.world.draws)).select_cases
      cluster.text s.rt.world.now key s.leases with
      ⟨r, hr, hactive, -, -⟩ | ⟨r, -, -, -, hown⟩ | ⟨-, hfree⟩
    · simpa [meetsLease, leaseRow, hkey, hr, LeaseRepository.active_iff] using hactive
    · rw [hown] at hconflict
      cases hconflict
    · rw [hfree] at hconflict
      cases hconflict
  accounted _ := by
    unfold select Handler.accounted
    cases cluster.selected s key with
    | conflict error => simp [LeaseRepository.Selected.isConflict]
    | own => simp [afterSelect, Phase.beforeRun]
    | free => simp [afterSelect, Phase.beforeRun]

/-- A written lease changes the row of its key to the drawn token. -/
theorem find_written {s : Shared} {key : ConversationKey} {repo : LeaseRepository}
    {startedAt : Nat} {own : Bool} {token : String} {leases : LeaseTable}
    (hwritten : cluster.written s key repo startedAt own token = .ok leases)
    {k : ConversationKey} {r : ConversationRunLease} (hr : s.leases.find k = some r) :
    ∃ r', leases.find k = some r' ∧
      (r'.fencingToken = r.fencingToken ∨ r'.fencingToken = token) := by
  unfold written at hwritten
  cases own with
  | true =>
      simp only [if_true, Except.ok.injEq] at hwritten
      rw [← hwritten, LeaseRepository.find_refresh, hr, Option.map_some]
      split
      · exact ⟨_, rfl, Or.inr rfl⟩
      · exact ⟨_, rfl, Or.inl rfl⟩
  | false =>
      simp only [Bool.false_eq_true, if_false] at hwritten
      rw [repo.find_upsert cluster.text hwritten]
      split
      · exact ⟨_, rfl, Or.inr rfl⟩
      · exact ⟨r, hr, Or.inl rfl⟩

theorem not_written_of_live {s : Shared} {key : ConversationKey} {repo : LeaseRepository}
    {startedAt : Nat} {own : Bool} {token : String} {error : LeaseConflictError}
    (hwritten : cluster.written s key repo startedAt own token = .error error) :
    ∃ r, s.leases.find key = some r ∧ startedAt < r.expiresAt := by
  unfold written at hwritten
  cases own with
  | true => cases hwritten
  | false => exact (repo.upsert_eq_error_iff cluster.text).1 ⟨error, hwritten⟩

theorem write_effect {s : Shared} {h : Handler} {workerId : String} {startedAt : Nat} {own : Bool}
    {key : ConversationKey} {token : String} (hphase : h.phase = .selected workerId startedAt own)
    (hkey : h.message.payload.leaseKey = some key) (htoken : h.drawnToken = some token)
    (repo : LeaseRepository) (session : Transaction) :
    ActEffect cluster s h (.upsert session)
      (cluster.write s h key repo startedAt own token session).1
      (cluster.write s h key repo startedAt own token session).2 := by
  have hpast : h.pastLease = false := by
    rw [Handler.pastLease, hphase]
    rfl
  unfold write
  split
  next _ _ hwritten =>
    refine ⟨rfl, Nat.le_refl _, by simp [hpast], fun _ => Or.inl, Or.inl rfl,
      fun _ r hr => ⟨r, hr, Or.inl rfl⟩, Or.inl rfl, ?_, by simp [Handler.accounted]⟩
    intro _
    obtain ⟨r, hr, hlive⟩ := not_written_of_live hwritten
    right
    simpa [meetsLease, leaseRow, hphase, hkey, hr] using hlive
  next =>
    exact ⟨rfl, Nat.le_refl _, by simp [hpast], fun _ _ => Or.inr rfl, Or.inl rfl,
      fun _ r hr => ⟨r, hr, Or.inl rfl⟩, Or.inl rfl, Or.inl, fun _ => accounted_of_beforeRun rfl⟩
  next leases hwritten _ =>
    refine ⟨rfl, Nat.le_refl _, by simp [hpast], fun _ _ => Or.inr rfl, Or.inl rfl, ?_, Or.inl rfl,
      Or.inl, fun _ => accounted_of_beforeRun rfl⟩
    intro k r hr
    obtain ⟨r', hr', hsame | hnew⟩ := find_written hwritten hr
    · exact ⟨r', hr', Or.inl hsame⟩
    · exact ⟨r', hr', Or.inr ⟨hpast, by rw [htoken, hnew]⟩⟩

@[simp] theorem checkpoint_world (saved : Bool) (rt : Runtime) (payload : JobPayload)
    (state : GraphState) : (checkpoint saved rt payload state).world = rt.world := by
  unfold checkpoint
  split <;> rfl

theorem pastLease_continueRun (run : GraphRun) (state : GraphState) :
    (continueRun run state).pastLease = true := by
  unfold continueRun
  cases route run.node state with
  | none => rfl
  | some next =>
      cases next with
      | finish => rfl
      | goto n =>
          simp only
          split <;> rfl

/-- A step of a running graph: the lease tables stay as they are. -/
theorem running_effect {s : Shared} {h : Handler} {a : HandlerStep} {run : GraphRun} {phase : Phase}
    {rt : Runtime} (hphase : h.phase = .running run) (hpast : phase.pastLease = true)
    (hdraws : s.rt.world.draws ≤ rt.world.draws) :
    ActEffect cluster s h a { h with phase := phase } { s with rt := rt } where
  message := rfl
  draws := hdraws
  settled _ := ⟨hpast, rfl, rfl⟩
  leased _ hleased := Or.inl hleased
  token := Or.inl rfl
  leases _ r hr := ⟨r, hr, Or.inl rfl⟩
  outbox := Or.inr ⟨run, hphase⟩
  conflicted := Or.inl
  accounted := accounted_of_phase (by rw [hphase]; rfl) phase

theorem toolCall_effect {s : Shared} {h : Handler} {run : GraphRun}
    (hphase : h.phase = .running run) (tc : PendingToolCall) :
    ActEffect cluster s h .toolCall (cluster.toolCall s h run tc).1
      (cluster.toolCall s h run tc).2 := by
  unfold toolCall
  refine running_effect hphase rfl ?_
  exact (executeToolCall_effect (s := run.state) _ _ tc).draws

theorem superstep_effect (saved : Bool) {s : Shared} {h : Handler} {run : GraphRun}
    (hphase : h.phase = .running run) :
    ActEffect cluster s h (.superstep saved) (cluster.superstep saved s h run).1
      (cluster.superstep saved s h run).2 := by
  unfold superstep
  refine running_effect hphase (pastLease_continueRun run _) ?_
  rw [checkpoint_world]
  simp only
  split
  · exact Nat.le_refl _
  · exact (runNode_effect cluster.worker.deps.deps run.node run.state s.rt.world).draws

theorem invoke_effect (saved : Bool) {s : Shared} {h : Handler} :
    ActEffect cluster s h (.invoke saved) (cluster.invoke saved s h).1
      (cluster.invoke saved s h).2 where
  message := rfl
  draws := by
    unfold invoke
    simp only [checkpoint_world, JobConsumerWorker.startWorld, World.draw_draws]
    omega
  settled _ := ⟨rfl, rfl, rfl⟩
  leased _ hleased := Or.inl hleased
  token := Or.inl rfl
  leases _ r hr := ⟨r, hr, Or.inl rfl⟩
  outbox := by
    refine Or.inl ?_
    unfold invoke
    simp only [checkpoint_world]
    rfl
  conflicted := Or.inl
  accounted _ := rfl

theorem release_effect {s : Shared} {h : Handler} {outcome : Outcome}
    (hphase : h.phase = .releasing outcome) (key : ConversationKey) (token : String)
    (session : Transaction) :
    ActEffect cluster s h (.release session) { h with phase := .settling outcome }
      (release s key token session) := by
  have hmoved : ActEffect cluster s h (.release session) { h with phase := .settling outcome } s :=
    .of_phase (fun _ => rfl) (accounted_of_phase (by rw [hphase]; rfl) _)
  unfold release
  split
  next => exact hmoved
  next =>
    refine ⟨rfl, Nat.le_refl _, hmoved.settled, hmoved.leased, Or.inl rfl, ?_, Or.inl rfl, Or.inl,
      hmoved.accounted⟩
    intro k r hr
    rw [LeaseRepository.find_release, hr, Option.map_some]
    split
    · exact ⟨_, rfl, Or.inl rfl⟩
    · exact ⟨r, rfl, Or.inl rfl⟩

theorem settle_effect {s : Shared} {h : Handler} {a : HandlerStep} {outcome : Outcome}
    (haccounted : h.accounted = true →
      ({ h with phase := .settled outcome } : Handler).accounted = true) :
    ActEffect cluster s h a (settle s h outcome).1 (settle s h outcome).2 := by
  unfold settle
  split
  · exact .of_phase (fun _ => rfl) haccounted
  · exact .of_phase (fun _ => rfl) haccounted

/-- What any step of a handler can do. -/
theorem act_effect {s s' : Shared} {h h' : Handler} {a : HandlerStep}
    (hact : cluster.act s h a = some (h', s')) : ActEffect cluster s h a h' s' := by
  have hpast {phase : Phase} (hphase : h.phase = phase) : h.pastLease = phase.pastLease := by
    rw [Handler.pastLease, hphase]
  have hlate {phase : Phase} (hphase : h.phase = phase) (hbefore : phase.beforeRun = false)
      (next : Phase) : h.accounted = true → ({ h with phase := next } : Handler).accounted = true :=
    accounted_of_phase (by rw [hphase, hbefore]) next
  unfold act at hact
  cases a with
  | start =>
      simp only at hact
      split at hact
      next hphase =>
        have hbefore : h.pastLease = false := hpast hphase
        split at hact
        · cases hact
          exact .of_phase (by simp [hbefore]) fun _ => accounted_of_beforeRun rfl
        next hincomplete =>
          cases hact
          exact .of_phase (fun _ => rfl) fun _ => by simp [Handler.accounted, hincomplete]
      next => cases hact
  | skipLease =>
      simp only at hact
      split at hact
      · cases hact
        exact .of_phase (fun _ => rfl) fun _ => accounted_of_beforeRun rfl
      · cases hact
        exact .of_phase (fun _ => rfl) fun _ => accounted_of_beforeRun rfl
      · cases hact
  | select =>
      simp only at hact
      split at hact
      next key hphase hkey =>
        cases hact
        exact select_effect (hpast hphase) hkey
      next => cases hact
  | upsert session =>
      simp only at hact
      split at hact
      next workerId startedAt own key token hphase hkey htoken =>
        have hwrite := Option.some.inj hact
        have heffect : ActEffect cluster s h (.upsert session)
            (cluster.write s h key (cluster.repository workerId) startedAt own token session).1
            (cluster.write s h key (cluster.repository workerId) startedAt own token session).2 :=
          write_effect hphase hkey htoken _ session
        rw [hwrite] at heffect
        exact heffect
      next => cases hact
  | invoke saved =>
      simp only at hact
      split at hact
      · cases hact
        exact invoke_effect saved
      · cases hact
  | toolCall =>
      simp only at hact
      split at hact
      next run hphase =>
        split at hact
        · rw [Option.map_eq_some_iff] at hact
          obtain ⟨tc, -, hcall⟩ := hact
          cases hcall
          exact toolCall_effect hphase tc
        · cases hact
      next => cases hact
  | superstep saved =>
      simp only at hact
      split at hact
      next run hphase =>
        split at hact
        · cases hact
        · cases hact
          exact superstep_effect saved hphase
      next => cases hact
  | raise =>
      simp only at hact
      split at hact
      next hphase =>
        cases hact
        exact .of_phase (fun _ => rfl) (hlate hphase rfl _)
      next => cases hact
  | cancel =>
      simp only at hact
      split at hact
      next hphase =>
        cases hact
        exact .of_phase (fun _ => rfl) (hlate hphase rfl _)
      next => cases hact
  | release session =>
      simp only at hact
      split at hact
      next hphase =>
        split at hact
        · cases hact
          exact release_effect hphase _ _ session
        · cases hact
          exact .of_phase (fun _ => rfl) (hlate hphase rfl _)
      next => cases hact
  | settle =>
      simp only at hact
      split at hact
      next hphase =>
        cases hact
        exact settle_effect (hlate hphase rfl _)
      next => cases hact
  | crash =>
      simp only at hact
      split at hact
      · cases hact
      · cases hact
        exact settle_effect fun _ => accounted_of_beforeRun rfl

/-- What the environment can do: the new handlers are at their start. -/
theorem environment_new {s t : Shared} {e : Event} {ls : List Handler}
    (h : environment s e = some (ls, t)) : ∀ l ∈ ls, ∃ message, l = { message := message } := by
  cases e with
  | publish payload =>
      cases h
      simp
  | deliver position =>
      unfold environment at h
      simp only at h
      split at h
      · cases h
        simp
      · cases h
  | tick elapsed =>
      cases h
      simp

theorem environment_effect {s t : Shared} {e : Event} {ls : List Handler}
    (h : environment s e = some (ls, t)) :
    t.rt.world.draws = s.rt.world.draws ∧ t.leases = s.leases := by
  cases e with
  | publish payload =>
      cases h
      exact ⟨rfl, rfl⟩
  | deliver position =>
      unfold environment at h
      simp only at h
      split at h
      · cases h
        exact ⟨rfl, rfl⟩
      · cases h
  | tick elapsed =>
      cases h
      exact ⟨rfl, rfl⟩

/-! ## A cluster to run -/

section Example

/-- Answers later calls differently. -/
def chatty : Llm where
  ainvoke draw _ _ := .ok { content := .text (if draw < 8 then "Oi" else "Dez") }

def plainCluster : Cluster where
  worker := plainWorker chatty

/-- Two jobs of one conversation, both delivered. -/
def twoJobs : List Action :=
  [.environment (.publish greeting), .environment (.publish question),
    .environment (.deliver 0), .environment (.deliver 0)]

/-- A handler up to its graph run. -/
def acquireSteps (i : Nat) : List Action :=
  [.party i .start, .party i .select, .party i (.upsert .commits), .party i (.invoke true)]

def supersteps (i n : Nat) : List Action := List.replicate n (.party i (.superstep true))

end Example

end Cluster

end Iara.Workers
