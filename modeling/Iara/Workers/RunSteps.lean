import Iara.Workers.ClusterSteps

/-!
# What a step does to a graph run

`GraphEffect` lists the steps of a handler by what they do to its run, to the
queue and to the world: one of the three steps of a graph, or a step elsewhere,
which leaves the world's tables alone.
-/

namespace Iara.Workers

open Iara.Lib Iara.Persistence Iara.Graph

namespace Cluster

variable {cluster : Cluster} {s s' : Shared} {h h' : Handler} {a : HandlerStep}

/-- What a step of a handler does to its run and to the tables. -/
inductive GraphEffect (cluster : Cluster) (s : Shared) (h : Handler) : Handler → Shared → Prop
  | elsewhere {l t} (hidle : ∀ run, l.phase ≠ .running run)
      (houtbox : t.rt.world.outbox = s.rt.world.outbox)
      (hfollowUps : t.rt.world.followUps = s.rt.world.followUps)
      (hqueue : ∀ m ∈ t.queue, m ∈ s.queue ∨ m = h.message) : GraphEffect cluster s h l t
  | invoked (saved) :
      GraphEffect cluster s h (cluster.invoke saved s h).1 (cluster.invoke saved s h).2
  | toolCalled (run tc) (hphase : h.phase = .running run) :
      GraphEffect cluster s h (cluster.toolCall s h run tc).1 (cluster.toolCall s h run tc).2
  | stepped (saved run) (hphase : h.phase = .running run) :
      GraphEffect cluster s h (cluster.superstep saved s h run).1
        (cluster.superstep saved s h run).2

theorem idle_afterSelect (workerId : String) (now : Nat) (selected : LeaseRepository.Selected)
    (run : GraphRun) : afterSelect workerId now selected ≠ .running run := by
  cases selected <;> simp [afterSelect]

theorem settle_graphEffect (outcome : Outcome) :
    GraphEffect cluster s h (settle s h outcome).1 (settle s h outcome).2 := by
  unfold settle
  refine .elsewhere (by simp) ?_ ?_ ?_
  · split <;> rfl
  · split <;> rfl
  · intro m hm
    split at hm
    · simpa using hm
    · exact Or.inl hm

theorem write_graphEffect (key : ConversationKey) (repo : LeaseRepository) (startedAt : Nat)
    (own : Bool) (token : String) (session : Transaction) :
    GraphEffect cluster s h (cluster.write s h key repo startedAt own token session).1
      (cluster.write s h key repo startedAt own token session).2 := by
  unfold write
  split
  · exact .elsewhere (by simp) rfl rfl fun _ hm => Or.inl hm
  · exact .elsewhere (by simp) rfl rfl fun _ hm => Or.inl hm
  · exact .elsewhere (by simp) rfl rfl fun _ hm => Or.inl hm

theorem release_graphEffect (outcome : Outcome) (key : ConversationKey) (token : String)
    (session : Transaction) :
    GraphEffect cluster s h { h with phase := .settling outcome }
      (release s key token session) := by
  unfold release
  split
  · exact .elsewhere (by simp) rfl rfl fun _ hm => Or.inl hm
  · exact .elsewhere (by simp) rfl rfl fun _ hm => Or.inl hm

/-- A step that only moves the handler on, out of the graph. -/
theorem moved_graphEffect {phase : Phase} (hidle : ∀ run, phase ≠ .running run) :
    GraphEffect cluster s h { h with phase := phase } s :=
  .elsewhere hidle rfl rfl fun _ hm => Or.inl hm

theorem act_graphEffect (hact : cluster.act s h a = some (h', s')) :
    GraphEffect cluster s h h' s' := by
  unfold act at hact
  cases a with
  | start =>
      simp only at hact
      split at hact
      · split at hact
        · cases hact
          exact moved_graphEffect (by simp)
        · cases hact
          exact moved_graphEffect (by simp)
      · cases hact
  | skipLease =>
      simp only at hact
      split at hact
      · cases hact
        exact moved_graphEffect (by simp)
      · cases hact
        exact moved_graphEffect (by simp)
      · cases hact
  | select =>
      simp only at hact
      split at hact
      next key _ _ =>
        cases hact
        exact .elsewhere (idle_afterSelect _ _ _) rfl rfl fun _ hm => Or.inl hm
      next => cases hact
  | upsert session =>
      simp only at hact
      split at hact
      next workerId startedAt own key token _ _ _ =>
        have hwrite := Option.some.inj hact
        have heffect : GraphEffect cluster s h
            (cluster.write s h key (cluster.repository workerId) startedAt own token session).1
            (cluster.write s h key (cluster.repository workerId) startedAt own token session).2 :=
          write_graphEffect key _ startedAt own token session
        rw [hwrite] at heffect
        exact heffect
      next => cases hact
  | invoke saved =>
      simp only at hact
      split at hact
      · cases hact
        exact .invoked saved
      · cases hact
  | toolCall =>
      simp only at hact
      split at hact
      next run hphase =>
        split at hact
        · rw [Option.map_eq_some_iff] at hact
          obtain ⟨tc, -, hcall⟩ := hact
          cases hcall
          exact .toolCalled run tc hphase
        · cases hact
      next => cases hact
  | superstep saved =>
      simp only at hact
      split at hact
      next run hphase =>
        split at hact
        · cases hact
        · cases hact
          exact .stepped saved run hphase
      next => cases hact
  | raise =>
      simp only at hact
      split at hact
      · cases hact
        exact moved_graphEffect (by simp)
      · cases hact
  | cancel =>
      simp only at hact
      split at hact
      · cases hact
        exact moved_graphEffect (by simp)
      · cases hact
  | release session =>
      simp only at hact
      split at hact
      · split at hact
        · cases hact
          exact release_graphEffect _ _ _ session
        · cases hact
          exact moved_graphEffect (by simp)
      · cases hact
  | settle =>
      simp only at hact
      split at hact
      next =>
        cases hact
        exact settle_graphEffect _
      next => cases hact
  | crash =>
      simp only at hact
      split at hact
      · cases hact
      · cases hact
        exact settle_graphEffect _

end Cluster

end Iara.Workers
