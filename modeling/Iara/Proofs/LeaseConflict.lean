import Iara.Workers.ClusterSteps

/-!
# Lease conflicts

A job whose `acquire` meets a lease is acknowledged without having been run; when
no acquire does, every acknowledged job has been run.
-/

namespace Iara.Workers

open Iara.Lib Iara.Persistence Iara.Graph

namespace Cluster

variable {cluster : Cluster}

/-- Acknowledged jobs have been run, and a delivery that ended in a conflict has
given its message back. -/
structure NoJobLost (c : State) : Prop where
  acked_ran : ∀ h ∈ c.parties, h.phase = .settled .acked → h.message.payload.complete = true →
    ∃ h' ∈ c.parties, h'.message = h.message ∧ h'.ranGraph = true
  conflict_requeued : ∀ h ∈ c.parties, h.conflicted = true → ∀ outcome,
    h.phase = .settled outcome → outcome = .requeued

/-- A statement of an acquire finds the row of its conversation taken. -/
def actionMeetsLease (c : State) : Action → Bool
  | .party i a => c.parties[i]?.any fun h => meetsLease c.shared h a
  | .environment _ => false

/-- No handler has met a lease, and every one has run its job or is yet to. -/
def Unobstructed (c : State) : Prop :=
  ∀ h ∈ c.parties, h.conflicted = false ∧ h.accounted = true

theorem Unobstructed.step {c c' : State} {m : Action} (hc : Unobstructed c)
    (hfree : actionMeetsLease c m = false) (hstep : cluster.machine.step c m = some c') :
    Unobstructed c' := by
  intro h' hmem
  obtain ⟨i, hi⟩ := List.mem_iff_getElem?.1 hmem
  rcases Interleaving.party_before_step hstep hi with
    hsame | ⟨h, a, rfl, hbefore, hact⟩ | ⟨e, ls, -, henv, hnew, -⟩
  · exact hc h' (List.mem_of_getElem? hsame)
  · obtain ⟨hconflicted, haccounted⟩ := hc h (List.mem_of_getElem? hbefore)
    have heffect := act_effect hact
    refine ⟨?_, heffect.accounted haccounted⟩
    by_contra hraised
    rcases heffect.conflicted (by simpa using hraised) with hold | hmeets
    · rw [hconflicted] at hold
      cases hold
    · simp [actionMeetsLease, hbefore, hmeets] at hfree
  · obtain ⟨message, rfl⟩ := environment_new henv h' hnew
    exact ⟨rfl, rfl⟩

theorem Unobstructed.noJobLost {c : State} (hc : Unobstructed c) : NoJobLost c where
  acked_ran := by
    intro h hmem hphase hcomplete
    obtain ⟨hconflicted, haccounted⟩ := hc h hmem
    refine ⟨h, hmem, rfl, ?_⟩
    simpa [Handler.accounted, hphase, hcomplete, hconflicted, Phase.beforeRun] using haccounted
  conflict_requeued := by
    intro h hmem hconflicted
    rw [(hc h hmem).1] at hconflicted
    cases hconflicted

/-- Along every run in which no acquire finds its conversation leased, every
acknowledged job has been run. -/
theorem noJobLost_of_no_lease_met (cluster : Cluster) (rt : Runtime) (leases : LeaseTable)
    (actions : List Action) (c : State)
    (hrun : cluster.machine.run (initially rt leases) actions = some c)
    (hfree : cluster.machine.AllSteps (fun d m => actionMeetsLease d m = false)
      (initially rt leases) actions) : NoJobLost c := by
  have hstart : Unobstructed (initially rt leases) := by simp [Unobstructed, initially]
  have hunobstructed := cluster.machine.invariant_of_allSteps
    (fun _ _ _ hd hm hstep => Unobstructed.step hd hm hstep) hstart hfree hrun
  exact hunobstructed.noJobLost

section Example

/-- One job from its delivery to its acknowledgment. -/
def ackedRun : List Action :=
  twoJobs ++ acquireSteps 0 ++ supersteps 0 7 ++ [.party 0 (.release .commits), .party 0 .settle]

def ackedState : State :=
  (plainCluster.machine.run (initially emptyRuntime .empty) ackedRun).getD
    (initially emptyRuntime .empty)

theorem ackedState_noJobLost : NoJobLost ackedState := by
  apply noJobLost_of_no_lease_met plainCluster emptyRuntime .empty ackedRun
  · exact eq_some_getD (by decide +kernel)
  · apply plainCluster.machine.allSteps_of_trace
    have hall : (plainCluster.machine.trace (initially emptyRuntime .empty) ackedRun).all
        (fun p => !actionMeetsLease p.1 p.2) = true := by decide +kernel
    intro p hp
    simpa using List.all_eq_true.1 hall p hp

/-- The second job meets the lease of the first. -/
def conflictRun : List Action :=
  twoJobs ++ acquireSteps 0 ++ [.party 1 .start, .party 1 .select, .party 1 .settle]

def conflictState : State :=
  (plainCluster.machine.run (initially emptyRuntime .empty) conflictRun).getD
    (initially emptyRuntime .empty)

/-- It is acknowledged without having been run. -/
theorem conflictRun_loses_job :
    plainCluster.machine.run (initially emptyRuntime .empty) conflictRun = some conflictState ∧
      ¬ NoJobLost conflictState := by
  refine ⟨eq_some_getD (by decide +kernel), ?_⟩
  intro hkept
  have hacked : conflictState.parties.any (fun h => h.phase = .settled .acked &&
      h.message.payload.complete && h.message.id = 1) = true := by decide +kernel
  have hnever : conflictState.parties.all (fun h => h.message.id = 0 || !h.ranGraph) = true := by
    decide +kernel
  obtain ⟨h, hmem, hacked⟩ := List.any_eq_true.1 hacked
  simp only [Bool.and_eq_true, decide_eq_true_eq] at hacked
  obtain ⟨h', hmem', hmessage, hran⟩ := hkept.acked_ran h hmem hacked.1.1 hacked.1.2
  have hunrun := List.all_eq_true.1 hnever h' hmem'
  rw [hmessage, hacked.2, hran] at hunrun
  simp at hunrun

end Example

end Cluster

end Iara.Workers
