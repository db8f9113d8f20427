import Iara.Workers.Sequential
import Iara.Proofs.Redelivery

/-!
# Histories as runs

Deliveries one after another, each of them cut short or not, are one way for the
workers to take their turns: whatever holds along every run of the cluster holds
along every history.
-/

namespace Iara.Workers

open Iara.Lib Iara.Persistence Iara.Graph

namespace Cluster

variable {cluster : Cluster} {s : Shared}

/-- A delivery that reached no lease conflict, from its start to its end. -/
theorem actAll_deliverySteps {d : Delivery} (id : Nat) (hlease : d.lease ≠ .conflict) :
    ∃ h' queue, cluster.system.actAll s { message := ⟨id, d.payload⟩ }
          (cluster.deliverySteps s.rt d) =
        some (h', { s with rt := cluster.worker.deliver s.rt d, queue := queue }) ∧
      h'.message = ⟨id, d.payload⟩ ∧ h'.phase = .settled (cluster.deliveryOutcome s.rt d) := by
  cases hcomplete : d.payload.complete with
  | true =>
      have hruns : JobConsumerWorker.runsGraph d = true := by
        rw [JobConsumerWorker.runsGraph, hcomplete, Bool.true_and]
        exact decide_eq_true hlease
      cases hcut : d.interruption with
      | none =>
          obtain ⟨h', hact, hmessage, hphase⟩ := actAll_uninterrupted id hcomplete hruns hcut
          exact ⟨h', s.queue, hact, hmessage, hphase⟩
      | some i =>
          obtain ⟨h', hact, hmessage, hphase⟩ := actAll_interrupted id hcomplete hruns hcut
          exact ⟨h', s.queue ++ [⟨id, d.payload⟩], hact, hmessage, hphase⟩
  | false =>
      have hruns : JobConsumerWorker.runsGraph d = false := by
        rw [JobConsumerWorker.runsGraph, hcomplete, Bool.false_and]
      have hdeliver : cluster.worker.deliver s.rt d = s.rt :=
        JobConsumerWorker.deliver_of_not_runs hruns
      obtain ⟨h', hact, hmessage, hphase⟩ := actAll_incomplete id hcomplete
      refine ⟨h', s.queue, ?_, hmessage, hphase⟩
      rw [hdeliver]
      exact hact

/-! ## Histories -/

/-- The moves of a delivery: its job is published, taken from the end of the
queue, and handled. -/
def deliveryMoves (cluster : Cluster) (c : State) (d : Delivery) : List Action :=
  [.environment (.publish d.payload), .environment (.deliver c.shared.queue.length)] ++
    (cluster.deliverySteps c.shared.rt d).map (.party c.parties.length)

/-- What a history leaves of each delivery. -/
def historyOf (cluster : Cluster) : Runtime → List Delivery → List (JobPayload × Phase)
  | _, [] => []
  | rt, d :: ds =>
      (d.payload, .settled (cluster.deliveryOutcome rt d)) ::
        historyOf cluster (cluster.worker.deliver rt d) ds

theorem run_deliveryMoves (c : State) {d : Delivery} (hlease : d.lease ≠ .conflict) :
    ∃ h' queue, cluster.machine.run c (cluster.deliveryMoves c d) =
        some ⟨{ rt := cluster.worker.deliver c.shared.rt d
                leases := c.shared.leases
                queue := queue
                published := c.shared.published + 1 }, c.parties ++ [h']⟩ ∧
      h'.message.payload = d.payload ∧
      h'.phase = .settled (cluster.deliveryOutcome c.shared.rt d) := by
  let s : Shared := { c.shared with published := c.shared.published + 1 }
  let received : Handler := { message := ⟨c.shared.published, d.payload⟩ }
  obtain ⟨h', queue, hact, hmessage, hphase⟩ :=
    @actAll_deliverySteps cluster s d c.shared.published hlease
  have hlast : (c.parties ++ [received])[c.parties.length]? = some received := by
    rw [List.getElem?_append_right (Nat.le_refl _), Nat.sub_self]
    rfl
  have hturn := Interleaving.run_actAll (c := ⟨s, c.parties ++ [received]⟩) hlast hact
  have hset : (c.parties ++ [received]).set c.parties.length h' = c.parties ++ [h'] := by
    rw [List.set_append_right _ _ (Nat.le_refl _), Nat.sub_self]
    rfl
  have hpublish : cluster.machine.step c (.environment (.publish d.payload)) =
      some ⟨{ s with queue := s.queue ++ [received.message] }, c.parties⟩ := by
    exact congrArg (fun parties => some (Interleaving.Config.mk _ parties)) (List.append_nil _)
  have hdeliver : cluster.machine.step
      ⟨{ s with queue := s.queue ++ [received.message] }, c.parties⟩
      (.environment (.deliver c.shared.queue.length)) =
      some ⟨s, c.parties ++ [received]⟩ := by
    have hmessage : (s.queue ++ [received.message])[c.shared.queue.length]? =
        some received.message := by
      rw [List.getElem?_append_right (Nat.le_refl _), Nat.sub_self]
      rfl
    have herase : (s.queue ++ [received.message]).eraseIdx c.shared.queue.length = s.queue := by
      rw [List.eraseIdx_append_of_length_le (Nat.le_refl _), Nat.sub_self]
      exact List.append_nil _
    have hact : environment { s with queue := s.queue ++ [received.message] }
        (.deliver c.shared.queue.length) = some ([received], s) := by
      unfold environment
      simp only [hmessage, herase]
      rfl
    exact congrArg (Option.map _) hact
  refine ⟨h', queue, ?_, ?_, hphase⟩
  · rw [deliveryMoves, List.cons_append, List.cons_append, List.nil_append, Machine.run_cons,
      hpublish, Option.bind_some, Machine.run_cons, hdeliver, Option.bind_some]
    rw [hset] at hturn
    exact hturn
  · rw [hmessage]

theorem run_history (ds : List Delivery) (c : State) (hleases : ∀ d ∈ ds, d.lease ≠ .conflict) :
    ∃ moves c', cluster.machine.run c moves = some c' ∧
      c'.shared.rt = cluster.worker.deliverAll c.shared.rt ds ∧
      c'.shared.leases = c.shared.leases ∧
      c'.parties.map (fun h => (h.message.payload, h.phase)) =
        c.parties.map (fun h => (h.message.payload, h.phase)) ++
          cluster.historyOf c.shared.rt ds := by
  induction ds generalizing c with
  | nil => exact ⟨[], c, rfl, rfl, rfl, (List.append_nil _).symm⟩
  | cons d ds ih =>
      obtain ⟨h', queue, hrun, hpayload, hphase⟩ :=
        run_deliveryMoves c (hleases d List.mem_cons_self)
      obtain ⟨moves, c', hrest, hrt, hkept, hparties⟩ :=
        ih ⟨{ rt := cluster.worker.deliver c.shared.rt d
              leases := c.shared.leases
              queue := queue
              published := c.shared.published + 1 }, c.parties ++ [h']⟩
          (fun e he => hleases e (List.mem_cons_of_mem _ he))
      refine ⟨cluster.deliveryMoves c d ++ moves, c', ?_, hrt, hkept, ?_⟩
      · rw [Machine.run_append, hrun, Option.bind_some, hrest]
      · rw [hparties, List.map_append, historyOf, List.append_assoc]
        simp only [List.map_cons, List.map_nil, hpayload, hphase, List.singleton_append]

/-- Every history of deliveries, none of which meets a lease in force, is a run of
the cluster. -/
theorem history_is_a_run (cluster : Cluster) (rt : Runtime) (leases : LeaseTable)
    (ds : List Delivery) (hleases : ∀ d ∈ ds, d.lease ≠ .conflict) :
    ∃ moves c, cluster.machine.run (initially rt leases) moves = some c ∧
      c.shared.rt = cluster.worker.deliverAll rt ds ∧ c.shared.leases = leases ∧
      c.parties.map (fun h => (h.message.payload, h.phase)) = cluster.historyOf rt ds :=
  run_history ds (initially rt leases) hleases

/-- A greeting whose worker dies after six nodes, five of them checkpointed, and
its redelivery. -/
def greetingRedelivered : List Delivery :=
  [{ payload := greeting, interruption := some { executed := 6, persisted := some 5 } },
    { payload := greeting }]

theorem history_is_a_run_greeting :
    plainCluster.historyOf emptyRuntime greetingRedelivered =
        [(greeting, .settled .requeued), (greeting, .settled .acked)] ∧
      ∃ moves c, plainCluster.machine.run (initially emptyRuntime .empty) moves = some c ∧
        c.shared.rt = plainCluster.worker.deliverAll emptyRuntime greetingRedelivered ∧
        c.shared.leases = .empty ∧
        c.parties.map (fun h => (h.message.payload, h.phase)) =
          plainCluster.historyOf emptyRuntime greetingRedelivered := by
  constructor
  · decide +kernel
  · apply history_is_a_run
    decide

end Cluster

end Iara.Workers
