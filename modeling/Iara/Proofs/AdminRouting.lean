import Iara.Workers.History

/-!
# Who reaches the command assistant

The eligibility node takes the command from the last user message of the whole
history and the sender from the job.  The two belong together if the job brings
a text of its own; a job without text is judged by a message of an earlier one.
-/

namespace Iara.Graph

open Iara.Lib Iara.Security

variable {deps : Deps}

/-! ## The way to the command assistant -/

/-- No edge but that of the eligibility node leads to the command assistant, and
none leads back to the eligibility node. -/
theorem route_from_later {n n' : Node} {s : GraphState} (hn : n ≠ .eligibility)
    (h : route n s = some (.goto n')) : n' ≠ .commandAssistant ∧ n' ≠ .eligibility := by
  have hpaths : ∀ l, ∀ m ∈ [Node.commandAssistant, Node.eligibility],
      mediaPaths l ≠ some (.goto m) ∧ contextPaths l ≠ some (.goto m) ∧
        agentPaths l ≠ some (.goto m) ∧ toolPaths l ≠ some (.goto m) ∧
        guardrailsPaths l ≠ some (.goto m) ∧ dispatchPaths l ≠ some (.goto m) := by
    intro l
    cases l <;> decide
  have hnot : ∀ m ∈ [Node.commandAssistant, Node.eligibility], n' ≠ m := by
    rintro m hm rfl
    cases n with
    | eligibility => exact hn rfl
    | mediaUnderstanding => exact (hpaths _ _ hm).1 h
    | contextBuilder => exact (hpaths _ _ hm).2.1 h
    | agent => exact (hpaths _ _ hm).2.2.1 h
    | toolExecutor => exact (hpaths _ _ hm).2.2.2.1 h
    | guardrails => exact (hpaths _ _ hm).2.2.2.2.1 h
    | commandDispatch => exact (hpaths _ _ hm).2.2.2.2.2 h
    | commandAssistant => cases h
    | hitl => cases h
    | memoryWriter => cases h
  exact ⟨hnot _ (by simp), hnot _ (by simp)⟩

theorem route_eligibility_ne (s : GraphState) :
    route .eligibility s ≠ some (.goto .eligibility) := by
  have hpaths : ∀ l, eligibilityPaths l ≠ some (.goto .eligibility) := by
    intro l
    cases l <;> decide
  exact hpaths _

/-- A run past the eligibility node does not come to the command assistant. -/
theorem later_visits {limit : Nat} {n : Node} {s : GraphState} {w : World}
    (hn : n ≠ .commandAssistant) (hback : n ≠ .eligibility) :
    ∀ v ∈ ((buildConversationalGraph deps).execute limit n s w).1,
      v.node ≠ .commandAssistant := by
  intro v hv
  refine ((buildConversationalGraph deps).visits_invariant
    (P := fun n _ _ => n ≠ .commandAssistant ∧ n ≠ .eligibility) ?_ ⟨hn, hback⟩ v hv).1.1
  intro m t w' m' hm hroute
  exact route_from_later hm.2 hroute

theorem commandAssistant_mem_nodes_iff (limit : Nat) (s : GraphState) (w : World) :
    Node.commandAssistant ∈
        ((buildConversationalGraph deps).execute (limit + 2) .eligibility s w).1.map Visit.node ↔
      route .eligibility (s.merge (runNode deps .eligibility s w).1) =
        some (.goto .commandAssistant) := by
  let g := buildConversationalGraph deps
  have hpost : g.route .eligibility (g.superstep .eligibility s w).post =
      route .eligibility (s.merge (runNode deps .eligibility s w).1) := rfl
  rw [← hpost]
  cases hnext : g.route .eligibility (g.superstep .eligibility s w).post with
  | none => simp [g.execute_routingError hnext, g]
  | some next =>
      cases next with
      | finish => simp [g.execute_finish hnext, g]
      | goto n' =>
          rw [g.execute_goto hnext, List.map_cons, List.mem_cons, StateGraph.node_superstep]
          by_cases hn' : n' = .commandAssistant
          · subst hn'
            obtain ⟨rest, hrest, -⟩ := g.execute_succ_head limit .commandAssistant
              (g.superstep .eligibility s w).post (g.superstep .eligibility s w).worldAfter
            rw [hrest]
            simp
          · have hback : n' ≠ .eligibility := by
              rintro rfl
              exact route_eligibility_ne _ hnext
            apply iff_of_false
            · rintro (heq | hmem)
              · cases heq
              · obtain ⟨v, hv, hnode⟩ := List.mem_map.1 hmem
                exact later_visits hn' hback v hv hnode
            · intro heq
              cases heq
              exact hn' rfl

/-! ## The decision of the eligibility node -/

/-- The guard takes a text for an admin command of an authorized sender. -/
def authorizes (guard : CommandAuthorizationGuard) (s : GraphState) (text : String) : Prop :=
  let result := guard.check (s.tenantId.getD "") s.metadataOrEmpty.senderType
    (s.metadataOrEmpty.senderRef.getD "None") text
  result.isAdminCommand = true ∧ result.allowed = true

theorem route_eligibility_iff (guard : CommandAuthorizationGuard) (hguard : deps.authGuard = guard)
    {s : GraphState} (hpending : s.eligibilityStatus = some .pending) (w : World) :
    route .eligibility (s.merge (runNode deps .eligibility s w).1) =
        some (.goto .commandAssistant) ↔
      authorizes guard s (lastUserMessage s.history) := by
  unfold authorizes
  simp only [route, runNode, eligibilityNode, hguard, hpending, if_true]
  generalize guard.check (s.tenantId.getD "") s.metadataOrEmpty.senderType
    (s.metadataOrEmpty.senderRef.getD "None") (lastUserMessage s.history) = result
  simp only [shouldContinueAfterEligibility, GraphState.merge, Option.some_or]
  cases result.isAdminCommand <;> cases result.allowed <;>
    simp [eligibilityPaths]

theorem lastUserMessage_append_user (messages : List Message) (content : String) :
    lastUserMessage (messages ++ [.user content]) = content := by
  simp [lastUserMessage]

end Iara.Graph

namespace Iara.Workers

open Iara.Lib Iara.Graph

namespace JobConsumerWorker

variable {worker : JobConsumerWorker} {rt : Runtime} {payload : JobPayload}

/-- A text that the worker takes for an admin command the sender of the job may
give. -/
def GivesCommand (worker : JobConsumerWorker) (payload : JobPayload) (text : String) : Prop :=
  let result := worker.deps.authGuard.check payload.tenantId payload.senderType
    (payload.senderRef.getD "None") text
  result.isAdminCommand = true ∧ result.allowed = true

/-- The job brings a text. -/
def hasText (payload : JobPayload) : Bool := PyStr.truthy (payload.content.getD "")

/-- A run that comes to the command assistant was sent there by a command of the
job itself. -/
def CommandIsOwn (worker : JobConsumerWorker) (rt : Runtime) (payload : JobPayload) : Prop :=
  Node.commandAssistant ∈ worker.visitedNodes rt payload →
    hasText payload = true ∧ worker.GivesCommand payload (payload.content.getD "")

theorem history_startState (worker : JobConsumerWorker) (rt : Runtime) (payload : JobPayload) :
    (worker.startState payload rt).history = (rt.checkpoints payload.threadId).history ++
      if hasText payload then [.user (payload.content.getD "")] else [] := rfl

/-- A run comes to the command assistant if and only if the last user message of
the history is a command that the sender of the job may give. -/
theorem commandAssistant_mem_iff :
    Node.commandAssistant ∈ worker.visitedNodes rt payload ↔
      worker.GivesCommand payload (lastUserMessage (worker.startState payload rt).history) := by
  obtain ⟨limit, hlimit⟩ : ∃ limit, worker.langGraph.recursionLimit = limit + 2 :=
    Nat.exists_eq_add_of_le' (Nat.le_trans (by decide) worker.langGraph.le_recursionLimit)
  unfold visitedNodes ainvoke buildProductionGraph
  rw [hlimit, commandAssistant_mem_nodes_iff,
    route_eligibility_iff worker.deps.authGuard rfl rfl]
  rfl

theorem commandIsOwn_iff :
    worker.CommandIsOwn rt payload ↔
      (hasText payload = true ∨
        ¬ worker.GivesCommand payload
          (lastUserMessage (rt.checkpoints payload.threadId).history)) := by
  unfold CommandIsOwn
  rw [commandAssistant_mem_iff, history_startState]
  cases htext : hasText payload with
  | true =>
      simp only [if_true, lastUserMessage_append_user, true_and]
      exact iff_of_true id (Or.inl trivial)
  | false =>
      simp only [Bool.false_eq_true, if_false, List.append_nil, false_and, false_or]

end JobConsumerWorker

open JobConsumerWorker

/-- After every history of deliveries, a job is sent to the command assistant by
its own command only, if and only if it brings a text or the last user message
of its conversation is no command that its sender may give. -/
theorem commandIsOwn_iff_hasText_or_no_earlier_command (worker : JobConsumerWorker)
    (start : Runtime) (ds : List Delivery) (payload : JobPayload) :
    worker.CommandIsOwn (worker.deliverAll start ds) payload ↔
      (hasText payload = true ∨
        ¬ worker.GivesCommand payload (lastUserMessage
          ((worker.deliverAll start ds).checkpoints payload.threadId).history)) :=
  commandIsOwn_iff

section Example

/-- A contact's command, which is rejected. -/
def contactCommand : JobPayload :=
  { greeting with content := some "/iara set_mode write_confirmed" }

/-- A photograph from an agent, without a word. -/
def agentPhoto : JobPayload :=
  { greeting with
    idempotencyKey := "b"
    content := none
    attachments := [{ ref := "photo", url := "photo", contentType := "image/png", type := "image" }]
    senderType := some "agent" }

/-- The agent's photograph gives the contact's command. -/
theorem agentPhoto_gives_contactCommand :
    Node.commandAssistant ∈ (plainWorker parrot).visitedNodes
        ((plainWorker parrot).deliverAll emptyRuntime [{ payload := contactCommand }]) agentPhoto ∧
      ¬ (plainWorker parrot).CommandIsOwn
        ((plainWorker parrot).deliverAll emptyRuntime [{ payload := contactCommand }])
        agentPhoto := by
  have hmem : Node.commandAssistant ∈ (plainWorker parrot).visitedNodes
      ((plainWorker parrot).deliverAll emptyRuntime [{ payload := contactCommand }])
      agentPhoto := by decide +kernel
  refine ⟨hmem, ?_⟩
  intro hown
  have htext := (hown hmem).1
  revert htext
  decide

end Example

end Iara.Workers
