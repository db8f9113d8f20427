import Iara.Graph.Frame

/-!
# What a run can do

Invariants of the visits of one run of the graph, and what the world is after it.
-/

namespace Iara.Graph

open Iara.Lib Iara.Persistence

abbrev GraphVisit := Visit Node GraphState World

variable {deps : Deps}

namespace GraphState

@[simp] theorem steps_merge {s u : GraphState} (h : u.stepCount = some (s.steps + 1)) :
    (s.merge u).steps = s.steps + 1 := by
  simp [merge, steps, h]

theorem sent_merge_of_none {s u : GraphState} (h : u.responseSent = none) :
    (s.merge u).sent = s.sent := by
  simp [merge, sent, h]

theorem failed_merge_of_none {s u : GraphState} (h : u.error = none) :
    (s.merge u).failed = s.failed := by
  simp [merge, failed, h]

theorem held_merge_of_none {s u : GraphState} (h : u.hitlRequested = none) :
    (s.merge u).held = s.held := by
  simp [merge, held, h]

theorem response_merge_of_some {s u : GraphState} {content : String}
    (h : u.agentResponse = some (some content)) : (s.merge u).response = some content := by
  simp [merge, response, h]

theorem response_merge_of_none {s u : GraphState} (h : u.agentResponse = none) :
    (s.merge u).response = s.response := by
  simp [merge, response, h]

theorem history_merge (s u : GraphState) :
    (s.merge u).history = s.history ++ u.messages.getD [] := rfl

end GraphState

/-! ## The edges -/

theorem route_commandDispatch {s : GraphState} {n' : Node}
    (h : route .commandDispatch s = some (.goto n')) : n' = .memoryWriter := by
  simp only [route, shouldContinueAfterDispatch] at h
  split at h
  · cases h
  · cases h
    rfl

/-- An edge into the memory writer comes from the dispatch node only. -/
theorem route_to_memoryWriter {n : Node} {s : GraphState}
    (h : route n s = some (.goto .memoryWriter)) : n = .commandDispatch := by
  have hpaths : ∀ l, mediaPaths l ≠ some (.goto .memoryWriter) ∧
      contextPaths l ≠ some (.goto .memoryWriter) ∧
      eligibilityPaths l ≠ some (.goto .memoryWriter) ∧
      agentPaths l ≠ some (.goto .memoryWriter) ∧ toolPaths l ≠ some (.goto .memoryWriter) ∧
      guardrailsPaths l ≠ some (.goto .memoryWriter) := by
    intro l
    cases l <;> decide
  cases n with
  | commandDispatch => rfl
  | eligibility => exact absurd h (hpaths _).2.2.1
  | mediaUnderstanding => exact absurd h (hpaths _).1
  | contextBuilder => exact absurd h (hpaths _).2.1
  | agent => exact absurd h (hpaths _).2.2.2.1
  | toolExecutor => exact absurd h (hpaths _).2.2.2.2.1
  | guardrails => exact absurd h (hpaths _).2.2.2.2.2
  | commandAssistant => cases h
  | hitl => cases h
  | memoryWriter => cases h

/-- An edge into the HITL node comes from the guardrails, with the flag set and
no error. -/
theorem route_to_hitl {n : Node} {s : GraphState} (h : route n s = some (.goto .hitl)) :
    n = .guardrails ∧ s.failed = false ∧ s.held = true := by
  have hpaths : ∀ l, mediaPaths l ≠ some (.goto .hitl) ∧ contextPaths l ≠ some (.goto .hitl) ∧
      eligibilityPaths l ≠ some (.goto .hitl) ∧ agentPaths l ≠ some (.goto .hitl) ∧
      toolPaths l ≠ some (.goto .hitl) ∧ dispatchPaths l ≠ some (.goto .hitl) := by
    intro l
    cases l <;> decide
  cases n with
  | guardrails =>
      simp only [route, shouldContinueAfterGuardrails] at h
      split at h
      · cases h
      next hfailed =>
        split at h
        next hheld => exact ⟨rfl, by simpa using hfailed, hheld⟩
        next => cases h
  | eligibility => exact absurd h (hpaths _).2.2.1
  | mediaUnderstanding => exact absurd h (hpaths _).1
  | contextBuilder => exact absurd h (hpaths _).2.1
  | agent => exact absurd h (hpaths _).2.2.2.1
  | toolExecutor => exact absurd h (hpaths _).2.2.2.2.1
  | commandDispatch => exact absurd h (hpaths _).2.2.2.2.2
  | commandAssistant => cases h
  | hitl => cases h
  | memoryWriter => cases h

/-- An edge into the dispatch node comes from the guardrails, with neither the
flag of a hold nor an error. -/
theorem route_to_commandDispatch {n : Node} {s : GraphState}
    (h : route n s = some (.goto .commandDispatch)) :
    n = .guardrails ∧ s.failed = false ∧ s.held = false := by
  have hpaths : ∀ l, mediaPaths l ≠ some (.goto .commandDispatch) ∧
      contextPaths l ≠ some (.goto .commandDispatch) ∧
      eligibilityPaths l ≠ some (.goto .commandDispatch) ∧
      agentPaths l ≠ some (.goto .commandDispatch) ∧
      toolPaths l ≠ some (.goto .commandDispatch) ∧
      dispatchPaths l ≠ some (.goto .commandDispatch) := by
    intro l
    cases l <;> decide
  cases n with
  | guardrails =>
      simp only [route, shouldContinueAfterGuardrails] at h
      split at h
      · cases h
      next hfailed =>
        split at h
        next => cases h
        next hheld => exact ⟨rfl, by simpa using hfailed, by simpa using hheld⟩
  | eligibility => exact absurd h (hpaths _).2.2.1
  | mediaUnderstanding => exact absurd h (hpaths _).1
  | contextBuilder => exact absurd h (hpaths _).2.1
  | agent => exact absurd h (hpaths _).2.2.2.1
  | toolExecutor => exact absurd h (hpaths _).2.2.2.2.1
  | commandDispatch => exact absurd h (hpaths _).2.2.2.2.2
  | commandAssistant => cases h
  | hitl => cases h
  | memoryWriter => cases h

/-! ## Identifiers -/

theorem superstep_post (n : Node) (s : GraphState) (w : World) :
    ((buildConversationalGraph deps).superstep n s w).post = s.merge (runNode deps n s w).1 := rfl

theorem superstep_worldAfter (n : Node) (s : GraphState) (w : World) :
    ((buildConversationalGraph deps).superstep n s w).worldAfter = (runNode deps n s w).2 := rfl

/-- The identifiers of the state a run starts from. -/
structure SameRun (s t : GraphState) : Prop where
  runId : t.runId = s.runId
  conversationId : t.conversationId = s.conversationId

theorem SameRun.merge {s t u : GraphState} {n : Node} (h : SameRun s t) (hu : NodeUpdate t n u) :
    SameRun s (t.merge u) := by
  obtain ⟨hrun, -, hconversation, -⟩ := hu.identifiers
  constructor
  · simp [GraphState.merge, hrun, h.runId]
  · simp [GraphState.merge, hconversation, h.conversationId]

/-! ## Rows and calls -/

/-- What a part of a run can do to the world, whichever nodes it visits. -/
structure RunEffect (runId : Option String) (w w' : World) : Prop where
  draws : w.draws ≤ w'.draws
  calls : ∃ more, w'.calls = w.calls ++ more
  outbox : ∃ rows, w'.outbox.rows = w.outbox.rows ++ rows ∧
    ∀ r ∈ rows, IsToolRow runId r ∨ r.idempotencyKey = responseKey runId

namespace RunEffect

variable {runId : Option String} {w w₁ w₂ : World}

theorem refl : RunEffect runId w w :=
  ⟨Nat.le_refl _, ⟨[], (List.append_nil _).symm⟩, ⟨[], (List.append_nil _).symm, by simp⟩⟩

theorem trans (h₁ : RunEffect runId w w₁) (h₂ : RunEffect runId w₁ w₂) :
    RunEffect runId w w₂ := by
  obtain ⟨more₁, hmore₁⟩ := h₁.calls
  obtain ⟨more₂, hmore₂⟩ := h₂.calls
  obtain ⟨rows₁, hrows₁, hof₁⟩ := h₁.outbox
  obtain ⟨rows₂, hrows₂, hof₂⟩ := h₂.outbox
  refine ⟨Nat.le_trans h₁.draws h₂.draws, ⟨more₁ ++ more₂, ?_⟩, ⟨rows₁ ++ rows₂, ?_, ?_⟩⟩
  · rw [hmore₂, hmore₁, List.append_assoc]
  · rw [hrows₂, hrows₁, List.append_assoc]
  · intro r hr
    rcases List.mem_append.1 hr with h | h
    · exact hof₁ r h
    · exact hof₂ r h

theorem of_node {n : Node} {s : GraphState} (h : NodeEffect n s w w₁) (hrun : s.runId = runId) :
    RunEffect runId w w₁ := by
  obtain ⟨more, hmore, -⟩ := h.calls
  obtain ⟨rows, hrows, hof⟩ := h.outbox
  refine ⟨h.draws, ⟨more, hmore⟩, ⟨rows, hrows, ?_⟩⟩
  intro r hr
  have hrow := hof r hr
  cases n with
  | toolExecutor => exact Or.inl (hrun ▸ hrow)
  | commandDispatch => exact Or.inr (hrun ▸ hrow.2.1)
  | _ => exact hrow.elim

end RunEffect

/-- Every visit of a run belongs to it and has done to the world what a run can do. -/
theorem visit_effect {limit : Nat} {n : Node} {s : GraphState} {w : World} {v : GraphVisit}
    (hv : v ∈ ((buildConversationalGraph deps).execute limit n s w).1) :
    (SameRun s v.pre ∧ RunEffect s.runId w v.worldBefore ∧ RunEffect s.runId w v.worldAfter) ∧
      v = (buildConversationalGraph deps).superstep v.node v.pre v.worldBefore := by
  have hinv : (SameRun s v.pre ∧ RunEffect s.runId w v.worldBefore) ∧
      v = (buildConversationalGraph deps).superstep v.node v.pre v.worldBefore := by
    refine (buildConversationalGraph deps).visits_invariant
      (P := fun _ t w' => SameRun s t ∧ RunEffect s.runId w w') ?_ ⟨⟨rfl, rfl⟩, .refl⟩ v hv
    intro m t w' m' ht _
    have heffect := RunEffect.of_node (runNode_effect deps m t w') ht.1.runId
    exact ⟨ht.1.merge (runNode_update deps m t w'), ht.2.trans heffect⟩
  obtain ⟨⟨hsame, hbefore⟩, hself⟩ := hinv
  refine ⟨⟨hsame, hbefore, ?_⟩, hself⟩
  rw [hself]
  exact hbefore.trans (.of_node (runNode_effect deps v.node v.pre v.worldBefore) hsame.runId)

/-- What the world is after a run. -/
theorem run_effect (limit : Nat) (n : Node) (s : GraphState) (w : World) :
    RunEffect s.runId w
      (StateGraph.worldAfter w ((buildConversationalGraph deps).execute limit n s w).1) :=
  StateGraph.worldAfter_induction .refl fun _ hv => (visit_effect hv).1.2.2

/-! ## The way to the agent -/

/-- The eligibility node accepts the job as an ordinary message. -/
def AcceptsMessage (deps : Deps) (s : GraphState) (w : World) : Prop :=
  route .eligibility (s.merge (runNode deps .eligibility s w).1) = some (.goto .mediaUnderstanding)

/-- Only the agent and the dispatch node can change whether there is an error. -/
theorem failed_post {n : Node} {s : GraphState} {w : World} (hagent : n ≠ .agent)
    (hdispatch : n ≠ .commandDispatch) :
    (s.merge (runNode deps n s w).1).failed = s.failed := by
  rcases (runNode_update deps n s w).error with hnone | ⟨-, hn | hn⟩
  · exact GraphState.failed_merge_of_none hnone
  · exact absurd hn hagent
  · exact absurd hn hdispatch

theorem steps_post (n : Node) (s : GraphState) (w : World) :
    (s.merge (runNode deps n s w).1).steps = s.steps + 1 :=
  GraphState.steps_merge (runNode_update deps n s w).stepCount

/-- An eligibility edge that does not lead to the media node ends the run there
or after the command assistant. -/
theorem route_eligibility_of_not_accepted {s : GraphState} {w : World} {n' : Node}
    (h : ¬ AcceptsMessage deps s w)
    (hroute : route .eligibility (s.merge (runNode deps .eligibility s w).1) = some (.goto n')) :
    n' = .commandAssistant := by
  by_contra hne
  apply h
  unfold AcceptsMessage
  rw [hroute]
  simp only [route, shouldContinueAfterEligibility] at hroute
  split at hroute
  · cases hroute
  · split at hroute
    · cases hroute
      exact absurd rfl hne
    · exact hroute.symm

theorem nodes_of_not_accepted {limit : Nat} {s : GraphState} {w : World}
    (h : ¬ AcceptsMessage deps s w) :
    ∀ v ∈ ((buildConversationalGraph deps).execute limit .eligibility s w).1,
      v.node = .eligibility ∨ v.node = .commandAssistant := by
  let g := buildConversationalGraph deps
  cases limit with
  | zero => simp [StateGraph.execute]
  | succ limit =>
      cases hnext : g.route .eligibility (g.superstep .eligibility s w).post with
      | none => simp [g.execute_routingError hnext, g]
      | some next =>
          cases next with
          | finish => simp [g.execute_finish hnext, g]
          | goto n' =>
              have hn' := route_eligibility_of_not_accepted h hnext
              subst hn'
              rw [g.execute_goto hnext]
              cases limit with
              | zero => simp [StateGraph.execute]
              | succ limit =>
                  rw [g.execute_finish rfl]
                  simp

/-- An accepted message whose thread has an error ends after the media node. -/
theorem nodes_of_failed {limit : Nat} {s : GraphState} {w : World}
    (h : AcceptsMessage deps s w) (hfailed : s.failed = true) :
    ((buildConversationalGraph deps).execute (limit + 2) .eligibility s w).1.map Visit.node =
      [.eligibility, .mediaUnderstanding] := by
  let g := buildConversationalGraph deps
  let s₁ := s.merge (runNode deps .eligibility s w).1
  let w₁ := (runNode deps .eligibility s w).2
  have hgoto : g.route .eligibility (g.superstep .eligibility s w).post =
      some (.goto .mediaUnderstanding) := h
  have hmedia : g.route .mediaUnderstanding (g.superstep .mediaUnderstanding s₁ w₁).post =
      some .finish := by
    have hpost : (s₁.merge (runNode deps .mediaUnderstanding s₁ w₁).1).failed = true := by
      rw [failed_post (by decide) (by decide), failed_post (by decide) (by decide), hfailed]
    change route .mediaUnderstanding (s₁.merge (runNode deps .mediaUnderstanding s₁ w₁).1) = _
    simp only [route, shouldContinueAfterMedia, hpost, if_true, mediaPaths]
  rw [g.execute_goto hgoto]
  change (_ :: (g.execute (limit + 1) .mediaUnderstanding s₁ w₁).1).map Visit.node = _
  rw [g.execute_finish hmedia]
  rfl

/-- An accepted message without an error reaches the agent after three steps,
none of which calls a model. -/
theorem execute_to_agent (limit : Nat) {s : GraphState} {w : World}
    (h : AcceptsMessage deps s w) (hfailed : s.failed = false) :
    ∃ before s₃ w₃, ((buildConversationalGraph deps).execute (limit + 4) .eligibility s w).1 =
        before ++ ((buildConversationalGraph deps).execute (limit + 1) .agent s₃ w₃).1 ∧
      s₃.steps = s.steps + 3 ∧ w₃.calls = w.calls ∧
      StateGraph.worldAfter w before = w₃ := by
  let g := buildConversationalGraph deps
  let s₁ := s.merge (runNode deps .eligibility s w).1
  let w₁ := (runNode deps .eligibility s w).2
  let s₂ := s₁.merge (runNode deps .mediaUnderstanding s₁ w₁).1
  let w₂ := (runNode deps .mediaUnderstanding s₁ w₁).2
  let s₃ := s₂.merge (runNode deps .contextBuilder s₂ w₂).1
  let w₃ := (runNode deps .contextBuilder s₂ w₂).2
  have hfailed₁ : s₁.failed = false := (failed_post (by decide) (by decide)).trans hfailed
  have hfailed₂ : s₂.failed = false := (failed_post (by decide) (by decide)).trans hfailed₁
  have hfailed₃ : s₃.failed = false := (failed_post (by decide) (by decide)).trans hfailed₂
  have hgoto : g.route .eligibility (g.superstep .eligibility s w).post =
      some (.goto .mediaUnderstanding) := h
  have hmedia : g.route .mediaUnderstanding (g.superstep .mediaUnderstanding s₁ w₁).post =
      some (.goto .contextBuilder) := by
    change route .mediaUnderstanding s₂ = _
    simp only [route, shouldContinueAfterMedia, hfailed₂, Bool.false_eq_true, if_false, mediaPaths]
  have hcontext : g.route .contextBuilder (g.superstep .contextBuilder s₂ w₂).post =
      some (.goto .agent) := by
    change route .contextBuilder s₃ = _
    simp only [route, shouldContinueAfterContext, hfailed₃, Bool.false_eq_true, if_false,
      contextPaths]
  refine ⟨[g.superstep .eligibility s w, g.superstep .mediaUnderstanding s₁ w₁,
    g.superstep .contextBuilder s₂ w₂], s₃, w₃, ?_, ?_, ?_, rfl⟩
  · rw [g.execute_goto hgoto]
    change _ :: (g.execute (limit + 3) .mediaUnderstanding s₁ w₁).1 = _
    rw [g.execute_goto hmedia]
    change _ :: _ :: (g.execute (limit + 2) .contextBuilder s₂ w₂).1 = _
    rw [g.execute_goto hcontext]
    rfl
  · rw [steps_post, steps_post, steps_post]
  · rw [runNode_calls (by decide) (by decide), runNode_calls (by decide) (by decide),
      runNode_calls (by decide) (by decide)]

/-! ## The dispatch visit -/

/-- Until the dispatch node has run, a run adds rows of tool calls only. -/
theorem tools_before_dispatch {limit : Nat} {n : Node} {s : GraphState} {w : World}
    {v : GraphVisit} (hv : v ∈ ((buildConversationalGraph deps).execute limit n s w).1)
    (hnode : v.node ≠ .memoryWriter) :
    ∃ tools, v.worldBefore.outbox.rows = w.outbox.rows ++ tools ∧
      ∀ r ∈ tools, IsToolRow s.runId r := by
  have hinv : (SameRun s v.pre ∧ (v.node ≠ .memoryWriter →
      ∃ tools, v.worldBefore.outbox.rows = w.outbox.rows ++ tools ∧
        ∀ r ∈ tools, IsToolRow s.runId r)) ∧
      v = (buildConversationalGraph deps).superstep v.node v.pre v.worldBefore := by
    refine (buildConversationalGraph deps).visits_invariant
      (P := fun m t w' => SameRun s t ∧ (m ≠ .memoryWriter →
        ∃ tools, w'.outbox.rows = w.outbox.rows ++ tools ∧ ∀ r ∈ tools, IsToolRow s.runId r))
      ?_ ⟨⟨rfl, rfl⟩, fun _ => ⟨[], (List.append_nil _).symm, by simp⟩⟩ v hv
    intro m t w' m' ht hroute
    refine ⟨ht.1.merge (runNode_update deps m t w'), ?_⟩
    intro hm'
    have hm : m ≠ .memoryWriter := by
      rintro rfl
      cases hroute
    have hdispatch : m ≠ .commandDispatch := by
      rintro rfl
      exact hm' (route_commandDispatch hroute)
    obtain ⟨tools, htools, hall⟩ := ht.2 hm
    obtain ⟨rows, hrows, hof⟩ := (runNode_effect deps m t w').outbox
    refine ⟨tools ++ rows, ?_, ?_⟩
    · rw [superstep_worldAfter, hrows, htools, List.append_assoc]
    · intro r hr
      rcases List.mem_append.1 hr with h | h
      · exact hall r h
      · have hrow := hof r h
        cases m with
        | toolExecutor => exact ht.1.runId ▸ hrow
        | commandDispatch => exact absurd rfl hdispatch
        | _ => exact hrow.elim
  exact hinv.1.2 hnode

theorem outbox_after_writer (limit k : Nat) (s : GraphState) (w : World) :
    (StateGraph.worldAfter w
        (((buildConversationalGraph deps).execute limit .memoryWriter s w).1.take k)).outbox.rows =
      w.outbox.rows := by
  cases limit with
  | zero => simp [StateGraph.execute]
  | succ limit =>
      rw [StateGraph.execute_finish _ rfl]
      cases k with
      | zero => rfl
      | succ k =>
          obtain ⟨rows, hrows, hof⟩ := (runNode_effect deps .memoryWriter s w).outbox
          have hempty : rows = [] := List.eq_nil_iff_forall_not_mem.2 fun r hr => (hof r hr).elim
          rw [hempty, List.append_nil] at hrows
          rw [List.take_succ_cons, List.take_nil]
          exact hrows

/-- From the dispatch node on, a run leaves the outbox as the node does. -/
theorem outbox_after_dispatch (limit k : Nat) (s : GraphState) (w : World) :
    (StateGraph.worldAfter w (((buildConversationalGraph deps).execute (limit + 1)
        .commandDispatch s w).1.take (k + 1))).outbox.rows =
      (runNode deps .commandDispatch s w).2.outbox.rows := by
  let g := buildConversationalGraph deps
  cases hroute : g.route .commandDispatch (g.superstep .commandDispatch s w).post with
  | none => rw [g.execute_routingError hroute, List.take_succ_cons, List.take_nil]; rfl
  | some next =>
      cases next with
      | finish => rw [g.execute_finish hroute, List.take_succ_cons, List.take_nil]; rfl
      | goto n' =>
          have hn' : n' = .memoryWriter := route_commandDispatch hroute
          subst hn'
          rw [g.execute_goto hroute, List.take_succ_cons, StateGraph.worldAfter_cons,
            outbox_after_writer]
          rfl

/-- The rows a part of a run adds: those of its tool calls and then, if it got
past the dispatch node, the one that node added. -/
theorem rows_of_take (deps : Deps) (limit : Nat) {n : Node} (s : GraphState) (w : World) (k : Nat)
    (hn : n ≠ .memoryWriter) :
    ∃ tools replies,
      (StateGraph.worldAfter w
        (((buildConversationalGraph deps).execute limit n s w).1.take k)).outbox.rows =
          w.outbox.rows ++ tools ++ replies ∧
      (∀ r ∈ tools, IsToolRow s.runId r) ∧
      (replies ≠ [] → ∃ v ∈ ((buildConversationalGraph deps).execute limit n s w).1.take k,
        v.node = .commandDispatch ∧
          v.worldAfter.outbox.rows = v.worldBefore.outbox.rows ++ replies) := by
  let g := buildConversationalGraph deps
  induction limit generalizing n s w k with
  | zero => exact ⟨[], [], by simp [StateGraph.execute], by simp, by simp⟩
  | succ limit ih =>
      cases k with
      | zero => exact ⟨[], [], by simp, by simp, by simp⟩
      | succ k =>
          obtain ⟨rows, hrows, hof⟩ := (runNode_effect deps n s w).outbox
          have hself : (g.superstep n s w).worldAfter.outbox.rows = w.outbox.rows ++ rows := hrows
          by_cases hdispatch : n = .commandDispatch
          · subst hdispatch
            refine ⟨[], rows, ?_, by simp, ?_⟩
            · rw [List.append_nil, outbox_after_dispatch]
              exact hrows
            · intro _
              obtain ⟨rest, hrest, -⟩ := g.execute_succ_head limit .commandDispatch s w
              refine ⟨g.superstep .commandDispatch s w, ?_, rfl, hself⟩
              rw [hrest, List.take_succ_cons]
              exact List.mem_cons_self
          · have htools : ∀ r ∈ rows, IsToolRow s.runId r := by
              intro r hr
              have hrow := hof r hr
              cases n with
              | toolExecutor => exact hrow
              | commandDispatch => exact absurd rfl hdispatch
              | _ => exact hrow.elim
            cases hnext : g.route n (g.superstep n s w).post with
            | none =>
                refine ⟨rows, [], ?_, htools, by simp⟩
                rw [g.execute_routingError hnext, List.append_nil, ← hself]
                cases k <;> rfl
            | some next =>
                cases next with
                | finish =>
                    refine ⟨rows, [], ?_, htools, by simp⟩
                    rw [g.execute_finish hnext, List.append_nil, ← hself]
                    cases k <;> rfl
                | goto n' =>
                    have hn' : n' ≠ .memoryWriter := by
                      rintro rfl
                      exact hdispatch (route_to_memoryWriter hnext)
                    obtain ⟨tools, replies, hrest, hall, hreply⟩ :=
                      ih (g.superstep n s w).post (g.superstep n s w).worldAfter k hn'
                    have hrun : (g.superstep n s w).post.runId = s.runId :=
                      (SameRun.merge ⟨rfl, rfl⟩ (runNode_update deps n s w)).runId
                    refine ⟨rows ++ tools, replies, ?_, ?_, ?_⟩
                    · rw [g.execute_goto hnext, List.take_succ_cons, StateGraph.worldAfter_cons,
                        hrest, hself]
                      simp only [List.append_assoc]
                    · intro r hr
                      rcases List.mem_append.1 hr with hr | hr
                      · exact htools r hr
                      · exact hrun ▸ hall r hr
                    · intro hne
                      obtain ⟨v, hv, hvnode, hvrows⟩ := hreply hne
                      refine ⟨v, ?_, hvnode, hvrows⟩
                      rw [g.execute_goto hnext, List.take_succ_cons]
                      exact List.mem_cons_of_mem _ hv

/-- A run that reaches the HITL node ends with it. -/
theorem execute_of_hitl_visit {limit : Nat} {n : Node} {s : GraphState} {w : World}
    {v : GraphVisit} (hv : v ∈ ((buildConversationalGraph deps).execute limit n s w).1)
    (hnode : v.node = .hitl) :
    ∃ before, (buildConversationalGraph deps).execute limit n s w =
      (before ++ [(buildConversationalGraph deps).superstep .hitl v.pre v.worldBefore],
        .finished) := by
  let g := buildConversationalGraph deps
  obtain ⟨before, limit', hvisits, hend⟩ := g.exists_suffix_of_mem hv
  have hlast : g.execute (limit' + 1) v.node v.pre v.worldBefore =
      ([g.superstep .hitl v.pre v.worldBefore], .finished) := by
    rw [hnode]
    exact g.execute_finish rfl
  rw [hlast] at hvisits hend
  exact ⟨before, Prod.ext hvisits hend⟩

/-! ## The flag of a hold -/

theorem held_merge {n : Node} {s u : GraphState} (hu : NodeUpdate s n u) (h : s.held = true) :
    (s.merge u).held = true := by
  rcases hu.hitlRequested with hnone | hsome
  · rw [GraphState.held_merge_of_none hnone]
    exact h
  · simp [GraphState.held, GraphState.merge, hsome]

/-! ## The flag of a sent reply -/

theorem sent_merge {n : Node} {s u : GraphState} (hu : NodeUpdate s n u) (h : s.sent = true) :
    (s.merge u).sent = true := by
  rcases hu.responseSent with hnone | ⟨hsome, -⟩
  · rw [GraphState.sent_merge_of_none hnone]
    exact h
  · simp [GraphState.merge, GraphState.sent, hsome]

theorem sent_merge_of_some {s u : GraphState} (h : u.responseSent = some true) :
    (s.merge u).sent = true := by
  simp [GraphState.merge, GraphState.sent, h]

/-- A part of a run keeps a sent reply. -/
theorem sent_stateAfter_take {limit : Nat} {n : Node} {s : GraphState} {w : World} (k : Nat)
    (h : s.sent = true) :
    (StateGraph.stateAfter s
      (((buildConversationalGraph deps).execute limit n s w).1.take k)).sent = true := by
  refine StateGraph.stateAfter_induction (P := fun (t : GraphState) => t.sent = true) h ?_
  intro v hv
  refine ((buildConversationalGraph deps).visits_preserve
    (P := fun (t : GraphState) _ => t.sent = true) ?_ h v (List.mem_of_mem_take hv)).2
  intro m t w' ht
  exact sent_merge (runNode_update deps m t w') ht

/-- A visit that ends with a sent reply leaves it to the end of the part. -/
theorem sent_stateAfter_of_mem {limit : Nat} {n : Node} {s : GraphState} {w : World} {k : Nat}
    {v : GraphVisit} (hv : v ∈ ((buildConversationalGraph deps).execute limit n s w).1.take k)
    (h : v.post.sent = true) :
    (StateGraph.stateAfter s
      (((buildConversationalGraph deps).execute limit n s w).1.take k)).sent = true := by
  let g := buildConversationalGraph deps
  induction limit generalizing n s w k with
  | zero => simp [StateGraph.execute] at hv
  | succ limit ih =>
      obtain ⟨rest, hrest, hfrom⟩ := g.execute_succ_head limit n s w
      cases k with
      | zero => simp at hv
      | succ k =>
          rw [hrest, List.take_succ_cons] at hv ⊢
          rw [StateGraph.stateAfter_cons]
          rcases hfrom with rfl | ⟨n', rfl⟩
          · rw [List.take_nil, List.mem_singleton] at hv
            rw [← hv, List.take_nil]
            exact h
          · rcases List.mem_cons.1 hv with hself | hv
            · rw [← hself]
              exact sent_stateAfter_take k h
            · exact ih hv

/-- Until the dispatch node has run, no visited node reports a reply as sent. -/
theorem sent_of_visit {limit : Nat} {n : Node} {s : GraphState} {w : World} {v : GraphVisit}
    (hv : v ∈ ((buildConversationalGraph deps).execute limit n s w).1)
    (hnode : v.node ≠ .memoryWriter) : v.pre.sent = s.sent := by
  have hinv : (v.node ≠ .memoryWriter → v.pre.sent = s.sent) ∧
      v = (buildConversationalGraph deps).superstep v.node v.pre v.worldBefore := by
    refine (buildConversationalGraph deps).visits_invariant
      (P := fun m (t : GraphState) _ => m ≠ .memoryWriter → t.sent = s.sent) ?_ (fun _ => rfl) v hv
    intro m t w' m' ht hroute hm'
    have hwriter : m ≠ .memoryWriter := by
      rintro rfl
      cases hroute
    rcases (runNode_update deps m t w').responseSent with hnone | ⟨-, hm⟩
    · rw [superstep_post, GraphState.sent_merge_of_none hnone]
      exact ht hwriter
    · rcases hm with rfl | rfl
      · exact absurd (route_commandDispatch hroute) hm'
      · cases hroute
  exact hinv.1 hnode

end Iara.Graph
