import Iara.Graph.Runs
import Iara.Lib.PyLines
import Iara.Workers.History

/-!
# Guarded replies

The dispatch node is entered from the guardrails only, and what it sends is what
they left: a text from which every line with an internal marker was taken, or
the fixed refusal.
-/

namespace Iara.Graph

open Iara.Lib Iara.Persistence

section Markers

variable {text : PyText} {sub : List Char}

/-- Taking lines out of a text adds nothing to it. -/
theorem infix_of_stripMarker (hlower : text.LowersWords) (hbreak : '\n' ∉ sub) (hne : sub ≠ [])
    {result marker : String} (h : sub <:+: (text.lower (stripMarker text result marker)).toList) :
    sub <:+: (text.lower result).toList := by
  unfold stripMarker at h
  split at h
  · obtain ⟨line, hline, hsub⟩ := (PyStr.infix_lower_join_iff hlower hbreak hne _).mp h
    have hparts := (PyStr.infix_lower_join_iff hlower hbreak hne (PyStr.lines result)).mpr
      ⟨line, List.mem_of_mem_filter hline, hsub⟩
    rwa [PyStr.join_lines] at hparts
  · exact h

theorem infix_of_foldl_stripMarker (hlower : text.LowersWords) (hbreak : '\n' ∉ sub)
    (hne : sub ≠ []) {markers : List String} {result : String}
    (h : sub <:+: (text.lower (markers.foldl (stripMarker text) result)).toList) :
    sub <:+: (text.lower result).toList := by
  induction markers generalizing result with
  | nil => exact h
  | cons marker markers ih => exact infix_of_stripMarker hlower hbreak hne (ih h)

/-- One round leaves no line with its own marker. -/
theorem not_infix_stripMarker (hlower : text.LowersWords) {marker : String}
    (hbreak : '\n' ∉ (text.lower marker).toList) (hne : (text.lower marker).toList ≠ [])
    (result : String) :
    ¬ (text.lower marker).toList <:+: (text.lower (stripMarker text result marker)).toList := by
  intro h
  unfold stripMarker at h
  split at h
  · obtain ⟨line, hline, hsub⟩ := (PyStr.infix_lower_join_iff hlower hbreak hne _).mp h
    have hclean := (List.mem_filter.mp hline).2
    rw [PyStr.contains_iff.mpr hsub] at hclean
    cases hclean
  next hcontains => exact hcontains (PyStr.contains_iff.mpr h)

/-- The markers in lower case are words of their own. -/
theorem lower_marker (hlower : text.LowersWords) {marker : String} (h : marker ∈ internalMarkers) :
    '\n' ∉ (text.lower marker).toList ∧ (text.lower marker).toList ≠ [] := by
  have hascii : ∀ m ∈ internalMarkers, ∀ c ∈ m.toList, c.toNat < 128 := by
    simp [internalMarkers]
  have hwords : ∀ m ∈ internalMarkers,
      '\n' ∉ m.toList.map Char.toLower ∧ m.toList.map Char.toLower ≠ [] := by
    decide +kernel
  have hmap := hlower.ascii marker.toList (hascii marker h)
  rw [String.ofList_toList] at hmap
  rw [hmap, String.toList_ofList]
  exact hwords marker h

/-- No marker is left in a stripped response, in whatever case. -/
theorem contains_stripInternalMarkers (hlower : text.LowersWords) {marker : String}
    (hmarker : marker ∈ internalMarkers) (response : String) :
    PyStr.contains (text.lower (stripInternalMarkers text response)) (text.lower marker) =
      false := by
  obtain ⟨hbreak, hne⟩ := lower_marker hlower hmarker
  rw [Bool.eq_false_iff, ne_eq, PyStr.contains_iff]
  intro h
  have hfold := h.trans (PyStr.lower_strip_infix hlower _)
  obtain ⟨before, after, hsplit⟩ := List.append_of_mem hmarker
  rw [hsplit, List.foldl_append, List.foldl_cons] at hfold
  exact not_infix_stripMarker hlower hbreak hne _
    (infix_of_foldl_stripMarker hlower hbreak hne hfold)

end Markers

/-! ## What the guardrails leave -/

section Guard

variable {filters : GuardrailFilters} {deps : Deps} {s : GraphState} {w : World}

/-- The response that the guardrails look at, without the lines they take out. -/
def sanitized (filters : GuardrailFilters) (s : GraphState) : String :=
  stripInternalMarkers filters.text (s.response.getD "")

def HasResponse (s : GraphState) : Prop := PyStr.truthy (s.response.getD "") = true

def Blocked (filters : GuardrailFilters) (s : GraphState) : Prop :=
  (PyStr.truthy (sanitized filters s) &&
    filters.containsBlockedContent (sanitized filters s)) = true

/-- The guardrails come to the response and find it looping or of low confidence. -/
def Flagged (filters : GuardrailFilters) (s : GraphState) : Prop :=
  HasResponse s ∧ ¬ Blocked filters s ∧
    (isLooping filters.text (sanitized filters s) (s.responseHistory.getD []) = true ∨
      isLowConfidence filters (sanitized filters s) = true)

/-- A text with none of the markers and nothing on the blocklist. -/
structure Clean (filters : GuardrailFilters) (content : String) : Prop where
  markers : ∀ marker ∈ internalMarkers,
    PyStr.contains (filters.text.lower content) (filters.text.lower marker) = false
  blocklist : filters.containsBlockedContent content = false

/-- What the node returns, and why. -/
inductive GuardrailsOutcome (filters : GuardrailFilters) (s : GraphState) : GraphState → Prop
  | idle (hempty : ¬ HasResponse s) : GuardrailsOutcome filters s
      { stepCount := some (s.steps + 1) }
  | blocked (hblocked : Blocked filters s) : GuardrailsOutcome filters s
      { agentResponse := some (some blockedResponse)
        stepCount := some (s.steps + 1) }
  | flagged (reason history) (hflagged : Flagged filters s) : GuardrailsOutcome filters s
      { agentResponse := some (some hitlEscalationResponse)
        hitlRequested := some true
        hitlReason := some reason
        responseHistory := some history
        stepCount := some (s.steps + 1) }
  | passed (history) (hblocked : ¬ Blocked filters s) (hflagged : ¬ Flagged filters s) :
      GuardrailsOutcome filters s
        { agentResponse := some (some (sanitized filters s))
          responseHistory := some history
          stepCount := some (s.steps + 1) }

theorem guardrailsNode_outcome (filters : GuardrailFilters) (s : GraphState) (w : World) :
    GuardrailsOutcome filters s (guardrailsNode filters s w).1 := by
  unfold guardrailsNode
  simp only
  split
  next hempty => exact .idle (by simpa [HasResponse] using hempty)
  next hresponse =>
    have hresponse' : HasResponse s := by simpa [HasResponse] using hresponse
    split
    next hblocked => exact .blocked hblocked
    next hblocked =>
      split
      next hloop => exact .flagged _ _ ⟨hresponse', hblocked, .inl hloop⟩
      next hloop =>
        split
        next hlow => exact .flagged _ _ ⟨hresponse', hblocked, .inr hlow⟩
        next hlow =>
          refine .passed _ hblocked ?_
          rintro ⟨-, -, hfound | hfound⟩
          · exact hloop hfound
          · exact hlow hfound

theorem held_of_flagged (h : Flagged filters s) :
    (s.merge (guardrailsNode filters s w).1).held = true := by
  have houtcome := guardrailsNode_outcome filters s w
  generalize (guardrailsNode filters s w).1 = u at houtcome ⊢
  cases houtcome with
  | idle hempty => exact absurd h.1 hempty
  | blocked hblocked => exact absurd hblocked h.2.1
  | flagged reason history hflagged => rfl
  | passed history hblocked hflagged => exact absurd h hflagged

/-- A response that is there after the guardrails and not held is the refusal or
clean. -/
theorem clean_of_guardrails (hlower : filters.text.LowersWords) {content : String}
    (hheld : (s.merge (guardrailsNode filters s w).1).held = false)
    (hcontent : (s.merge (guardrailsNode filters s w).1).response.getD "" = content)
    (hne : PyStr.truthy content = true) :
    (s.merge (guardrailsNode filters s w).1).response = some content ∧
      (content = blockedResponse ∨ Clean filters content) ∧ ¬ Flagged filters s := by
  have hnot : ¬ Flagged filters s := fun h => by simp [held_of_flagged h] at hheld
  have houtcome := guardrailsNode_outcome filters s w
  generalize (guardrailsNode filters s w).1 = u at houtcome hheld hcontent ⊢
  cases houtcome with
  | idle hempty =>
      rw [GraphState.response_merge_of_none rfl] at hcontent
      have hresponse : HasResponse s := by
        unfold HasResponse
        rw [hcontent]
        exact hne
      exact absurd hresponse hempty
  | blocked hblocked =>
      rw [GraphState.response_merge_of_some rfl, Option.getD_some] at hcontent
      obtain rfl := hcontent
      exact ⟨rfl, .inl rfl, hnot⟩
  | flagged reason history hflagged => cases hheld
  | passed history hblocked hflagged =>
      have hresponse := GraphState.response_merge_of_some (s := s)
        (u := { agentResponse := some (some (sanitized filters s))
                responseHistory := some history
                stepCount := some (s.steps + 1) }) rfl
      rw [hresponse, Option.getD_some] at hcontent
      have hclean : Clean filters content := by
        refine ⟨fun marker hmarker => ?_, ?_⟩
        · rw [← hcontent]
          exact contains_stripInternalMarkers hlower hmarker _
        · unfold Blocked at hblocked
          rw [hcontent, hne, Bool.true_and, Bool.not_eq_true] at hblocked
          exact hblocked
      exact ⟨hresponse.trans (congrArg some hcontent), .inr hclean, hnot⟩

end Guard

/-! ## The way into the dispatch node -/

section Runs

variable {deps : Deps} {limit : Nat} {s : GraphState} {w : World} {u v : GraphVisit}

/-- A visit of the dispatch node starts in the state that a visit of the
guardrails left. -/
theorem guardrails_before_dispatch
    (hv : v ∈ ((buildConversationalGraph deps).execute limit .eligibility s w).1)
    (hnode : v.node = .commandDispatch) :
    ∃ u ∈ ((buildConversationalGraph deps).execute limit .eligibility s w).1,
      u.node = .guardrails ∧
        v.pre = u.pre.merge (guardrailsNode deps.filters u.pre u.worldBefore).1 ∧
        u.post = v.pre ∧ v.pre.held = false := by
  rcases (buildConversationalGraph deps).eq_first_or_exists_pred hv with rfl | ⟨u, hu, hroute, hpre⟩
  · cases hnode
  · rw [hnode] at hroute
    obtain ⟨hguard, -, hheld⟩ := route_to_commandDispatch hroute
    have hself := (visit_effect hu).2
    rw [hguard] at hself
    refine ⟨u, hu, hguard, ?_, hpre.symm, hpre ▸ hheld⟩
    rw [hpre, hself]
    rfl

/-- After a flagged response a run goes to the HITL node or ends. -/
theorem no_dispatch_after_flagged (hflagged : Flagged deps.filters s)
    (hv : v ∈ ((buildConversationalGraph deps).execute limit .guardrails s w).1) :
    v.node ≠ .commandDispatch := by
  have hinv := (buildConversationalGraph deps).visits_invariant
    (P := fun n (t : GraphState) w' => (n = .guardrails ∧ t = s ∧ w' = w) ∨ n = .hitl)
    ?_ (.inl ⟨rfl, rfl, rfl⟩) v hv
  · rcases hinv.1 with ⟨hnode, -, -⟩ | hnode <;> simp [hnode]
  · intro n t w' n' ht hroute
    rcases ht with ⟨rfl, rfl, rfl⟩ | rfl
    · have hheld := held_of_flagged (w := w') hflagged
      change route .guardrails (t.merge (guardrailsNode deps.filters t w').1) = _ at hroute
      simp only [route, shouldContinueAfterGuardrails, hheld, if_true] at hroute
      split at hroute <;> cases hroute
      exact .inr rfl
    · cases hroute

theorem nodes_of_memoryWriter
    (hv : v ∈ ((buildConversationalGraph deps).execute limit .memoryWriter s w).1) :
    v.node = .memoryWriter := by
  refine ((buildConversationalGraph deps).visits_invariant
    (P := fun n (_ : GraphState) _ => n = .memoryWriter) ?_ rfl v hv).1
  rintro n t w' n' rfl hroute
  cases hroute

/-- A run in which the guardrails flag a response does not come to the dispatch
node. -/
theorem no_dispatch_of_flagged {n : Node}
    (hu : u ∈ ((buildConversationalGraph deps).execute limit n s w).1)
    (hguard : u.node = .guardrails) (hflagged : Flagged deps.filters u.pre)
    (hv : v ∈ ((buildConversationalGraph deps).execute limit n s w).1) :
    v.node ≠ .commandDispatch := by
  let g := buildConversationalGraph deps
  induction limit generalizing n s w with
  | zero => simp [StateGraph.execute] at hu
  | succ limit ih =>
      by_cases hfirst : u = g.superstep n s w
      · obtain rfl : n = .guardrails := by
          rw [hfirst] at hguard
          exact hguard
        rw [hfirst] at hflagged
        exact no_dispatch_after_flagged hflagged hv
      · cases hnext : g.route n (g.superstep n s w).post with
        | none =>
            rw [g.execute_routingError hnext, List.mem_singleton] at hu
            exact absurd hu hfirst
        | some next =>
            cases next with
            | finish =>
                rw [g.execute_finish hnext, List.mem_singleton] at hu
                exact absurd hu hfirst
            | goto n' =>
                rw [g.execute_goto hnext] at hu hv
                have hrest := (List.mem_cons.1 hu).resolve_left hfirst
                rcases List.mem_cons.1 hv with rfl | hv
                · -- after the dispatch node only the memory writer is left
                  intro hdispatch
                  obtain rfl : n = .commandDispatch := hdispatch
                  obtain rfl := route_commandDispatch hnext
                  rw [nodes_of_memoryWriter hrest] at hguard
                  cases hguard
                · exact ih hrest hv

/-- A row of the dispatch node holds the response it was given, which is not
empty. -/
theorem content_of_dispatch {rows : List OutboxRow} {r : OutboxRow}
    (hrows : (runNode deps .commandDispatch s w).2.outbox.rows = w.outbox.rows ++ rows)
    (hr : r ∈ rows) :
    r.parametersJson.lookup "content" = some (.str (s.response.getD "")) ∧ HasResponse s := by
  obtain ⟨rows', hrows', hof⟩ := (runNode_effect deps .commandDispatch s w).outbox
  obtain rfl : rows = rows' := List.append_cancel_left (hrows.symm.trans hrows')
  obtain ⟨-, -, hparameters⟩ : IsReplyRow s r := hof r hr
  refine ⟨by rw [hparameters]; rfl, ?_⟩
  have hchanged : (runNode deps .commandDispatch s w).2.outbox.rows ≠ w.outbox.rows := by
    rw [hrows]
    intro hsame
    obtain rfl : rows = [] := by simpa using hsame
    cases hr
  unfold runNode at hchanged
  cases hservice : deps.outboxService with
  | none =>
      rw [hservice] at hchanged
      refine absurd ?_ hchanged
      unfold commandDispatchNode
      simp only
      split <;> rfl
  | some service =>
      rw [hservice] at hchanged
      exact (commandDispatchNode_of_changed hchanged).2.1

/-- Whatever the dispatch node sends is what the guardrails of the same run left,
clean or the refusal, and a run with a flagged response does not come there. -/
theorem dispatched_guarded (deps : Deps) (hlower : deps.filters.text.LowersWords) (limit : Nat)
    (s : GraphState) (w : World) :
    (∀ v ∈ ((buildConversationalGraph deps).execute limit .eligibility s w).1,
      v.node = .commandDispatch →
      ∀ rows, v.worldAfter.outbox.rows = v.worldBefore.outbox.rows ++ rows → ∀ r ∈ rows,
        ∃ content, r.parametersJson.lookup "content" = some (.str content) ∧
          (content = blockedResponse ∨ Clean deps.filters content) ∧
          ∃ u ∈ ((buildConversationalGraph deps).execute limit .eligibility s w).1,
            u.node = .guardrails ∧ u.post.response = some content ∧
              ¬ Flagged deps.filters u.pre) ∧
    ∀ u ∈ ((buildConversationalGraph deps).execute limit .eligibility s w).1,
      u.node = .guardrails → Flagged deps.filters u.pre →
      ∀ v ∈ ((buildConversationalGraph deps).execute limit .eligibility s w).1,
        v.node ≠ .commandDispatch := by
  refine ⟨fun v hv hnode rows hrows r hr => ?_, fun u hu hguard hflagged v hv =>
    no_dispatch_of_flagged hu hguard hflagged hv⟩
  obtain ⟨u, hu, hguard, hpre, hpost, hheld⟩ := guardrails_before_dispatch hv hnode
  have hself := (visit_effect hv).2
  rw [hnode] at hself
  have hafter : v.worldAfter = (runNode deps .commandDispatch v.pre v.worldBefore).2 :=
    congrArg Visit.worldAfter hself
  rw [hafter] at hrows
  obtain ⟨hcontent, hne⟩ := content_of_dispatch hrows hr
  rw [hpre] at hheld
  obtain ⟨hresponse, hclean, hnot⟩ :=
    clean_of_guardrails hlower hheld (congrArg (·.response.getD "") hpre.symm) hne
  refine ⟨_, hcontent, hclean, u, hu, hguard, ?_, hnot⟩
  rw [hpost]
  rw [← hpre] at hresponse
  exact hresponse

end Runs

/-! ## A leaking model -/

section Example

open Iara.Workers

/-- Answers with a line of its own planning. -/
def leakingLlm : Llm where
  ainvoke _ _ _ := .ok { content := .text "tool_call: agenda\nOi" }

def leakingDeps : Deps :=
  { (plainWorker leakingLlm).deps.deps with
    filters :=
      { text := asciiText
        containsBlockedContent := fun content => PyStr.contains content "idiota"
        lowConfidencePatterns := [] } }

def hello : GraphState := greeting.initialState "correlation" "run"

/-- The line of planning is not sent. -/
theorem leakingDeps_guarded :
    (((buildConversationalGraph leakingDeps).execute 25 .eligibility hello {}).1.map
        fun v => (v.node, v.post.response)) =
      [(.eligibility, none), (.mediaUnderstanding, none), (.contextBuilder, none),
        (.agent, some "tool_call: agenda\nOi"), (.guardrails, some "Oi"),
        (.commandDispatch, some "Oi"), (.memoryWriter, some "Oi")] ∧
    ∀ v ∈ ((buildConversationalGraph leakingDeps).execute 25 .eligibility hello {}).1,
      v.node = .commandDispatch →
      ∀ rows, v.worldAfter.outbox.rows = v.worldBefore.outbox.rows ++ rows → ∀ r ∈ rows,
        ∃ content, r.parametersJson.lookup "content" = some (.str content) ∧
          (content = blockedResponse ∨ Clean leakingDeps.filters content) := by
  refine ⟨by decide +kernel, fun v hv hnode rows hrows r hr => ?_⟩
  obtain ⟨content, hcontent, hclean, -⟩ :=
    (dispatched_guarded leakingDeps asciiText_lowersWords 25 hello {}).1 v hv hnode rows hrows r hr
  exact ⟨content, hcontent, hclean⟩

end Example

end Iara.Graph
