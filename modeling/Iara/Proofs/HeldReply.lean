import Iara.Graph.Loop
import Iara.Proofs.GuardedReplies

/-!
# The reply of a held run

The text that the guardrails choose for a held conversation stays in the state:
the HITL node ends the run, and only the dispatch node enqueues replies.
-/

namespace Iara.Graph

open Iara.Lib Iara.Persistence

variable {deps : Deps} {limit : Nat} {s : GraphState} {w : World} {v : GraphVisit}

/-- The row sends the text to the conversation. -/
def Sends (conversationId content : String) (r : OutboxRow) : Prop :=
  r.capabilityName = sendMessage ∧ r.parametersJson = replyParameters conversationId content

instance (conversationId content : String) : DecidablePred (Sends conversationId content) :=
  fun r => inferInstanceAs (Decidable (r.capabilityName = sendMessage ∧
    r.parametersJson = replyParameters conversationId content))

/-- The run that starts in `s` and `w`. -/
def runFrom (deps : Deps) (limit : Nat) (s : GraphState) (w : World) : List GraphVisit :=
  ((buildConversationalGraph deps).execute limit .eligibility s w).1

/-- The guardrails send the run to the HITL node. -/
def SentToHitl (v : GraphVisit) : Prop :=
  v.node = .guardrails ∧ route .guardrails v.post = some (.goto .hitl)

/-- From the choice of the text to the end of the run, exactly one row comes into
the outbox that sends it to the conversation. -/
def Told (conversationId : String) (chosen ended : World) : Prop :=
  ∃ rows, ended.outbox.rows = chosen.outbox.rows ++ rows ∧
    rows.countP (fun r => decide (Sends conversationId hitlEscalationResponse r)) = 1

/-! ## The choice -/

/-- The guardrails are entered from the agent, on a conversation that is not held. -/
theorem route_to_guardrails {n : Node} (h : route n s = some (.goto .guardrails)) :
    n = .agent ∧ s.held = false := by
  have hedge := edge_of_route h
  cases hedge
  refine ⟨rfl, ?_⟩
  simp only [route, shouldContinueAfterAgent] at h
  split at h
  · cases h
  · split at h
    · cases h
    next hheld => simpa using hheld

/-- What sends a run to the HITL node is a response that the guardrails flag. -/
theorem flagged_of_sentToHitl (hv : v ∈ runFrom deps limit s w) (h : SentToHitl v) :
    Flagged deps.filters v.pre ∧ v.post.response = some hitlEscalationResponse := by
  obtain ⟨hnode, hroute⟩ := h
  have hbefore : v.pre.held = false := by
    rcases (buildConversationalGraph deps).eq_first_or_exists_pred hv with rfl | ⟨u, -, hedge, hpre⟩
    · cases hnode
    · rw [hnode] at hedge
      rw [hpre]
      exact (route_to_guardrails hedge).2
  have hpost : v.post = v.pre.merge (guardrailsNode deps.filters v.pre v.worldBefore).1 := by
    have hself := congrArg Visit.post (visit_effect hv).2
    rw [hnode] at hself
    exact hself
  have hheld := (route_to_hitl hroute).2.2
  have houtcome := guardrailsNode_outcome deps.filters v.pre v.worldBefore
  rw [hpost] at hheld ⊢
  generalize (guardrailsNode deps.filters v.pre v.worldBefore).1 = u at houtcome hheld
  cases houtcome with
  | flagged reason history hflagged => exact ⟨hflagged, rfl⟩
  | _ =>
      rw [GraphState.held_merge_of_none rfl, hbefore] at hheld
      cases hheld

/-! ## The rest of the run -/

/-- Nodes that enqueue nothing. -/
theorem outbox_of_quiet {n : Node} (htools : n ≠ .toolExecutor) (hdispatch : n ≠ .commandDispatch) :
    (runNode deps n s w).2.outbox.rows = w.outbox.rows := by
  obtain ⟨rows, hrows, hof⟩ := (runNode_effect deps n s w).outbox
  have hempty : rows = [] := by
    refine List.eq_nil_iff_forall_not_mem.2 fun r hr => ?_
    have hrow := hof r hr
    cases n with
    | toolExecutor => exact absurd rfl htools
    | commandDispatch => exact absurd rfl hdispatch
    | _ => exact hrow
  rw [hrows, hempty, List.append_nil]

/-- From the choice of the text on, the outbox stays as it is. -/
theorem outbox_of_sentToHitl (hv : v ∈ runFrom deps limit s w) (h : SentToHitl v) :
    (StateGraph.worldAfter w (runFrom deps limit s w)).outbox.rows = v.worldBefore.outbox.rows := by
  let g := buildConversationalGraph deps
  obtain ⟨hnode, hroute⟩ := h
  obtain ⟨before, limit', hvisits, -⟩ := g.exists_suffix_of_mem hv
  have hself := (visit_effect hv).2
  rw [hnode] at hself hvisits
  have hgoto : g.route .guardrails (g.superstep .guardrails v.pre v.worldBefore).post =
      some (.goto .hitl) := by
    rw [← show v = g.superstep .guardrails v.pre v.worldBefore from hself]
    exact hroute
  have hguardrails : (g.superstep .guardrails v.pre v.worldBefore).worldAfter.outbox.rows =
      v.worldBefore.outbox.rows := outbox_of_quiet (by decide) (by decide)
  rw [g.execute_goto hgoto] at hvisits
  unfold runFrom
  rw [hvisits, StateGraph.worldAfter_append, StateGraph.worldAfter_cons]
  cases limit' with
  | zero => exact hguardrails
  | succ limit' =>
      have hhitl : (g.execute (limit' + 1) .hitl (g.superstep .guardrails v.pre v.worldBefore).post
          (g.superstep .guardrails v.pre v.worldBefore).worldAfter).1 =
          [g.superstep .hitl (g.superstep .guardrails v.pre v.worldBefore).post
            (g.superstep .guardrails v.pre v.worldBefore).worldAfter] := by
        rw [g.execute_finish rfl]
      rw [hhitl]
      exact (outbox_of_quiet (by decide) (by decide)).trans hguardrails

/-- A run that the guardrails send to the HITL node never tells: the text is in the
state, no visit of the run dispatches, its rows are those of tool calls, and none
comes into the outbox after the choice. -/
theorem sentToHitl_not_told (deps : Deps) (limit : Nat) (s : GraphState) (w : World)
    (v : GraphVisit) (hv : v ∈ runFrom deps limit s w) (h : SentToHitl v) :
    let ended := StateGraph.worldAfter w (runFrom deps limit s w)
    v.post.response = some hitlEscalationResponse ∧
      ¬ Told (s.conversationId.getD "") v.worldBefore ended ∧
      ended.outbox.rows = v.worldBefore.outbox.rows ∧
      (∀ u ∈ runFrom deps limit s w, u.node ≠ .commandDispatch) ∧
      ∃ tools, ended.outbox.rows = w.outbox.rows ++ tools ∧ ∀ r ∈ tools, IsToolRow s.runId r := by
  intro ended
  obtain ⟨hflagged, hresponse⟩ := flagged_of_sentToHitl hv h
  have hsame : ended.outbox.rows = v.worldBefore.outbox.rows := outbox_of_sentToHitl hv h
  have hnot : v.node ≠ .memoryWriter := by
    rw [h.1]
    decide
  obtain ⟨tools, htools, hall⟩ := tools_before_dispatch hv hnot
  refine ⟨hresponse, ?_, hsame, ?_, tools, hsame.trans htools, hall⟩
  · rintro ⟨rows, hrows, hone⟩
    have hempty : rows = [] := by
      rw [hsame] at hrows
      exact List.append_cancel_left (hrows.symm.trans (List.append_nil _).symm)
    rw [hempty] at hone
    cases hone
  · intro u hu
    exact no_dispatch_of_flagged hv h.1 hflagged hu

section Example

open Iara.Workers

def unsure : Llm where
  ainvoke _ _ _ := .ok { content := .text "Não tenho certeza." }

/-- The model hedges, and the guardrails know the phrase. -/
def unsureDeps : Deps :=
  { (plainWorker unsure).deps.deps with
    filters :=
      { text := asciiText
        containsBlockedContent := fun _ => false
        lowConfidencePatterns := [fun response => PyStr.contains response "ão tenho certeza"] } }

def unsureStart : GraphState := greeting.initialState "correlation" "run"

/-- The world at the end of the run. -/
def unsureEnd : World := StateGraph.worldAfter {} (runFrom unsureDeps 25 unsureStart {})

theorem exists_sentToHitl_unsure : ∃ v ∈ runFrom unsureDeps 25 unsureStart {}, SentToHitl v := by
  unfold SentToHitl
  decide +kernel

theorem unsure_not_told :
    ∃ v ∈ runFrom unsureDeps 25 unsureStart {}, SentToHitl v ∧
      v.post.response = some hitlEscalationResponse ∧
        unsureEnd.outbox.rows = v.worldBefore.outbox.rows := by
  unfold unsureEnd
  obtain ⟨v, hv, h⟩ := exists_sentToHitl_unsure
  obtain ⟨hresponse, -, hsame, -⟩ := sentToHitl_not_told unsureDeps 25 unsureStart {} v hv h
  exact ⟨v, hv, h, hresponse, hsame⟩

/-- The run is held, and the outbox is still empty at its end. -/
theorem unsure_outbox :
    (∃ v ∈ runFrom unsureDeps 25 unsureStart {}, SentToHitl v) ∧
      unsureEnd.outbox.rows = [] ∧
      ∀ v ∈ runFrom unsureDeps 25 unsureStart {}, ¬ Told "7" v.worldBefore unsureEnd := by
  have hempty : unsureEnd.outbox.rows = [] := by decide +kernel
  refine ⟨exists_sentToHitl_unsure, hempty, ?_⟩
  rintro v - ⟨rows, hrows, hone⟩
  rw [hempty] at hrows
  rw [(List.append_eq_nil_iff.1 hrows.symm).2] at hone
  cases hone

end Example

end Iara.Graph
