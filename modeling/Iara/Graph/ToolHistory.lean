import Iara.Graph.Loop

/-!
# The history of tool calls

What it is for a history of messages to answer its requests, and what the nodes
of the loop append.
-/

namespace Iara.Graph

open Iara.Lib Iara.Persistence Iara.Tools

variable {deps : Deps} {s u : GraphState} {w : World} {n n' : Node} {messages more : List Message}

/-- The ids of the tool messages that a history starts with. -/
def leadingAnswers : List Message → List String
  | .tool id _ :: rest => id :: leadingAnswers rest
  | _ => []

/-- Each assistant message with tool calls is followed by exactly one tool message
per call, in the same order and with the same ids. -/
def Answered : List Message → Prop
  | .assistant _ calls :: rest =>
      (calls ≠ [] → (leadingAnswers rest).map some = calls.map LlmToolCall.id) ∧ Answered rest
  | _ :: rest => Answered rest
  | [] => True

instance decidableAnswered : (messages : List Message) → Decidable (Answered messages)
  | [] => isTrue trivial
  | .assistant _ calls :: rest =>
      have := decidableAnswered rest
      inferInstanceAs
        (Decidable ((calls ≠ [] → (leadingAnswers rest).map some = calls.map LlmToolCall.id) ∧ _))
  | .system _ :: rest => decidableAnswered rest
  | .user _ :: rest => decidableAnswered rest
  | .tool _ _ :: rest => decidableAnswered rest

theorem leadingAnswers_append (h : leadingAnswers more = []) :
    leadingAnswers (messages ++ more) = leadingAnswers messages := by
  induction messages with
  | nil => exact h
  | cons m rest ih =>
      cases m with
      | tool id content => exact congrArg (id :: ·) ih
      | _ => rfl

/-- A history that answers its requests goes on with one that does, and does not
start with a tool message. -/
theorem Answered.append (h : Answered messages) (hstart : leadingAnswers more = [])
    (hmore : Answered more) : Answered (messages ++ more) := by
  induction messages with
  | nil => exact hmore
  | cons m rest ih =>
      cases m with
      | assistant content calls =>
          refine ⟨fun hcalls => ?_, ih h.2⟩
          have hsame : leadingAnswers (rest ++ more) = leadingAnswers rest :=
            leadingAnswers_append hstart
          change (leadingAnswers (rest ++ more)).map some = calls.map LlmToolCall.id
          rw [hsame]
          exact h.1 hcalls
      | _ => exact ih h

theorem Answered.right (h : Answered (messages ++ more)) : Answered more := by
  induction messages with
  | nil => exact h
  | cons m rest ih =>
      cases m with
      | assistant content calls => exact ih h.2
      | _ => exact ih h

/-- Texts of the user and of the assistant. -/
theorem Answered.append_texts (h : Answered messages)
    (htexts : ∀ m ∈ more, ∃ content, m = .user content ∨ m = .assistant content []) :
    Answered (messages ++ more) := by
  have hmore : leadingAnswers more = [] ∧ Answered more := by
    induction more with
    | nil => exact ⟨rfl, trivial⟩
    | cons m rest ih =>
        have hrest := (ih fun m' hm' => htexts m' (List.mem_cons_of_mem _ hm')).2
        obtain ⟨content, rfl | rfl⟩ := htexts m List.mem_cons_self
        · exact ⟨rfl, hrest⟩
        · exact ⟨rfl, fun hcalls => absurd rfl hcalls, hrest⟩
  exact h.append hmore.1 hmore.2

/-! ## The messages of the tool executor -/

def ToolMessage (m : Message) : Prop :=
  ∃ id content, m = .tool id content ∧ PyStr.truthy id = true

theorem toolMessage_of_mem {results : List ToolResult} {m : Message}
    (h : m ∈ toolMessages results) : ToolMessage m := by
  obtain ⟨r, -, hr⟩ := List.mem_filterMap.mp h
  cases hid : r.callId with
  | none => simp [hid] at hr
  | some id =>
      by_cases htruthy : PyStr.truthy id = true
      · simp only [hid, htruthy, if_true, Option.some.injEq] at hr
        exact ⟨id, r.resultSummary, hr.symm, htruthy⟩
      · simp [hid, htruthy] at hr

theorem answered_of_toolMessages (h : ∀ m ∈ messages, ToolMessage m) : Answered messages := by
  induction messages with
  | nil => trivial
  | cons m rest ih =>
      obtain ⟨id, content, rfl, -⟩ := h m List.mem_cons_self
      exact ih fun m' hm' => h m' (List.mem_cons_of_mem _ hm')

/-- Where every result has a call id, the messages are one per result. -/
theorem leadingAnswers_toolMessages {results : List ToolResult}
    (h : ∀ r ∈ results, PyStr.truthyOption r.callId = true) :
    (leadingAnswers (toolMessages results)).map some = results.map ToolResult.callId := by
  induction results with
  | nil => rfl
  | cons r rest ih =>
      have hrest := ih fun r' hr' => h r' (List.mem_cons_of_mem _ hr')
      have hfirst := h r List.mem_cons_self
      cases hid : r.callId with
      | none => simp [hid, PyStr.truthyOption] at hfirst
      | some id =>
          have htruthy : PyStr.truthy id = true := by simpa [hid, PyStr.truthyOption] using hfirst
          have hcons : toolMessages (r :: rest) =
              .tool id r.resultSummary :: toolMessages rest := by
            simp [toolMessages, hid, htruthy]
          rw [hcons, leadingAnswers, List.map_cons, List.map_cons, hrest, hid]

theorem toolRequest_callId {uuids : UuidSupply} {tc : PendingToolCall} {draw : Nat}
    {request : ToolInvocationRequest} (h : toolRequest uuids s tc draw = .ok request) :
    tc.callId = some request.callId := by
  unfold toolRequest at h
  split at h
  · cases h
  · split at h
    · cases h
    · split at h
      · cases h
      · split at h
        next hid =>
          obtain rfl := Except.ok.inj h
          exact hid
        next => cases h

/-- Whatever becomes of a call, its result carries the id of the call. -/
theorem executeToolCall_callId (uuids : UuidSupply) (gateway : AgentToolMcpGateway)
    (s : GraphState) (tc : PendingToolCall) (w : World) :
    (executeToolCall uuids gateway s tc w).1.callId = tc.callId := by
  unfold executeToolCall
  cases hrequest : toolRequest uuids s tc w.draws with
  | error exception => rfl
  | ok request =>
      simp only
      cases hinvoke : (gateway.invoke w.draw.draws w.now request
          { outbox := w.outbox, followUps := w.followUps }).1 with
      | error exception => rfl
      | ok result =>
          rw [toolRequest_callId hrequest]
          exact congrArg some (AgentToolMcpGateway.invoke_callId hinvoke)

theorem executeToolCalls_callIds (uuids : UuidSupply) (gateway : AgentToolMcpGateway)
    (s : GraphState) (pending : List PendingToolCall) (w : World) :
    (executeToolCalls uuids gateway s pending w).1.map ToolResult.callId =
      pending.map PendingToolCall.callId := by
  induction pending generalizing w with
  | nil => rfl
  | cons tc rest ih =>
      simp only [executeToolCalls, List.map_cons, executeToolCall_callId, ih]

theorem callIds_pendingOf (calls : List LlmToolCall) :
    (pendingOf calls).map PendingToolCall.callId = calls.map LlmToolCall.id := by
  simp [pendingOf]

/-- What the executor appends to the history. -/
def answersOf (deps : Deps) (s : GraphState) (w : World) : List Message :=
  ((toolExecutorNode deps.uuids deps.gateway s w).1.messages).getD []

theorem answersOf_toolMessages {m : Message} (h : m ∈ answersOf deps s w) : ToolMessage m := by
  unfold answersOf toolExecutorNode at h
  simp only at h
  split at h
  · cases h
  · split at h
    · cases h
    · exact toolMessage_of_mem h

theorem leadingAnswers_answersOf {gateway : AgentToolMcpGateway} {calls : List LlmToolCall}
    (hgateway : deps.gateway = some gateway)
    (hpending : s.toolCallsPending = some (pendingOf calls))
    (hcalls : calls ≠ []) (hids : ∀ tc ∈ calls, PyStr.truthyOption tc.id = true) :
    (leadingAnswers (answersOf deps s w)).map some = calls.map LlmToolCall.id := by
  have hbusy : (pendingOf calls).isEmpty = false := by
    simpa [pendingOf] using hcalls
  have hresults := executeToolCalls_callIds deps.uuids gateway s (pendingOf calls) w
  rw [callIds_pendingOf] at hresults
  have htruthy : ∀ r ∈ (executeToolCalls deps.uuids gateway s (pendingOf calls) w).1,
      PyStr.truthyOption r.callId = true := by
    intro r hr
    have hmem := List.mem_map_of_mem (f := ToolResult.callId) hr
    rw [hresults] at hmem
    obtain ⟨tc, htc, hid⟩ := List.mem_map.mp hmem
    rw [← hid]
    exact hids tc htc
  have hanswers : answersOf deps s w =
      toolMessages (executeToolCalls deps.uuids gateway s (pendingOf calls) w).1 := by
    simp [answersOf, toolExecutorNode, hgateway, hpending, hbusy]
  rw [hanswers, leadingAnswers_toolMessages htruthy, hresults]

end Iara.Graph
