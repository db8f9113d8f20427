import Iara.Proofs.HonestReadback
import Mathlib.Data.Set.Basic

/-!
# Labels of a conversation

The tool that sets the labels replaces the list.  The labels that are read before
the write are not merged into it, so the list after a labelling is the one that
the command carries.
-/

namespace Iara.Provider

open Iara.Lib Iara.Persistence ChatwootClient
open ChatwootMcpAdapter (get idArguments buildMcpArguments)

/-! ## The command -/

/-- The registry resolves the command to the tool that sets the labels. -/
structure Labelling (client : ChatwootClient) (command : ProviderCommand) : Prop where
  capability : command.capabilityName = "label_conversation"
  tool : (client.registry.byIntent "label_conversation").map McpCapabilityEntry.mcpToolName =
    some setLabelsTool

theorem Labelling.of_default {client : ChatwootClient} {command : ProviderCommand}
    (hcapability : command.capabilityName = "label_conversation")
    (h : client.registry.capabilities = defaultChatwootCapabilities) :
    Labelling client command := by
  refine ⟨hcapability, ?_⟩
  unfold ChatwootMcpRegistry.byIntent
  rw [h]
  decide

def labelledConversation (p : Parameters) : Json := get p "conversation_id" (.str "")

/-- The `labels` of a command or, without them, its `label`. -/
def commandLabels (p : Parameters) : Json :=
  let label := get p "label" (.str "")
  get p "labels" (.arr (if label.truthy then [label] else []))

variable {client : ChatwootClient} {server : McpServer} {command : ProviderCommand}
  {context : ProviderSecurityContext} {call : ProviderCall} {requiresReadback : Bool}

/-- What is prepared of a labelling: the tool, and the labels of the command. -/
theorem call_of_labelling (hlabelling : Labelling client command)
    (h : client.prepareCall command context = .ok (call, requiresReadback)) :
    call.toolName = setLabelsTool ∧
      call.arguments = idArguments (labelledConversation command.parameters)
        (.obj [("labels", commandLabels command.parameters)]) := by
  unfold ChatwootMcpAdapter.prepareCall at h
  split at h
  · cases h
  · split at h
    · cases h
    · cases hresolve : client.registry.resolveIntent client.text command.capabilityName
        (formatUuid command.tenantId) command.accountIdRef with
      | error e => simp [hresolve] at h
      | ok resolution =>
          obtain ⟨-, -, rfl⟩ := ChatwootMcpRegistry.resolveIntent_eq_ok hresolve
          simp only [hresolve] at h
          split at h
          · cases h
          next hchecked =>
            rw [Bool.or_eq_true, Bool.not_eq_true', not_or, Bool.not_eq_false] at hchecked
            have htool := ChatwootMcpRegistry.resolvedToolName_of_allowed hchecked.1
            rw [hlabelling.capability, hlabelling.tool] at htool
            rw [hlabelling.capability] at h
            simp only [htool, Option.getD_some, Except.ok.injEq, Prod.mk.injEq] at h
            rw [← h.1]
            exact ⟨rfl, rfl⟩

/-! ## The server -/

/-- A server with label lists, as it is documented: an answered write replaces the
list of its conversation, and what reads a conversation leaves the lists alone. -/
structure LabelServer (client : ChatwootClient) (server : McpServer)
    (labels : server.State → Json → Set Json) : Prop where
  replaces : ∀ s call id ls resultRef, call.toolName = setLabelsTool →
    call.arguments = idArguments id (.obj [("labels", .arr ls)]) →
    client.postAnswer call.toolName (server.handle s call).2 = .result resultRef →
    labels (server.handle s call).1 id = {l | l ∈ ls}
  reads : ∀ s call,
    call.toolName = "conversations_get_labels" ∨ call.toolName = "conversations_get" →
    labels (server.handle s call).1 = labels s

variable {labels : server.State → Json → Set Json} {left : Nat} {lastExc : String}
  {s seen after : server.State} {id : Json} {ls : List Json}

/-- Reading, however often it is tried and however it ends, leaves the labels. -/
theorem LabelServer.labels_of_read (hserver : LabelServer client server labels)
    (hread : call.toolName = "conversations_get_labels" ∨ call.toolName = "conversations_get") :
    labels (client.postWithRetry server call left lastExc s).after = labels s := by
  induction left generalizing s lastExc with
  | zero => rfl
  | succ left ih =>
      have hhere := hserver.reads s call hread
      simp only [postWithRetry]
      cases client.postAnswer call.toolName (server.handle s call).2 with
      | result resultRef => exact hhere
      | fails message => exact hhere
      | retryable => exact ih.trans hhere

/-- Nothing of the old list is left by an answered write. -/
theorem LabelServer.labels_of_write (hserver : LabelServer client server labels)
    (htool : call.toolName = setLabelsTool)
    (harguments : call.arguments = idArguments id (.obj [("labels", .arr ls)]))
    (hanswers : client.Answers server call left s seen after) :
    labels after id = {l | l ∈ ls} := by
  induction hanswers with
  | answered hanswer => exact hserver.replaces _ call id ls _ htool harguments hanswer
  | retried _ _ ih => exact ih

theorem LabelServer.labels_verifyReadback (hserver : LabelServer client server labels)
    (toolName : String) (s : server.State) :
    labels (client.verifyReadback server command toolName s).after = labels s := by
  unfold verifyReadback
  cases readbackTarget command toolName with
  | none => rfl
  | some conversationId => exact hserver.labels_of_read (.inr rfl)

/-- A command that reports success has had its write answered, and the readback
is all that follows. -/
theorem exists_answers_of_ok (hserver : LabelServer client server labels)
    (hprepared : client.prepareCall command context = .ok (call, requiresReadback))
    {result : ProviderMutationResult}
    (hok : (client.executeCommand server command context s).result = .ok result) :
    ∃ seen written,
      client.Answers server call (max 1 client.maxRetries) (client.beforeWrite server call s)
        seen written ∧
      labels (client.executeCommand server command context s).after = labels written := by
  have hwrite := callTool_of_prepared server (client.beforeWrite server call s) hprepared
  simp only [executeCommand, hprepared, hwrite] at hok ⊢
  generalize hrun : client.postWithRetry server call (max 1 client.maxRetries) "RuntimeError"
    (client.beforeWrite server call s) = run at hok ⊢
  obtain ⟨seen, written, written'⟩ := run
  cases written' with
  | error e => cases hok
  | ok resultRef =>
      refine ⟨seen, written, answers_iff.2 ⟨resultRef, hrun⟩, ?_⟩
      cases requiresReadback with
      | false => rfl
      | true => exact hserver.labels_verifyReadback call.toolName written

/-- After a labelling that reports success, the labels are those of the command. -/
theorem labels_executeCommand (hserver : LabelServer client server labels)
    (hlabelling : Labelling client command)
    (hlabels : commandLabels command.parameters = .arr ls) {result : ProviderMutationResult}
    (hok : (client.executeCommand server command context s).result = .ok result) :
    labels (client.executeCommand server command context s).after
      (labelledConversation command.parameters) = {l | l ∈ ls} := by
  cases hprepared : client.prepareCall command context with
  | error e =>
      unfold executeCommand at hok
      rw [hprepared] at hok
      cases hok
  | ok prepared =>
      obtain ⟨call, requiresReadback⟩ := prepared
      obtain ⟨htool, harguments⟩ := call_of_labelling hlabelling hprepared
      rw [hlabels] at harguments
      obtain ⟨seen, written, hanswers, hafter⟩ := exists_answers_of_ok hserver hprepared hok
      rw [hafter]
      exact hserver.labels_of_write htool harguments hanswers

/-! ## The result -/

/-- After a labelling that reports success the labels of the conversation are the
old ones and the new ones exactly if all of the old ones are among the new. -/
theorem labels_union_iff {client : ChatwootClient} {server : McpServer}
    {labels : server.State → Json → Set Json} {command : ProviderCommand}
    {context : ProviderSecurityContext} {s : server.State} {ls : List Json}
    {result : ProviderMutationResult} (hserver : LabelServer client server labels)
    (hlabelling : Labelling client command)
    (hlabels : commandLabels command.parameters = .arr ls)
    (hok : (client.executeCommand server command context s).result = .ok result) :
    labels (client.executeCommand server command context s).after
        (labelledConversation command.parameters) =
        labels s (labelledConversation command.parameters) ∪ {l | l ∈ ls} ↔
      labels s (labelledConversation command.parameters) ⊆ {l | l ∈ ls} := by
  rw [labels_executeCommand hserver hlabelling hlabels hok, eq_comm]
  exact Set.union_eq_right

section Example

/-- The labels that a call carries. -/
def carriedLabels (call : ProviderCall) : List Json :=
  match get call.arguments "body" .null with
  | .obj body =>
      match get body "labels" .null with
      | .arr ls => ls
      | _ => []
  | _ => []

/-- A server that keeps the labels of one conversation and answers every call. -/
abbrev labelServer : McpServer where
  State := List Json
  handle kept call :=
    (if call.toolName = setLabelsTool then carriedLabels call else kept,
      .response 200 "\x7b\x7d" (.ok (.obj [])))

/-- Whichever conversation is asked for, the labels that are kept. -/
def keptLabels (kept : labelServer.State) (_ : Json) : Set Json := {l | l ∈ kept}

theorem labelServer_replaces : LabelServer bareClient labelServer keptLabels where
  replaces := by
    intro kept call id ls resultRef htool harguments _
    simp only [keptLabels, htool, if_true, carriedLabels, harguments]
    rfl
  reads := by
    intro kept call htool
    have hother : call.toolName ≠ setLabelsTool := by
      rcases htool with h | h <;> rw [h] <;> decide
    simp only [if_neg hother]

def labelCommand : ProviderCommand :=
  bareCommand "label_conversation" [("conversation_id", .str "7"), ("label", .str "novo")]

/-- The conversation has the label already. -/
theorem labels_union_novo :
    keptLabels (bareClient.executeCommand labelServer labelCommand
        (bareContext "label_conversation") [.str "novo"]).after (.str "7") =
      keptLabels [.str "novo"] (.str "7") ∪ {l | l ∈ [Json.str "novo"]} :=
  (labels_union_iff labelServer_replaces (.of_default rfl rfl) rfl rfl).2
    (Set.Subset.refl _)

/-- A conversation with one label that is given another one loses the first. -/
theorem vip_dropped :
    LabelServer bareClient labelServer keptLabels ∧ Labelling bareClient labelCommand ∧
    (∃ result, (bareClient.executeCommand labelServer labelCommand
        (bareContext "label_conversation") [.str "vip"]).result = .ok result ∧
      result.success = true) ∧
    keptLabels (bareClient.executeCommand labelServer labelCommand
        (bareContext "label_conversation") [.str "vip"]).after (.str "7") ≠
      keptLabels [.str "vip"] (.str "7") ∪ {l | l ∈ [Json.str "novo"]} := by
  refine ⟨labelServer_replaces, .of_default rfl rfl, ⟨_, rfl, rfl⟩, ?_⟩
  intro h
  have hmem : Json.str "vip" ∈ keptLabels (bareClient.executeCommand labelServer labelCommand
      (bareContext "label_conversation") [.str "vip"]).after (.str "7") := by
    rw [h]
    exact .inl List.mem_cons_self
  have hafter : (bareClient.executeCommand labelServer labelCommand
      (bareContext "label_conversation") [.str "vip"]).after = [.str "novo"] := rfl
  rw [hafter] at hmem
  simp [keptLabels] at hmem

end Example

end Iara.Provider
