import Iara.Provider.McpServer

/-!
# Honest readback

Of what the readback returns nothing is compared with the command: a result is
confirmed where the read is answered, and where there is no read at all.
-/

namespace Iara.Provider

open Iara.Lib Iara.Persistence ChatwootClient

section Claim

variable (client : ChatwootClient) (server : McpServer)
  (contains : server.State → ProviderCall → Prop) (command : ProviderCommand)
  (context : ProviderSecurityContext) (s : server.State)

/-- A command whose capability requires a readback is confirmed only if a state was
read after the write, and it contains the mutation. -/
def Honest : Prop :=
  ∀ call, client.prepareCall command context = .ok (call, true) →
    ∀ result, (client.executeCommand server command context s).result = .ok result →
      result.readbackConfirmed = true →
        ∃ shown, (client.executeCommand server command context s).shown = some shown ∧
          contains shown call

/-- Where the server answers the call, there is a conversation to be read, and a read
of it that is answered meets a state with the mutation. -/
def AnsweredApplied (call : ProviderCall) : Prop :=
  ∀ seen written,
    client.Answers server call (max 1 client.maxRetries) (client.beforeWrite server call s)
        seen written →
      ∃ conversationId, readbackTarget command call.toolName = some conversationId ∧
        ∀ read after,
          client.Answers server (client.readCall conversationId) (max 1 client.maxRetries) written
              read after →
            contains read call

end Claim

/-! ## Confirmed results -/

/-- The command returns a confirmed result, and this is the state that was read. -/
def Confirmed (client : ChatwootClient) (server : McpServer) (command : ProviderCommand)
    (context : ProviderSecurityContext) (s : server.State) (shown : Option server.State) : Prop :=
  (client.executeCommand server command context s).shown = shown ∧
    ∃ result, (client.executeCommand server command context s).result = .ok result ∧
      result.readbackConfirmed = true

/-- A readback confirms without a read where there is nothing to read, and with one
that is answered. -/
def ReadBack (client : ChatwootClient) (server : McpServer) (command : ProviderCommand)
    (toolName : String) (written : server.State) (shown : Option server.State) : Prop :=
  match readbackTarget command toolName with
  | none => shown = none
  | some conversationId => ∃ read after, shown = some read ∧
      client.Answers server (client.readCall conversationId) (max 1 client.maxRetries) written
        read after

variable {client : ChatwootClient} {server : McpServer}
  {contains : server.State → ProviderCall → Prop} {command : ProviderCommand}
  {context : ProviderSecurityContext} {call : ProviderCall} {s : server.State}
  {shown : Option server.State}

theorem verifyReadback_iff {toolName : String} {written : server.State} :
    ((client.verifyReadback server command toolName written).confirmed = true ∧
        (client.verifyReadback server command toolName written).seen = shown) ↔
      ReadBack client server command toolName written shown := by
  unfold verifyReadback ReadBack
  cases readbackTarget command toolName with
  | none => exact ⟨fun h => h.2.symm, fun h => ⟨rfl, h.symm⟩⟩
  | some conversationId =>
      have hread : client.callTool server "conversations_get"
            (ChatwootMcpAdapter.idArguments conversationId (.obj [])) written =
          client.postWithRetry server (client.readCall conversationId) (max 1 client.maxRetries)
            "RuntimeError" written := rfl
      simp only [hread]
      constructor
      · rintro ⟨hok, hseen⟩
        generalize hrun : client.postWithRetry server (client.readCall conversationId)
          (max 1 client.maxRetries) "RuntimeError" written = run at hok hseen
        obtain ⟨seen, after, result⟩ := run
        cases result with
        | error e => cases hok
        | ok resultRef => exact ⟨seen, after, hseen.symm, answers_iff.2 ⟨resultRef, hrun⟩⟩
      · rintro ⟨read, after, rfl, hanswers⟩
        obtain ⟨resultRef, hrun⟩ := answers_iff.1 hanswers
        rw [hrun]
        exact ⟨rfl, rfl⟩

/-- What is confirmed, and in which state, depends on the answers alone. -/
theorem confirmed_iff (hprepared : client.prepareCall command context = .ok (call, true)) :
    Confirmed client server command context s shown ↔
      ∃ seen written,
        client.Answers server call (max 1 client.maxRetries) (client.beforeWrite server call s)
            seen written ∧
          ReadBack client server command call.toolName written shown := by
  have hwrite := callTool_of_prepared server (client.beforeWrite server call s) hprepared
  unfold Confirmed
  constructor
  · rintro ⟨hshown, result, hresult, hconfirmed⟩
    simp only [executeCommand, hprepared, hwrite, if_true] at hshown hresult
    generalize hrun : client.postWithRetry server call (max 1 client.maxRetries) "RuntimeError"
      (client.beforeWrite server call s) = run at hshown hresult
    obtain ⟨seen, written, written'⟩ := run
    cases written' with
    | error e => cases hresult
    | ok resultRef =>
        cases hresult
        exact ⟨seen, written, answers_iff.2 ⟨resultRef, hrun⟩,
          verifyReadback_iff.1 ⟨hconfirmed, hshown⟩⟩
  · rintro ⟨seen, written, hanswers, hread⟩
    obtain ⟨resultRef, hrun⟩ := answers_iff.1 hanswers
    obtain ⟨hconfirmed, hshown⟩ := verifyReadback_iff.2 hread
    simp only [executeCommand, hprepared, hwrite, if_true]
    rw [hrun]
    exact ⟨hshown, _, rfl, hconfirmed⟩

theorem honest_iff_confirmed :
    Honest client server contains command context s ↔
      ∀ call, client.prepareCall command context = .ok (call, true) →
        ∀ shown, Confirmed client server command context s shown →
          ∃ read, shown = some read ∧ contains read call := by
  refine forall_congr' fun call => imp_congr_right fun _ => ⟨?_, ?_⟩
  · rintro h shown ⟨rfl, result, hresult, hconfirmed⟩
    exact h result hresult hconfirmed
  · intro h result hresult hconfirmed
    exact h _ ⟨rfl, result, hresult, hconfirmed⟩

/-! ## A server that applies nothing -/

/-- A server that no call changes. -/
def Constant (server : McpServer) : Prop := ∀ s call, (server.handle s call).1 = s

theorem postWithRetry_of_constant {left : Nat} {lastExc : String} (h : Constant server) :
    (client.postWithRetry server call left lastExc s).after = s := by
  induction left generalizing lastExc with
  | zero => rfl
  | succ left ih =>
      simp only [postWithRetry, h s call]
      cases client.postAnswer call.toolName (server.handle s call).2 with
      | result resultRef => rfl
      | fails message => rfl
      | retryable => exact ih

theorem beforeWrite_of_constant (h : Constant server) : client.beforeWrite server call s = s := by
  simp only [beforeWrite, mergeLabels, callTool, postWithRetry_of_constant h, ite_self]

/-- A server that keeps the calls it applies, applies none, and answers all. -/
abbrev deafServer : McpServer where
  State := List ProviderCall
  handle applied _ := (applied, .response 200 "\x7b\x7d" (.ok (.obj [])))

/-- The call is among those that the server has applied. -/
def Applied (applied : List ProviderCall) (call : ProviderCall) : Prop := call ∈ applied

theorem deafServer_answers (client : ChatwootClient) (call : ProviderCall) (left : Nat)
    (applied : List ProviderCall) :
    client.Answers deafServer call (max 1 left) applied applied applied := by
  obtain ⟨n, hn⟩ : ∃ n, max 1 left = n + 1 := ⟨max 1 left - 1, by omega⟩
  rw [hn]
  exact .answered rfl

/-- Whatever the command, it is confirmed: with the state that was read where there is
a conversation to be read, and with none where there is not. -/
theorem deafServer_confirmed (hprepared : client.prepareCall command context = .ok (call, true))
    (applied : List ProviderCall) :
    Confirmed client deafServer command context applied
      ((readbackTarget command call.toolName).map fun _ => applied) := by
  refine (confirmed_iff hprepared).2 ⟨applied, applied, ?_, ?_⟩
  · rw [beforeWrite_of_constant fun _ _ => rfl]
    exact deafServer_answers client call client.maxRetries applied
  · unfold ReadBack
    cases readbackTarget command call.toolName with
    | none => rfl
    | some conversationId =>
        exact ⟨applied, applied, rfl, deafServer_answers client _ client.maxRetries applied⟩

theorem deafServer_not_honest
    (hprepared : client.prepareCall command context = .ok (call, true)) :
    ¬ Honest client deafServer Applied command context [] := by
  intro h
  obtain ⟨read, hread, hcontains⟩ :=
    honest_iff_confirmed.1 h call hprepared _ (deafServer_confirmed hprepared [])
  cases htarget : readbackTarget command call.toolName with
  | none => simp [htarget] at hread
  | some conversationId =>
      rw [htarget] at hread
      cases hread
      cases hcontains

/-! ## The result -/

/-- The claim holds of a command, against a server and from a state, exactly where an
answered write is read back, and is in the state that an answered read meets; and no
command that requires a readback is spared a server against which it fails. -/
theorem honest_iff (client : ChatwootClient) (command : ProviderCommand)
    (context : ProviderSecurityContext) :
    (∀ (server : McpServer) (contains : server.State → ProviderCall → Prop) (s : server.State),
      Honest client server contains command context s ↔
        ∀ call, client.prepareCall command context = .ok (call, true) →
          AnsweredApplied client server contains command s call) ∧
    ∀ call, client.prepareCall command context = .ok (call, true) →
      ¬ Honest client deafServer Applied command context [] := by
  refine ⟨fun server contains s => ?_, fun call hprepared => deafServer_not_honest hprepared⟩
  rw [honest_iff_confirmed]
  refine forall_congr' fun call => imp_congr_right fun hprepared => ?_
  simp only [confirmed_iff hprepared, AnsweredApplied, ReadBack]
  cases readbackTarget command call.toolName with
  | none =>
      constructor
      · intro h seen written hanswers
        obtain ⟨read, hread, -⟩ := h none ⟨seen, written, hanswers, rfl⟩
        cases hread
      · rintro h shown ⟨seen, written, hanswers, -⟩
        obtain ⟨conversationId, htarget, -⟩ := h seen written hanswers
        cases htarget
  | some conversationId =>
      constructor
      · intro h seen written hanswers
        refine ⟨conversationId, rfl, fun read after hread => ?_⟩
        obtain ⟨read', hshown, hcontains⟩ :=
          h (some read) ⟨seen, written, hanswers, read, after, rfl, hread⟩
        cases hshown
        exact hcontains
      · rintro h shown ⟨seen, written, hanswers, read, after, rfl, hread⟩
        obtain ⟨_, htarget, hcontains⟩ := h seen written hanswers
        cases htarget
        exact ⟨read, rfl, hcontains read after hread⟩

section Example

/-- The adapter of an account, with the built-in capabilities. -/
def bareClient : ChatwootClient where
  text := plainText
  registry := { tenantId := formatUuid 1, accountIdRef := "" }
  accountId := "59"
  maxRetries := 3
  sha256 s := s
  str _ := ""

def bareCommand (capabilityName : String) (parameters : Parameters) : ProviderCommand where
  commandId := "c"
  idempotencyKey := "k"
  tenantId := 1
  provider := "chatwoot"
  accountIdRef := ""
  capabilityName := capabilityName
  parameters := parameters
  correlationId := "r"

def bareContext (capabilityName : String) : ProviderSecurityContext where
  tenantId := 1
  provider := "chatwoot"
  accountIdRef := ""
  inboxId := "1"
  capabilityName := capabilityName
  riskClass := .lowWrite

def replyCommand : ProviderCommand :=
  bareCommand "send_message" [("conversation_id", .str "7"), ("content", .str "Olá!")]

def closeCommand : ProviderCommand :=
  bareCommand "close_conversation" [("conversation_id", .str "7")]

/-- The reply is read back and the closing is not; both are confirmed, and neither is
applied. -/
theorem deaf_not_honest :
    Confirmed bareClient deafServer replyCommand (bareContext "send_message") [] (some []) ∧
    Confirmed bareClient deafServer closeCommand (bareContext "close_conversation") [] none ∧
    ¬ Honest bareClient deafServer Applied replyCommand (bareContext "send_message") [] ∧
    ¬ Honest bareClient deafServer Applied closeCommand (bareContext "close_conversation") [] := by
  obtain ⟨replyCall, hreply, hreplyTarget⟩ : ∃ call,
      bareClient.prepareCall replyCommand (bareContext "send_message") = .ok (call, true) ∧
        readbackTarget replyCommand call.toolName = some (.str "7") := ⟨_, rfl, rfl⟩
  obtain ⟨closeCall, hclose, hcloseTarget⟩ : ∃ call,
      bareClient.prepareCall closeCommand (bareContext "close_conversation") = .ok (call, true) ∧
        readbackTarget closeCommand call.toolName = none := ⟨_, rfl, rfl⟩
  have hreplyConfirmed := deafServer_confirmed hreply []
  have hcloseConfirmed := deafServer_confirmed hclose []
  rw [hreplyTarget] at hreplyConfirmed
  rw [hcloseTarget] at hcloseConfirmed
  exact ⟨hreplyConfirmed, hcloseConfirmed, deafServer_not_honest hreply,
    deafServer_not_honest hclose⟩

end Example

end Iara.Provider
