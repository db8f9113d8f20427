import Iara.Provider.ChatwootAdapter

/-!
# Requests to a provider

An adapter together with the requests that it sends, whether or not the provider
carries them out.
-/

namespace Iara.Provider

open Iara.Lib Iara.Persistence

structure RecordedAdapter where
  execute : Exchange → ProviderCommand → ProviderSecurityContext → Execution
  requests : Exchange → ProviderCommand → ProviderSecurityContext → List ProviderCall

namespace RecordedAdapter

/-- The adapter returns a result that reports success, and has sent the mutation to
its provider. -/
def Submits (adapter : RecordedAdapter) (exchange : Exchange) (command : ProviderCommand)
    (context : ProviderSecurityContext) : Prop :=
  ∃ result, (adapter.execute exchange command context).result = .ok result ∧
    result.success = true ∧ adapter.requests exchange command context ≠ []

/-- Every result that the adapter returns is one of a submitted mutation. -/
def Submitting (adapter : RecordedAdapter) : Prop :=
  ∀ exchange command context result,
    (adapter.execute exchange command context).result = .ok result →
      adapter.Submits exchange command context

end RecordedAdapter

/-- The requests of a loop of attempts: one for every attempt that is made. -/
def attempts (call : ProviderCall) (posts : Nat → Post) : Nat → Nat → List ProviderCall
  | 0, _ => []
  | left + 1, attempt =>
      call ::
        match (posts attempt).answer with
        | .retryable => attempts call posts left (attempt + 1)
        | _ => []

theorem attempts_ne_nil {call : ProviderCall} {posts : Nat → Post} {left attempt : Nat}
    (h : left ≠ 0) : attempts call posts left attempt ≠ [] := by
  cases left with
  | zero => exact absurd rfl h
  | succ left => simp [attempts]

/-! ## Chatwoot -/

namespace ChatwootMcpAdapter

/-- The call that the checks of `execute_command` let through, and whether its
capability requires a readback. -/
def prepareCall (adapter : ChatwootMcpAdapter) (command : ProviderCommand)
    (context : ProviderSecurityContext) : Except IaraError (ProviderCall × Bool) :=
  if command.tenantId ≠ context.tenantId then
    .error
      { kind := .crossTenant
        message := "Command tenant " ++ formatUuid command.tenantId ++
          " does not match security context " ++ formatUuid context.tenantId }
  else if command.accountIdRef ≠ context.accountIdRef then
    .error
      { kind := .crossTenant
        message :=
          "Command account_id_ref does not match security context — refusing execution" }
  else
    match adapter.registry.resolveIntent adapter.text command.capabilityName
        (formatUuid command.tenantId) command.accountIdRef with
    | .error e => .error e
    | .ok resolution =>
        if !resolution.allowed || !PyStr.truthyOption resolution.resolvedToolName then
          .error
            { kind := .failClosed
              message := "Capability " ++ adapter.text.repr command.capabilityName ++
                " is not allowed: " ++ resolution.denialReason.getD "None" }
        else
          let toolName := resolution.resolvedToolName.getD ""
          .ok
            ({ accountId := adapter.accountId
               toolName := toolName
               arguments := buildMcpArguments command.capabilityName toolName command.parameters },
              resolution.requiresReadback)

variable {adapter : ChatwootMcpAdapter} {exchange : Exchange} {command : ProviderCommand}
  {context : ProviderSecurityContext}

/-- A command is one admission and, if it comes through, one loop of attempts. -/
theorem executeCommand_eq (adapter : ChatwootMcpAdapter) (exchange : Exchange)
    (command : ProviderCommand) (context : ProviderSecurityContext) :
    adapter.executeCommand exchange command context =
      match adapter.prepareCall command context with
      | .error e => { result := .error e }
      | .ok (call, requiresReadback) =>
          let called := postWithRetry call exchange.posts (max 1 adapter.maxRetries) 0
          { applied := called.1
            result := called.2.map fun resultRef =>
              { commandId := command.commandId
                idempotencyKey := command.idempotencyKey
                success := true
                readbackConfirmed := !requiresReadback || exchange.readback
                resultRef := some resultRef } } := by
  unfold executeCommand prepareCall
  by_cases htenant : command.tenantId = context.tenantId
  · by_cases haccount : command.accountIdRef = context.accountIdRef
    · simp only [htenant, haccount, ne_eq, not_true_eq_false, if_false]
      cases adapter.registry.resolveIntent adapter.text command.capabilityName
          (formatUuid context.tenantId) context.accountIdRef with
      | error e => rfl
      | ok resolution =>
          simp only
          split <;> rfl
    · simp [htenant, haccount]
  · simp [htenant]

def recorded (adapter : ChatwootMcpAdapter) : RecordedAdapter where
  execute := adapter.executeCommand
  requests exchange command context :=
    match adapter.prepareCall command context with
    | .error _ => []
    | .ok (call, _) => attempts call exchange.posts (max 1 adapter.maxRetries) 0

theorem recorded_submitting (adapter : ChatwootMcpAdapter) : adapter.recorded.Submitting := by
  intro exchange command context result hresult
  refine ⟨result, hresult, ?_⟩
  have hloop : max 1 adapter.maxRetries ≠ 0 := by omega
  simp only [recorded] at hresult ⊢
  rw [executeCommand_eq] at hresult
  cases hprepared : adapter.prepareCall command context with
  | error e => simp [hprepared] at hresult
  | ok prepared =>
      simp only [hprepared] at hresult ⊢
      cases hcalled : (postWithRetry prepared.1 exchange.posts (max 1 adapter.maxRetries) 0).2 with
      | error e => simp [hcalled, Except.map] at hresult
      | ok resultRef =>
          simp only [hcalled, Except.map, Except.ok.injEq] at hresult
          rw [← hresult]
          exact ⟨rfl, attempts_ne_nil hloop⟩

end ChatwootMcpAdapter

end Iara.Provider
