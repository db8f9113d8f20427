import Iara.Provider.Requests
import Iara.Provider.Scheduling.WriteAdapters

/-!
# The write adapters of the settings

`build_google_calendar_write_adapter` and `build_clinicorp_write_adapter`: a
backend that is not enabled, or whose credential does not resolve, is replaced by
the adapter that submits nothing.
-/

namespace Iara.Provider.Scheduling

open Iara.Lib Iara.Persistence

namespace SchedulingWriteAdapter

def recorded (adapter : SchedulingWriteAdapter) : RecordedAdapter where
  execute := adapter.executeCommand
  requests exchange command context :=
    if command.tenantId ≠ context.tenantId then []
    else
      match adapter.capabilityMap.lookup command.capabilityName with
      | none => []
      | some method =>
          attempts
            { accountId := adapter.accountId
              toolName := method
              arguments :=
                adapter.buildPayload command.capabilityName command.parameters command.commandId }
            exchange.posts (max 1 adapter.maxRetries) 0

theorem recorded_submitting (adapter : SchedulingWriteAdapter) : adapter.recorded.Submitting := by
  intro exchange command context result hresult
  refine ⟨result, hresult, ?_⟩
  have hloop : max 1 adapter.maxRetries ≠ 0 := by omega
  simp only [recorded, executeCommand] at hresult ⊢
  by_cases htenant : command.tenantId = context.tenantId
  · rw [if_neg (not_not_intro htenant)] at hresult ⊢
    cases hmethod : adapter.capabilityMap.lookup command.capabilityName with
    | none => simp [hmethod] at hresult
    | some method =>
        simp only [hmethod] at hresult ⊢
        refine ⟨?_, attempts_ne_nil hloop⟩
        generalize (adapter.callApi _ exchange.posts (max 1 adapter.maxRetries) 0).2 = answer
          at hresult
        cases answer with
        | error e => simp [Except.map] at hresult
        | ok resultData =>
            simp only [Except.map, Except.ok.injEq] at hresult
            rw [← hresult]
  · simp [htenant] at hresult

end SchedulingWriteAdapter

namespace NullSchedulingWriteAdapter

def recorded : RecordedAdapter where
  execute := executeCommand
  requests _ _ _ := []

/-- Nothing is submitted, whatever the result says. -/
theorem recorded_not_submits (exchange : Exchange) (command : ProviderCommand)
    (context : ProviderSecurityContext) : ¬ recorded.Submits exchange command context := by
  rintro ⟨result, -, -, hrequests⟩
  exact hrequests rfl

theorem executeCommand_ok (exchange : Exchange) {command : ProviderCommand}
    {context : ProviderSecurityContext} (h : command.tenantId = context.tenantId) :
    ∃ result, (recorded.execute exchange command context).result = .ok result := by
  simp [recorded, executeCommand, h]

end NullSchedulingWriteAdapter

/-! ## The factory -/

/-- The settings of the scheduling backends, with the environment variables and
what the adapters take from the standard library. -/
structure SchedulingSettings where
  text : PyText
  sha256 : String → String
  environ : String → Option String
  googleCalendarEnabled : Bool
  googleCalendarCredentialRef : String
  clinicorpEnabled : Bool
  clinicorpCredentialRef : String
  clinicorpBaseUrl : String

namespace SchedulingSettings

variable (settings : SchedulingSettings)

def secretLead : String := "secret://"

/-- `path.replace("/", "_").upper()`. -/
def envKey (path : String) : String :=
  settings.text.upper (String.ofList (path.toList.map fun c => if c = '/' then '_' else c))

/-- The reference itself is returned where there is no mapping. -/
def resolveCredential (credentialRef : String) : String :=
  if !PyStr.startsWith credentialRef secretLead then credentialRef
  else
    (settings.environ
      (settings.envKey (PyStr.sliceFrom credentialRef secretLead.length))).getD credentialRef

/-- The backend is enabled and its credential is no longer a reference. -/
def configured (enabled : Bool) (credentialRef : String) : Bool :=
  enabled && !PyStr.startsWith (settings.resolveCredential credentialRef) secretLead

def googleCalendarConfigured : Bool :=
  settings.configured settings.googleCalendarEnabled settings.googleCalendarCredentialRef

def clinicorpConfigured : Bool :=
  settings.configured settings.clinicorpEnabled settings.clinicorpCredentialRef

def buildGoogleCalendarWriteAdapter : RecordedAdapter :=
  if settings.googleCalendarConfigured then
    (googleCalendarWriteAdapter "primary" settings.text settings.sha256).recorded
  else NullSchedulingWriteAdapter.recorded

/-- `base_url.rstrip("/")`. -/
def rstripSlash (baseUrl : String) : String :=
  String.ofList (baseUrl.toList.reverse.dropWhile (· == '/')).reverse

def buildClinicorpWriteAdapter : RecordedAdapter :=
  if settings.clinicorpConfigured then
    (clinicorpWriteAdapter (rstripSlash settings.clinicorpBaseUrl) settings.text
      settings.sha256).recorded
  else NullSchedulingWriteAdapter.recorded

end SchedulingSettings

end Iara.Provider.Scheduling
