import Iara.Provider.ChatwootAdapter

/-!
# The scheduling write adapters

`GoogleCalendarWriteAdapter` and `ClinicorpWriteAdapter` run one method with their
own tables and payloads, `NullSchedulingWriteAdapter` submits nothing.  As with
the Chatwoot adapter, what the provider does with each request is given from
outside; an answer here carries `str(result_data)`.
-/

namespace Iara.Provider.Scheduling

open Iara.Lib Iara.Persistence

/-- What one of the adapters fills in. -/
structure SchedulingWriteAdapter where
  /-- The calendar, or the base URL, that the requests go to. -/
  accountId : String
  capabilityMap : List (String × String)
  buildPayload : String → Parameters → String → Parameters
  /-- The name of the API in its errors. -/
  apiName : String
  /-- What kind of capability an unregistered one would be. -/
  capabilityKind : String
  resultPrefix : String
  maxRetries : Nat := 3
  text : PyText
  /-- `hashlib.sha256(text.encode()).hexdigest()`. -/
  sha256 : String → String

namespace SchedulingWriteAdapter

variable (adapter : SchedulingWriteAdapter)

/-- The loop of `_call_gcal_api` and `_call_clinicorp_api`: the attempts that are
left and the number of the next one. -/
def callApi (call : ProviderCall) (posts : Nat → Post) :
    Nat → Nat → List ProviderCall × Except IaraError String
  | 0, _ =>
      ([], .error { kind := .provider, message := adapter.apiName ++ ": all retries exhausted" })
  | left + 1, attempt =>
      let here := if (posts attempt).applied then [call] else []
      match (posts attempt).answer with
      | .result resultData => (here, .ok resultData)
      | .fails message => (here, .error { kind := .provider, message := message })
      | .retryable =>
          let rest := callApi call posts left (attempt + 1)
          (here ++ rest.1, rest.2)

def executeCommand (exchange : Exchange) (command : ProviderCommand)
    (context : ProviderSecurityContext) : Execution :=
  if command.tenantId ≠ context.tenantId then
    { result := .error
        { kind := .crossTenant
          message := "Scheduling command tenant " ++ formatUuid command.tenantId ++
            " does not match security context " ++ formatUuid context.tenantId } }
  else
    match adapter.capabilityMap.lookup command.capabilityName with
    | none =>
        { result := .error
            { kind := .failClosed
              message := "Unregistered " ++ adapter.capabilityKind ++ " capability: " ++
                adapter.text.repr command.capabilityName } }
    | some method =>
        let call : ProviderCall :=
          { accountId := adapter.accountId
            toolName := method
            arguments :=
              adapter.buildPayload command.capabilityName command.parameters command.commandId }
        let called := adapter.callApi call exchange.posts (max 1 adapter.maxRetries) 0
        { applied := called.1
          result := called.2.map fun resultData =>
            { commandId := command.commandId
              idempotencyKey := command.idempotencyKey
              success := true
              readbackConfirmed := true
              resultRef :=
                some (adapter.resultPrefix ++ PyStr.slice (adapter.sha256 resultData) 16) } }

variable {adapter}

theorem mem_callApi {call call' : ProviderCall} {posts : Nat → Post} {left attempt : Nat}
    (h : call' ∈ (adapter.callApi call posts left attempt).1) : call' = call := by
  induction left generalizing attempt with
  | zero => simp [callApi] at h
  | succ left ih =>
      have hhere : call' ∈ (if (posts attempt).applied then [call] else []) → call' = call := by
        intro hmem
        by_cases happlied : (posts attempt).applied = true
        · simpa [happlied] using hmem
        · simp [happlied] at hmem
      simp only [callApi] at h
      cases hanswer : (posts attempt).answer with
      | result resultData => exact hhere (by simpa only [hanswer] using h)
      | fails message => exact hhere (by simpa only [hanswer] using h)
      | retryable =>
          simp only [hanswer, List.mem_append] at h
          rcases h with h | h
          · exact hhere h
          · exact ih h

/-- Whatever reaches the provider is the one call the command stands for. -/
theorem mem_executeCommand {exchange : Exchange} {command : ProviderCommand}
    {context : ProviderSecurityContext} {call : ProviderCall}
    (h : call ∈ (adapter.executeCommand exchange command context).applied) :
    ∃ method, adapter.capabilityMap.lookup command.capabilityName = some method ∧
      call =
        { accountId := adapter.accountId
          toolName := method
          arguments :=
            adapter.buildPayload command.capabilityName command.parameters command.commandId } := by
  unfold executeCommand at h
  by_cases htenant : command.tenantId = context.tenantId
  · rw [if_neg (not_not_intro htenant)] at h
    cases hmethod : adapter.capabilityMap.lookup command.capabilityName with
    | none => simp [hmethod] at h
    | some method =>
        simp only [hmethod] at h
        exact ⟨method, rfl, mem_callApi h⟩
  · simp [htenant] at h

theorem eq_of_mem_executeCommand {exchange : Exchange} {command : ProviderCommand}
    {context : ProviderSecurityContext} {call call' : ProviderCall}
    (h : call ∈ (adapter.executeCommand exchange command context).applied)
    (h' : call' ∈ (adapter.executeCommand exchange command context).applied) : call' = call := by
  obtain ⟨method, hmethod, rfl⟩ := mem_executeCommand h
  obtain ⟨method', hmethod', rfl⟩ := mem_executeCommand h'
  rw [Option.some.inj (hmethod'.symm.trans hmethod)]

end SchedulingWriteAdapter

open ChatwootMcpAdapter (get)

/-! ## Google Calendar -/

namespace GoogleCalendarWriteAdapter

def capabilityMap : List (String × String) :=
  [("schedule_appointment", "events.insert"), ("cancel_appointment", "events.delete"),
    ("reschedule_appointment", "events.patch")]

/-- `{"dateTime": parameters.get(key, "")}`. -/
def dateTime (parameters : Parameters) (key : String) : Json :=
  .obj [("dateTime", get parameters key (.str ""))]

def buildPayload (sha256 : String → String) (capability : String) (parameters : Parameters)
    (commandId : String) : Parameters :=
  if capability = "schedule_appointment" then
    [("iCalUID", .str (PyStr.slice (sha256 commandId) 32)), ("summary", .str "Appointment"),
      ("start", dateTime parameters "datetime_iso"), ("end", dateTime parameters "datetime_iso"),
      ("description", get parameters "notes_ref" (.str "")),
      ("extendedProperties",
        .obj [("private",
          .obj [("command_id", .str commandId),
            ("service_type", get parameters "service_type" (.str ""))])])]
  else if capability = "cancel_appointment" then
    [("event_id", get parameters "appointment_ref" (.str "")), ("command_id", .str commandId)]
  else if capability = "reschedule_appointment" then
    [("event_id", get parameters "appointment_ref" (.str "")),
      ("start", dateTime parameters "new_datetime_iso"),
      ("end", dateTime parameters "new_datetime_iso"), ("command_id", .str commandId)]
  else []

end GoogleCalendarWriteAdapter

open GoogleCalendarWriteAdapter in
def googleCalendarWriteAdapter (calendarId : String) (text : PyText) (sha256 : String → String)
    (maxRetries : Nat := 3) : SchedulingWriteAdapter where
  accountId := calendarId
  capabilityMap := capabilityMap
  buildPayload := buildPayload sha256
  apiName := "Google Calendar API"
  capabilityKind := "scheduling"
  resultPrefix := "gcal:"
  maxRetries := maxRetries
  text := text
  sha256 := sha256

/-! ## Clinicorp -/

namespace ClinicorpWriteAdapter

def capabilityMap : List (String × String) :=
  [("schedule_appointment", "appointments.create"), ("cancel_appointment", "appointments.cancel"),
    ("reschedule_appointment", "appointments.reschedule")]

def buildPayload (capability : String) (parameters : Parameters) (commandId : String) :
    Parameters :=
  if capability = "schedule_appointment" then
    [("external_id", .str commandId), ("datetime", get parameters "datetime_iso" (.str "")),
      ("service_type", get parameters "service_type" (.str "general")),
      ("notes_ref", get parameters "notes_ref" (.str ""))]
  else if capability = "cancel_appointment" then
    [("appointment_id", get parameters "appointment_ref" (.str "")),
      ("reason_ref", get parameters "reason_ref" (.str "")), ("external_id", .str commandId)]
  else if capability = "reschedule_appointment" then
    [("appointment_id", get parameters "appointment_ref" (.str "")),
      ("new_datetime", get parameters "new_datetime_iso" (.str "")),
      ("external_id", .str commandId)]
  else []

end ClinicorpWriteAdapter

open ClinicorpWriteAdapter in
def clinicorpWriteAdapter (baseUrl : String) (text : PyText) (sha256 : String → String)
    (maxRetries : Nat := 3) : SchedulingWriteAdapter where
  accountId := baseUrl
  capabilityMap := capabilityMap
  buildPayload := buildPayload
  apiName := "Clinicorp API"
  capabilityKind := "Clinicorp"
  resultPrefix := "clinicorp:"
  maxRetries := maxRetries
  text := text
  sha256 := sha256

/-! ## No provider -/

namespace NullSchedulingWriteAdapter

/-- The command is logged as skipped. -/
def executeCommand (_ : Exchange) (command : ProviderCommand) (context : ProviderSecurityContext) :
    Execution :=
  if command.tenantId ≠ context.tenantId then
    { result := .error
        { kind := .failClosed
          message := "Scheduling command tenant " ++ formatUuid command.tenantId ++
            " does not match security context " ++ formatUuid context.tenantId } }
  else
    { result := .ok
        { commandId := command.commandId
          idempotencyKey := command.idempotencyKey
          success := true
          readbackConfirmed := false
          resultRef := some ("skipped:" ++ command.commandId) } }

end NullSchedulingWriteAdapter

end Iara.Provider.Scheduling
