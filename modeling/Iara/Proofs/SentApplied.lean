import Iara.Provider.Scheduling.Factory
import Iara.Workers.Reminders

/-!
# Sent means applied

The drainer takes every result for a success.  So what it marks as sent was
submitted if the adapter of the row submits, and was not if the row is served by
the adapter that stands in for a backend that is not configured.
-/

namespace Iara.Workers

open Iara.Lib Iara.Persistence Iara.Provider Iara.Provider.Scheduling OutboxDrainer

/-! ## The claim -/

section Claim

def providerName (row : OutboxRow) : String :=
  if PyStr.truthy row.provider then row.provider else "chatwoot"

def adapterFor (adapters : List (String × RecordedAdapter)) (row : OutboxRow) :
    Option RecordedAdapter := adapters.lookup (providerName row)

/-- A drainer with adapters that record their requests. -/
def recordedDrainer (adapters : List (String × RecordedAdapter)) (maxRetries : Nat) :
    OutboxDrainer where
  adapters := adapters.map fun p => (p.1, p.2.execute)
  maxRetries := maxRetries

/-- The adapter of the row reports success, and the mutation was submitted. -/
def Submitted (adapters : List (String × RecordedAdapter)) (exchange : Exchange)
    (row : OutboxRow) : Prop :=
  ∃ adapter, adapterFor adapters row = some adapter ∧
    adapter.Submits exchange (providerCommand row) (securityContext row)

/-- In no state that the call leaves is the row sent, or is there a new follow-up,
unless the mutation was submitted. -/
structure SentMeansApplied (before : DrainStores) (row : OutboxRow) (states : List DrainStores)
    (submitted : Prop) : Prop where
  sent : ∀ s ∈ states, ∀ r, s.outbox.find row.key = some r → r.status = .sent → submitted
  reminded : ∀ s ∈ states, ∀ item ∈ s.followUps.rows, item ∉ before.followUps.rows → submitted

end Claim

section Command

variable {drainer : OutboxDrainer} {hook : ReminderHook} {run : CommandRun} {row r : OutboxRow}
  {s t : DrainStores} {outbox : Outbox} {adapters : List (String × RecordedAdapter)}

theorem lookup_map_snd {α β : Type} (f : α → β) (entries : List (String × α)) (k : String) :
    (entries.map fun p => (p.1, f p.2)).lookup k = (entries.lookup k).map f := by
  induction entries with
  | nil => rfl
  | cons entry rest ih =>
      obtain ⟨k', a⟩ := entry
      rw [List.map_cons, List.lookup_cons, List.lookup_cons]
      cases k == k' with
      | true => rfl
      | false => exact ih

theorem adapterOf_recordedDrainer (adapters : List (String × RecordedAdapter)) (maxRetries : Nat)
    (row : OutboxRow) :
    (recordedDrainer adapters maxRetries).adapterOf row =
      (adapterFor adapters row).map RecordedAdapter.execute := lookup_map_snd _ adapters _

/-- What the handler of a failure leaves of a row. -/
theorem status_recordFailure {now : Nat} (h : outbox.find row.key = some row)
    (hr : (drainer.recordFailure now row outbox).find row.key = some r) : r.status ≠ .sent := by
  unfold OutboxDrainer.recordFailure at hr
  split at hr
  · cases (OutboxRepository.find_markDeadLettered h).symm.trans hr
    simp [OutboxRow.markDeadLettered]
  · cases (OutboxRepository.find_markFailedForRetry h).symm.trans hr
    simp [OutboxRow.markFailedForRetry]

/-- A call whose adapter returns and whose `mark_sent` is written leaves a state
where the row is sent. -/
theorem exists_sent (hook : ReminderHook) (h : s.outbox.find row.key = some row)
    {adapter : ProviderAdapter} {result : ProviderMutationResult}
    (hexhausted : drainer.exhausted row = false) (hadapter : drainer.adapterOf row = some adapter)
    (hresult : (execution adapter run.exchange row).result = .ok result)
    (hsent : run.markSent.writes = true) :
    ∃ t ∈ drainer.handleCommand hook run row s, ∃ r', t.outbox.find row.key = some r' ∧
      r'.status = .sent := by
  refine ⟨{ s with outbox := OutboxRepository.markSent row.commandId s.outbox }, ?_,
    row.markSent, OutboxRepository.find_markSent h, rfl⟩
  unfold handleCommand
  simp only [hexhausted, Bool.false_eq_true, if_false, hadapter, hresult]
  cases hsession : run.markSent with
  | commits => exact List.mem_cons_self
  | fails exception => simp [hsession, Transaction.writes] at hsent
  | commitsThenFails exception => exact List.mem_cons_self

/-- The handler of an exception neither sends the row nor adds a follow-up. -/
theorem afterFailure_unsent (h : s.outbox.find row.key = some row)
    (ht : t ∈ drainer.afterFailure run row s) :
    (∀ r', t.outbox.find row.key = some r' → r'.status ≠ .sent) ∧ t.followUps = s.followUps := by
  unfold afterFailure written at ht
  split at ht
  · rw [List.mem_singleton.1 ht]
    exact ⟨fun r' hr' => status_recordFailure h hr', rfl⟩
  · cases ht

/-- A state where the row is sent, or with a new follow-up, is there only after the
adapter has returned and `mark_sent` is written. -/
theorem returned_of_state (h : s.outbox.find row.key = some row)
    (ht : t ∈ drainer.handleCommand hook run row s)
    (hstate : (∃ r', t.outbox.find row.key = some r' ∧ r'.status = .sent) ∨
      ∃ item ∈ t.followUps.rows, item ∉ s.followUps.rows) :
    drainer.exhausted row = false ∧ run.markSent.writes = true ∧
      ∃ adapter result, drainer.adapterOf row = some adapter ∧
        (execution adapter run.exchange row).result = .ok result := by
  have hquiet : ¬ ((∀ r', t.outbox.find row.key = some r' → r'.status ≠ .sent) ∧
      t.followUps = s.followUps) := by
    rintro ⟨hunsent, hsame⟩
    rcases hstate with ⟨r', hr', hsent⟩ | ⟨item, hitem, hnew⟩
    · exact hunsent r' hr' hsent
    · rw [hsame] at hitem
      exact hnew hitem
  unfold handleCommand at ht
  cases hexhausted : drainer.exhausted row with
  | true =>
      simp only [hexhausted, if_true] at ht
      unfold written at ht
      split at ht
      · rw [List.mem_singleton.1 ht] at hquiet
        refine absurd ⟨fun r' hr' => ?_, rfl⟩ hquiet
        cases (OutboxRepository.find_markDeadLettered h).symm.trans hr'
        simp [OutboxRow.markDeadLettered]
      · cases ht
  | false =>
      simp only [hexhausted, Bool.false_eq_true, if_false] at ht
      cases hadapter : drainer.adapterOf row with
      | none => simp [hadapter] at ht
      | some adapter =>
          simp only [hadapter] at ht
          cases hresult : (execution adapter run.exchange row).result with
          | error e =>
              simp only [hresult] at ht
              exact absurd (afterFailure_unsent h ht) hquiet
          | ok result =>
              refine ⟨rfl, ?_, adapter, result, rfl, hresult⟩
              cases hsession : run.markSent with
              | commits => rfl
              | commitsThenFails exception => rfl
              | fails exception =>
                  simp only [hresult, hsession] at ht
                  exact absurd (afterFailure_unsent h ht) hquiet

end Command

/-! ## The adapters of the worker -/

section Built

/-- The dictionary of adapters that the worker builds from its settings. -/
def builtAdapters (chatwoot : ChatwootMcpAdapter) (settings : SchedulingSettings) :
    List (String × RecordedAdapter) :=
  [("chatwoot", chatwoot.recorded), ("google_calendar", settings.buildGoogleCalendarWriteAdapter),
    ("clinicorp", settings.buildClinicorpWriteAdapter)]

/-- The row is for a scheduling backend that is not configured. -/
def Unconfigured (settings : SchedulingSettings) (row : OutboxRow) : Prop :=
  (providerName row = "google_calendar" ∧ settings.googleCalendarConfigured = false) ∨
    (providerName row = "clinicorp" ∧ settings.clinicorpConfigured = false)

variable {chatwoot : ChatwootMcpAdapter} {settings : SchedulingSettings} {row : OutboxRow}
  {adapter : RecordedAdapter}

theorem adapterFor_of_unconfigured (h : Unconfigured settings row) :
    adapterFor (builtAdapters chatwoot settings) row =
      some NullSchedulingWriteAdapter.recorded := by
  unfold adapterFor builtAdapters
  rcases h with ⟨hname, hnull⟩ | ⟨hname, hnull⟩
  · simp [hname, SchedulingSettings.buildGoogleCalendarWriteAdapter, hnull, List.lookup_cons]
  · simp [hname, SchedulingSettings.buildClinicorpWriteAdapter, hnull, List.lookup_cons]

theorem submitting_of_configured (h : ¬ Unconfigured settings row)
    (hadapter : adapterFor (builtAdapters chatwoot settings) row = some adapter) :
    adapter.Submitting := by
  obtain ⟨before, after, hentries, -⟩ := List.lookup_eq_some_iff.1 hadapter
  have hentry : (providerName row, adapter) ∈ builtAdapters chatwoot settings := by
    rw [hentries]
    exact List.mem_append_right _ List.mem_cons_self
  simp only [builtAdapters, List.mem_cons, Prod.mk.injEq, List.not_mem_nil, or_false] at hentry
  rcases hentry with ⟨-, rfl⟩ | ⟨hname, rfl⟩ | ⟨hname, rfl⟩
  · exact chatwoot.recorded_submitting
  · have hconfigured : settings.googleCalendarConfigured = true := by
      by_contra hnot
      exact h (.inl ⟨hname, by simpa using hnot⟩)
    rw [SchedulingSettings.buildGoogleCalendarWriteAdapter, if_pos hconfigured]
    exact SchedulingWriteAdapter.recorded_submitting _
  · have hconfigured : settings.clinicorpConfigured = true := by
      by_contra hnot
      exact h (.inr ⟨hname, by simpa using hnot⟩)
    rw [SchedulingSettings.buildClinicorpWriteAdapter, if_pos hconfigured]
    exact SchedulingWriteAdapter.recorded_submitting _

end Built

/-! ## The result -/

section Result

variable {adapters : List (String × RecordedAdapter)} {maxRetries : Nat} {hook : ReminderHook}
  {run : CommandRun} {row : OutboxRow} {s : DrainStores} {submitted : Prop}

/-- The adapter of the row returns a result. -/
def Returns (adapters : List (String × RecordedAdapter)) (exchange : Exchange) (row : OutboxRow) :
    Prop :=
  ∃ adapter result, adapterFor adapters row = some adapter ∧
    (adapter.execute exchange (providerCommand row) (securityContext row)).result = .ok result

/-- The drainer marks the row, and reminds of it, whenever the adapter returns. -/
theorem sentMeansApplied_iff_returns (hrow : row ∈ s.outbox.rows) :
    SentMeansApplied s row ((recordedDrainer adapters maxRetries).handleCommand hook run row s)
        submitted ↔
      (row.retryCount < maxRetries → run.markSent.writes = true →
        Returns adapters run.exchange row → submitted) := by
  have hfind : s.outbox.find row.key = some row := Table.find_eq_some_iff.2 ⟨hrow, rfl⟩
  have hexhausted : (recordedDrainer adapters maxRetries).exhausted row = false ↔
      row.retryCount < maxRetries := by
    rw [OutboxDrainer.exhausted, decide_eq_false_iff_not, Nat.not_le]
    rfl
  constructor
  · rintro h hretries hwrites ⟨adapter, result, hadapter, hresult⟩
    have hof : (recordedDrainer adapters maxRetries).adapterOf row = some adapter.execute := by
      rw [adapterOf_recordedDrainer, hadapter]
      rfl
    obtain ⟨t, ht, r', hr', hsent⟩ := exists_sent hook hfind (hexhausted.2 hretries)
      hof hresult hwrites
    exact h.sent t ht r' hr' hsent
  · intro h
    have hstate : ∀ t ∈ (recordedDrainer adapters maxRetries).handleCommand hook run row s,
        ((∃ r', t.outbox.find row.key = some r' ∧ r'.status = .sent) ∨
          ∃ item ∈ t.followUps.rows, item ∉ s.followUps.rows) → submitted := by
      intro t ht hstate
      obtain ⟨hretries, hwrites, execute, result, hof, hresult⟩ :=
        returned_of_state hfind ht hstate
      rw [adapterOf_recordedDrainer] at hof
      obtain ⟨adapter, hadapter, rfl⟩ := Option.map_eq_some_iff.1 hof
      exact h (hexhausted.1 hretries) hwrites ⟨adapter, result, hadapter, hresult⟩
    exact ⟨fun t ht r' hr' hsent => hstate t ht (.inl ⟨r', hr', hsent⟩),
      fun t ht item hitem hnew => hstate t ht (.inr ⟨item, hitem, hnew⟩)⟩

/-- For adapters that may return any result, the claim holds of a call exactly where
every result that gets its row marked is a success of a submitted mutation; for
the adapters that the worker builds, exactly where the row that is marked is for a
backend that is configured. -/
theorem sentMeansApplied_iff (adapters : List (String × RecordedAdapter))
    (chatwoot : ChatwootMcpAdapter) (settings : SchedulingSettings) (maxRetries : Nat)
    (hook : ReminderHook) (run : CommandRun) (row : OutboxRow) (s : DrainStores)
    (hrow : row ∈ s.outbox.rows) :
    (SentMeansApplied s row ((recordedDrainer adapters maxRetries).handleCommand hook run row s)
        (Submitted adapters run.exchange row) ↔
      (row.retryCount < maxRetries → run.markSent.writes = true → ∀ adapter result,
        adapterFor adapters row = some adapter →
        (adapter.execute run.exchange (providerCommand row) (securityContext row)).result =
          .ok result →
        result.success = true ∧
          adapter.requests run.exchange (providerCommand row) (securityContext row) ≠ [])) ∧
    (SentMeansApplied s row ((recordedDrainer (builtAdapters chatwoot settings)
          maxRetries).handleCommand hook run row s)
        (Submitted (builtAdapters chatwoot settings) run.exchange row) ↔
      (row.retryCount < maxRetries → run.markSent.writes = true →
        ¬ Unconfigured settings row)) := by
  refine ⟨?_, ?_⟩
  · rw [sentMeansApplied_iff_returns hrow]
    refine imp_congr_right fun _ => imp_congr_right fun _ => ⟨?_, ?_⟩
    · intro h adapter result hadapter hresult
      obtain ⟨adapter', hadapter', result', hresult', hsubmits⟩ :=
        h ⟨adapter, result, hadapter, hresult⟩
      cases hadapter.symm.trans hadapter'
      cases hresult.symm.trans hresult'
      exact hsubmits
    · rintro h ⟨adapter, result, hadapter, hresult⟩
      exact ⟨adapter, hadapter, result, hresult, h adapter result hadapter hresult⟩
  · rw [sentMeansApplied_iff_returns hrow]
    refine imp_congr_right fun _ => imp_congr_right fun _ => ⟨?_, ?_⟩
    · intro h hunconfigured
      have hnull : adapterFor (builtAdapters chatwoot settings) row =
          some NullSchedulingWriteAdapter.recorded := adapterFor_of_unconfigured hunconfigured
      have htenant : (providerCommand row).tenantId = (securityContext row).tenantId := rfl
      obtain ⟨result, hresult⟩ := NullSchedulingWriteAdapter.executeCommand_ok run.exchange htenant
      obtain ⟨adapter, hadapter, hsubmits⟩ := h ⟨_, result, hnull, hresult⟩
      cases hnull.symm.trans hadapter
      exact NullSchedulingWriteAdapter.recorded_not_submits _ _ _ hsubmits
    · rintro h ⟨adapter, result, hadapter, hresult⟩
      exact ⟨adapter, hadapter, submitting_of_configured h hadapter _ _ _ result hresult⟩

end Result

section Example

/-- No scheduling backend is enabled. -/
def bareSettings : SchedulingSettings where
  text := plainText
  sha256 s := s
  environ _ := none
  googleCalendarEnabled := false
  googleCalendarCredentialRef := "secret://google/calendar"
  clinicorpEnabled := false
  clinicorpCredentialRef := "secret://clinicorp/api_key"
  clinicorpBaseUrl := "https://api.clinicorp.com"

def bareChatwoot : ChatwootMcpAdapter where
  text := plainText
  registry := { tenantId := formatUuid 1, accountIdRef := "" }
  accountId := "59"
  maxRetries := 3

/-- Reads one time, noon of the first day of 1970. -/
def noonHook : ReminderHook where
  time :=
    { fromIsoFormat := fun text =>
        if text = "1970-01-01T12:00" then some (.nearest (12 * Datetime.hour) none) else none
      isoFormat := fun _ => "1970-01-01T11:00:00+00:00" }
  sha256 s := s
  str
    | .str s => s
    | _ => ""

def appointmentRow : OutboxRow where
  tenantId := 1
  commandId := "c"
  idempotencyKey := "k"
  correlationId := "r"
  provider := "google_calendar"
  capabilityName := "schedule_appointment"
  parametersJson := [("conversation_id", .str "7"), ("datetime_iso", .str "1970-01-01T12:00")]
  riskClass := .lowWrite
  scheduledAt := 0

def appointmentStores : DrainStores where
  outbox := Table.empty.insertOrIgnore appointmentRow
  followUps := .empty

/-- The provider carries out whatever it is asked for. -/
def willing : CommandRun where
  exchange := { posts := fun _ => { applied := true, answer := .result "ref" } }

/-- With the backend configured, the appointment is submitted before it is sent. -/
theorem configured_sentMeansApplied :
    SentMeansApplied appointmentStores appointmentRow
      ((recordedDrainer (builtAdapters bareChatwoot
          { bareSettings with
            googleCalendarEnabled := true
            googleCalendarCredentialRef := "token" }) 5).handleCommand noonHook willing
        appointmentRow appointmentStores)
      (Submitted (builtAdapters bareChatwoot
          { bareSettings with
            googleCalendarEnabled := true
            googleCalendarCredentialRef := "token" }) willing.exchange appointmentRow) := by
  refine ((sentMeansApplied_iff [] bareChatwoot _ 5 noonHook willing appointmentRow
    appointmentStores (by decide)).2).2 fun _ _ => ?_
  unfold Unconfigured
  decide

/-- The states of a call for the appointment. -/
def appointmentStates (adapters : List (String × RecordedAdapter)) : List DrainStores :=
  (recordedDrainer adapters 5).handleCommand noonHook willing appointmentRow appointmentStores

/-- An adapter that submits the mutation and reports that it did not succeed. -/
def rejecting : RecordedAdapter where
  execute _ command _ :=
    { result := .ok
        { commandId := command.commandId
          idempotencyKey := command.idempotencyKey
          success := false } }
  requests _ _ _ := [{ accountId := "primary", toolName := "events.insert", arguments := [] }]

/-- Without the backend the appointment is sent and reminded of all the same, and
so is one that the adapter reports as failed. -/
theorem unsubmitted_sent :
    (∃ t ∈ appointmentStates (builtAdapters bareChatwoot bareSettings),
      (t.outbox.find appointmentRow.key).map OutboxRow.status = some .sent ∧
        t.followUps.rows.map FollowUpQueueItem.conversationId = ["7"]) ∧
    ¬ SentMeansApplied appointmentStores appointmentRow
      (appointmentStates (builtAdapters bareChatwoot bareSettings))
      (Submitted (builtAdapters bareChatwoot bareSettings) willing.exchange appointmentRow) ∧
    ¬ SentMeansApplied appointmentStores appointmentRow
      (appointmentStates [("google_calendar", rejecting)])
      (Submitted [("google_calendar", rejecting)] willing.exchange appointmentRow) := by
  have hrow : appointmentRow ∈ appointmentStores.outbox.rows := by decide
  refine ⟨by decide +kernel, fun h => ?_, fun h => ?_⟩
  · obtain ⟨adapter, hadapter, hsubmits⟩ := (sentMeansApplied_iff_returns hrow).1 h (by decide) rfl
      ⟨NullSchedulingWriteAdapter.recorded, _, rfl, rfl⟩
    obtain rfl := Option.some.inj hadapter
    exact NullSchedulingWriteAdapter.recorded_not_submits _ _ _ hsubmits
  · obtain ⟨adapter, hadapter, result, hresult, hsuccess, -⟩ :=
      (sentMeansApplied_iff_returns hrow).1 h (by decide) rfl ⟨rejecting, _, rfl, rfl⟩
    obtain rfl := Option.some.inj hadapter
    rw [← Except.ok.inj hresult] at hsuccess
    cases hsuccess

end Example

end Iara.Workers
