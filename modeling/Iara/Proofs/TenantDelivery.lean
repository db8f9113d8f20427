import Iara.Workers.Wiring

/-!
# Delivery to every tenant

The worker process has one Chatwoot adapter, whose registry is bound to one
tenant and one account reference.  A row is delivered exactly if its tenant is
that tenant, the reference is the placeholder that the drainer sends, and the
account of the adapter is the tenant's.  As `main` calls it, the constructor of
the registry raises, and no row is processed at all.
-/

namespace Iara.Workers

open Iara.Lib Iara.Persistence Iara.Provider

namespace OutboxDrainer

/-! ## The claim -/

/-- One poll that processes the row of a key: when it happens and what the
provider does. -/
structure Poll where
  now : Nat
  exchange : Exchange

def attempt (drainer : OutboxDrainer) (k : Uuid × String) (s : DrainShared) (poll : Poll) :
    DrainShared :=
  match s.outbox.find k with
  | none => s
  | some row =>
      if row.status = .pending then
        drainer.processCommand poll.exchange row { s with now := poll.now }
      else s

def attempts (drainer : OutboxDrainer) (k : Uuid × String) (polls : List Poll)
    (outbox : Outbox) : DrainShared :=
  polls.foldl (drainer.attempt k) { outbox := outbox }

/-- The provider carries out every POST and returns a result. -/
def Healthy (exchange : Exchange) : Prop :=
  ∀ attempt, (exchange.posts attempt).applied = true ∧
    ∃ resultRef, (exchange.posts attempt).answer = .result resultRef

/-- A pending row of a registered Chatwoot capability with retries left. -/
def Deliverable (maxRetries : Nat) (r : OutboxRow) : Prop :=
  r.status = .pending ∧ r.provider = "chatwoot" ∧ r.retryCount < maxRetries ∧
    ∃ cap ∈ defaultChatwootCapabilities, cap.intent = r.capabilityName

/-- Whatever the provider does, the row changes no account but its own tenant's;
and a provider that carries out everything gets to carry it out. -/
def DeliversRow (drainer : OutboxDrainer) (accountOf : Uuid → String) (outbox : Outbox)
    (r : OutboxRow) : Prop :=
  (∀ polls call, (r.key, call) ∈ (drainer.attempts r.key polls outbox).applied →
    call.accountId = accountOf r.tenantId) ∧
  ∀ polls r', (∀ poll ∈ polls, Healthy poll.exchange) →
    (drainer.attempts r.key polls outbox).outbox.find r.key = some r' →
      r'.status ≠ .deadLettered

end OutboxDrainer

open OutboxDrainer

namespace WorkerSettings

variable (settings : WorkerSettings)

/-- With the adapters, once they are built, every deliverable row is delivered. -/
def Delivers (adapters : Except String (List (String × ProviderAdapter)))
    (accountOf : Uuid → String) (outbox : Outbox) : Prop :=
  ∀ wired, adapters = .ok wired → ∀ r ∈ outbox.rows,
    Deliverable settings.iaraOutboxMaxRetries r →
      (settings.outboxDrainer wired).DeliversRow accountOf outbox r

/-- The binding of the registry and the account of the adapter are the row's. -/
def BoundTo (tenantId accountIdRef : String) (accountOf : Uuid → String) (r : OutboxRow) : Prop :=
  formatUuid r.tenantId = tenantId ∧ accountIdRef = "" ∧
    settings.chatwootAccountId = accountOf r.tenantId

end WorkerSettings

/-! ## One call of the adapter -/

section Adapter

variable (adapter : ChatwootMcpAdapter) {exchange : Exchange} {row : OutboxRow}

theorem registered_capability {cap : McpCapabilityEntry}
    (h : cap ∈ defaultChatwootCapabilities) :
    cap.status = .active ∧ cap.deniedAccounts = [] ∧ cap.allowedAccounts = [] ∧
      cap.mcpToolName ≠ "" ∧ PyStr.strip cap.intent ≠ "" := by
  have hall : defaultChatwootCapabilities.all (fun cap =>
      decide (cap.status = .active ∧ cap.deniedAccounts = [] ∧ cap.allowedAccounts = [] ∧
        cap.mcpToolName ≠ "" ∧ PyStr.strip cap.intent ≠ "")) = true := by decide +kernel
  exact of_decide_eq_true (List.all_eq_true.1 hall cap h)

/-- A row of another binding than the registry's is refused. -/
theorem execution_of_mismatch
    (h : formatUuid row.tenantId ≠ adapter.registry.tenantId ∨ adapter.registry.accountIdRef ≠ "") :
    ∃ e, execution adapter.executeCommand exchange row = { result := .error e } := by
  have hrefused : ∃ e, adapter.registry.resolveIntent adapter.text row.capabilityName
      (formatUuid row.tenantId) "" = .error e := by
    cases hresolve : adapter.registry.resolveIntent adapter.text row.capabilityName
        (formatUuid row.tenantId) "" with
    | error e => exact ⟨e, rfl⟩
    | ok resolution =>
        obtain ⟨htenant, haccount, -⟩ := ChatwootMcpRegistry.resolveIntent_eq_ok hresolve
        rcases h with hother | hother
        · exact absurd htenant hother
        · exact absurd haccount.symm hother
  obtain ⟨e, he⟩ := hrefused
  refine ⟨e, ?_⟩
  simp [execution, ChatwootMcpAdapter.executeCommand, providerCommand, securityContext, he]

/-- The calls of an adapter go to its own account. -/
theorem accountId_of_mem_applied {call : ProviderCall}
    (h : call ∈ (execution adapter.executeCommand exchange row).applied) :
    call.accountId = adapter.accountId := by
  simp only [execution, ChatwootMcpAdapter.executeCommand] at h
  split at h
  · cases h
  · split at h
    · cases h
    · split at h
      · cases h
      · split at h
        · cases h
        · rw [ChatwootMcpAdapter.mem_postWithRetry h]

theorem postWithRetry_of_healthy (call : ProviderCall) (hhealthy : Healthy exchange)
    (maxRetries : Nat) :
    ∃ resultRef, ChatwootMcpAdapter.postWithRetry call exchange.posts (max 1 maxRetries) 0 =
      ([call], .ok resultRef) := by
  obtain ⟨happlied, resultRef, hanswer⟩ := hhealthy 0
  have hmax : max 1 maxRetries = (max 1 maxRetries - 1) + 1 := by omega
  refine ⟨resultRef, ?_⟩
  rw [hmax]
  simp [ChatwootMcpAdapter.postWithRetry, happlied, hanswer]

/-- A registered capability resolves to its tool. -/
theorem resolveCapability_of_registered (registry : ChatwootMcpRegistry)
    (hcapabilities : registry.capabilities = defaultChatwootCapabilities)
    (hdenylist : registry.globalDenylist = []) {intent : String}
    (hregistered : ∃ cap ∈ defaultChatwootCapabilities, cap.intent = intent) (text : PyText) :
    ∃ toolName, toolName ≠ "" ∧
      (registry.resolveCapability text intent "").allowed = true ∧
      (registry.resolveCapability text intent "").resolvedToolName = some toolName := by
  obtain ⟨cap₀, hmem₀, hintent₀⟩ := hregistered
  cases hfind : registry.byIntent intent with
  | none =>
      unfold ChatwootMcpRegistry.byIntent at hfind
      rw [hcapabilities] at hfind
      have hne := List.find?_eq_none.1 hfind cap₀ (List.mem_reverse.2 hmem₀)
      simp [hintent₀] at hne
  | some cap =>
      have hmem : cap ∈ defaultChatwootCapabilities := by
        unfold ChatwootMcpRegistry.byIntent at hfind
        rw [hcapabilities] at hfind
        exact List.mem_reverse.1 (List.mem_of_find?_eq_some hfind)
      obtain ⟨hstatus, hdenied, hallowed, htool, -⟩ := registered_capability hmem
      refine ⟨cap.mcpToolName, htool, ?_, ?_⟩
      · simp [ChatwootMcpRegistry.resolveCapability, hdenylist, hfind, hstatus, hdenied, hallowed]
      · simp [ChatwootMcpRegistry.resolveCapability, hdenylist, hfind, hstatus, hdenied, hallowed]

/-- A row of the registry's binding is carried out by a healthy provider. -/
theorem execution_of_bound {tenantId : String} (hregistry : adapter.registry =
      { tenantId := tenantId, accountIdRef := "" })
    (htenant : formatUuid row.tenantId = tenantId)
    (hregistered : ∃ cap ∈ defaultChatwootCapabilities, cap.intent = row.capabilityName)
    (hhealthy : Healthy exchange) :
    ∃ call result, execution adapter.executeCommand exchange row =
      { applied := [call], result := .ok result } := by
  obtain ⟨toolName, htool, hallowed, hresolved⟩ := resolveCapability_of_registered
    adapter.registry (by rw [hregistry]) (by rw [hregistry]) hregistered adapter.text
  have hnonblank : PyStr.strip row.capabilityName ≠ "" := by
    obtain ⟨cap, hmem, hintent⟩ := hregistered
    rw [← hintent]
    exact (registered_capability hmem).2.2.2.2
  have hresolve : adapter.registry.resolveIntent adapter.text row.capabilityName
      (formatUuid row.tenantId) "" =
        .ok (adapter.registry.resolveCapability adapter.text row.capabilityName "") := by
    unfold ChatwootMcpRegistry.resolveIntent
    rw [if_neg hnonblank, if_neg (by rw [hregistry]; exact not_not_intro htenant),
      if_neg (by rw [hregistry]; exact not_not_intro rfl)]
  have htruthy : PyStr.truthyOption (some toolName) = true := by
    simp [PyStr.truthyOption, PyStr.truthy, htool]
  obtain ⟨resultRef, hposted⟩ := postWithRetry_of_healthy
    { accountId := adapter.accountId
      toolName := toolName
      arguments := ChatwootMcpAdapter.buildMcpArguments row.capabilityName toolName
        row.parametersJson } hhealthy adapter.maxRetries
  simp [execution, ChatwootMcpAdapter.executeCommand, providerCommand, securityContext, hresolve,
    hallowed, hresolved, htruthy, hposted, Except.map]

end Adapter

/-! ## Polls -/

section Polls

variable {drainer : OutboxDrainer} {k : Uuid × String} {s : DrainShared} {row : OutboxRow}

/-- What a failure leaves of a row. -/
def afterFailure (drainer : OutboxDrainer) (now : Nat) (row : OutboxRow) : OutboxRow :=
  if drainer.lastAttempt row then row.markDeadLettered
  else row.markFailedForRetry (now + timedelta (backoff row))

theorem find_recordFailure (hfind : s.outbox.find k = some row) (now : Nat) :
    (drainer.recordFailure now row s.outbox).find k = some (afterFailure drainer now row) := by
  unfold OutboxDrainer.recordFailure afterFailure
  split
  · exact OutboxRepository.find_markDeadLettered hfind
  · exact OutboxRepository.find_markFailedForRetry hfind

/-- An attempt whose execution fails before the provider is reached. -/
theorem attempt_of_error {adapter : ProviderAdapter} {poll : Poll} {e : IaraError}
    (hfind : s.outbox.find k = some row) (hpending : row.status = .pending)
    (hretries : row.retryCount < drainer.maxRetries)
    (hadapter : drainer.adapterOf row = some adapter)
    (hexecution : execution adapter poll.exchange row = { result := .error e }) :
    (drainer.attempt k s poll).outbox.find k = some (afterFailure drainer poll.now row) := by
  have hexhausted : drainer.exhausted row = false := by
    unfold OutboxDrainer.exhausted
    exact decide_eq_false (by omega)
  unfold OutboxDrainer.attempt OutboxDrainer.processCommand
  simp only [hfind, hpending, if_true, hexhausted, Bool.false_eq_true, if_false, hadapter,
    hexecution]
  exact find_recordFailure hfind poll.now

/-- A row that every execution refuses is dead-lettered once its retries are
used up; `left` counts those after this one. -/
theorem deadLettered_of_refused {adapter : ProviderAdapter} {poll : Poll} (left : Nat)
    (hfind : s.outbox.find k = some row) (hpending : row.status = .pending)
    (hretries : row.retryCount + left + 1 = drainer.maxRetries)
    (hadapter : ∀ r : OutboxRow, r.provider = row.provider → drainer.adapterOf r = some adapter)
    (hrefused : ∀ r : OutboxRow, r.tenantId = row.tenantId →
      ∃ e, execution adapter poll.exchange r = { result := .error e }) :
    ∃ r', ((List.replicate (left + 1) poll).foldl (drainer.attempt k) s).outbox.find k = some r' ∧
      r'.status = .deadLettered := by
  induction left generalizing s row with
  | zero =>
      obtain ⟨e, he⟩ := hrefused row rfl
      have hstep := attempt_of_error hfind hpending (by omega) (hadapter row rfl) he
      refine ⟨_, hstep, ?_⟩
      have hlast : drainer.lastAttempt row = true := by
        unfold OutboxDrainer.lastAttempt
        exact decide_eq_true (by omega)
      unfold afterFailure
      rw [if_pos hlast]
      rfl
  | succ left ih =>
      obtain ⟨e, he⟩ := hrefused row rfl
      have hstep := attempt_of_error hfind hpending (by omega) (hadapter row rfl) he
      have hmore : drainer.lastAttempt row = false := by
        unfold OutboxDrainer.lastAttempt
        exact decide_eq_false (by omega)
      have hnext : afterFailure drainer poll.now row =
          row.markFailedForRetry (poll.now + timedelta (backoff row)) := by
        unfold afterFailure
        rw [hmore]
        rfl
      rw [hnext] at hstep
      rw [List.replicate_succ, List.foldl_cons]
      refine ih hstep rfl ?_ hadapter hrefused
      show row.retryCount + 1 + left + 1 = drainer.maxRetries
      omega

/-- A row that is not pending is left alone. -/
theorem attempts_of_settled (hfind : s.outbox.find k = some row) (hsettled : row.status ≠ .pending)
    (polls : List Poll) : polls.foldl (drainer.attempt k) s = s := by
  induction polls with
  | nil => rfl
  | cons poll polls ih =>
      have hstep : drainer.attempt k s poll = s := by
        unfold OutboxDrainer.attempt
        simp only [hfind, if_neg hsettled]
      rw [List.foldl_cons, hstep, ih]

/-- An attempt that the provider carries out. -/
theorem attempt_of_ok {adapter : ProviderAdapter} {poll : Poll} {call : ProviderCall}
    {result : ProviderMutationResult} (hfind : s.outbox.find k = some row)
    (hpending : row.status = .pending) (hretries : row.retryCount < drainer.maxRetries)
    (hadapter : drainer.adapterOf row = some adapter)
    (hexecution : execution adapter poll.exchange row =
      { applied := [call], result := .ok result }) :
    (drainer.attempt k s poll).outbox.find k = some row.markSent ∧
      (row.key, call) ∈ (drainer.attempt k s poll).applied := by
  have hexhausted : drainer.exhausted row = false := by
    unfold OutboxDrainer.exhausted
    exact decide_eq_false (by omega)
  unfold OutboxDrainer.attempt OutboxDrainer.processCommand
  simp only [hfind, hpending, if_true, hexhausted, Bool.false_eq_true, if_false, hadapter,
    hexecution]
  exact ⟨OutboxRepository.find_markSent hfind, by simp⟩

/-- What one attempt adds to the calls, and what it leaves of the row. -/
theorem attempt_cases {adapter : ProviderAdapter} (poll : Poll)
    (hfind : s.outbox.find k = some row) (hadapter : drainer.adapterOf row = some adapter) :
    (∃ row', (drainer.attempt k s poll).outbox.find k = some row' ∧
      row'.provider = row.provider) ∧
    ∀ p ∈ (drainer.attempt k s poll).applied, p ∈ s.applied ∨
      ∃ call ∈ (execution adapter poll.exchange row).applied, p = (row.key, call) := by
  unfold OutboxDrainer.attempt OutboxDrainer.processCommand
  simp only [hfind]
  split
  · split
    · refine ⟨⟨row.markDeadLettered, ?_, rfl⟩, fun p hp => Or.inl hp⟩
      exact OutboxRepository.find_markDeadLettered hfind
    · simp only [hadapter]
      have hcalls : ∀ p ∈ s.applied ++
          (execution adapter poll.exchange row).applied.map (fun call => (row.key, call)),
          p ∈ s.applied ∨
            ∃ call ∈ (execution adapter poll.exchange row).applied, p = (row.key, call) := by
        intro p hp
        rcases List.mem_append.1 hp with hold | hnew
        · exact Or.inl hold
        · obtain ⟨call, hcall, rfl⟩ := List.mem_map.1 hnew
          exact Or.inr ⟨call, hcall, rfl⟩
      cases (execution adapter poll.exchange row).result with
      | ok result => exact ⟨⟨row.markSent, OutboxRepository.find_markSent hfind, rfl⟩, hcalls⟩
      | error e =>
          refine ⟨⟨_, find_recordFailure hfind poll.now, ?_⟩, hcalls⟩
          unfold afterFailure
          split <;> rfl
  · exact ⟨⟨row, hfind, rfl⟩, fun p hp => Or.inl hp⟩

/-- All calls go to the account of the adapter. -/
theorem accountId_of_attempts {adapter : ChatwootMcpAdapter} (polls : List Poll)
    (hadapter : ∀ r : OutboxRow, r.provider = "chatwoot" →
      drainer.adapterOf r = some adapter.executeCommand)
    (hfind : s.outbox.find k = some row) (hprovider : row.provider = "chatwoot")
    (hbefore : ∀ p ∈ s.applied, p.2.accountId = adapter.accountId) :
    ∀ p ∈ (polls.foldl (drainer.attempt k) s).applied, p.2.accountId = adapter.accountId := by
  induction polls generalizing s row with
  | nil => exact hbefore
  | cons poll polls ih =>
      obtain ⟨⟨row', hfind', hprovider'⟩, hcalls⟩ :=
        attempt_cases poll hfind (hadapter row hprovider)
      rw [List.foldl_cons]
      refine ih hfind' (hprovider'.trans hprovider) ?_
      intro p hp
      rcases hcalls p hp with hold | ⟨call, hcall, rfl⟩
      · exact hbefore p hold
      · exact accountId_of_mem_applied adapter hcall

end Polls

/-! ## Every outbox -/

section Outboxes

variable {settings : WorkerSettings} {accountOf : Uuid → String} {outbox : Outbox}

/-- The Chatwoot adapter of a registry bound to `tenantId` and `accountIdRef`. -/
def chatwootAdapter (settings : WorkerSettings) (tenantId accountIdRef : String) :
    ChatwootMcpAdapter where
  text := settings.text
  registry := { tenantId := tenantId, accountIdRef := accountIdRef }
  accountId := settings.chatwootAccountId
  maxRetries := settings.chatwootMcpMaxRetries

theorem adapterOf_chatwoot {tenantId accountIdRef : String}
    {wired : List (String × ProviderAdapter)}
    (hwired : settings.wire (some tenantId) (some accountIdRef) = .ok wired) {r : OutboxRow}
    (hprovider : r.provider = "chatwoot") :
    (settings.outboxDrainer wired).adapterOf r =
      some (chatwootAdapter settings tenantId accountIdRef).executeCommand := by
  cases hwired
  simp [OutboxDrainer.adapterOf, WorkerSettings.outboxDrainer, hprovider, PyStr.truthy,
    chatwootAdapter]

def healthyPoll : Poll where
  now := 0
  exchange := { posts := fun _ => { applied := true, answer := .result "" } }

theorem healthy_healthyPoll : Healthy healthyPoll.exchange := fun _ => ⟨rfl, "", rfl⟩

/-- Refused at every poll, a row ends as a dead letter. -/
theorem not_deliversRow_of_unbound {tenantId accountIdRef : String}
    {wired : List (String × ProviderAdapter)}
    (hwired : settings.wire (some tenantId) (some accountIdRef) = .ok wired) {r : OutboxRow}
    (hr : r ∈ outbox.rows) (hdeliverable : Deliverable settings.iaraOutboxMaxRetries r)
    (hunbound : ¬ (formatUuid r.tenantId = tenantId ∧ accountIdRef = "")) :
    ¬ (settings.outboxDrainer wired).DeliversRow accountOf outbox r := by
  obtain ⟨hpending, hprovider, hretries, -⟩ := hdeliverable
  have hfind : outbox.find r.key = some r := Table.find_eq_some_iff.2 ⟨hr, rfl⟩
  rintro ⟨-, halive⟩
  have hmismatch : ∀ r' : OutboxRow, r'.tenantId = r.tenantId →
      ∃ e, execution (chatwootAdapter settings tenantId accountIdRef).executeCommand
        healthyPoll.exchange r' = { result := .error e } := by
    intro r' htenant
    apply execution_of_mismatch
    rw [htenant]
    by_cases htenant' : formatUuid r.tenantId = tenantId
    · exact Or.inr fun haccountRef => hunbound ⟨htenant', haccountRef⟩
    · exact Or.inl htenant'
  obtain ⟨left, hleft⟩ := Nat.exists_eq_add_of_lt hretries
  obtain ⟨r', hfind', hdead⟩ := deadLettered_of_refused (s := { outbox := outbox }) left hfind
    hpending hleft.symm
    (fun r' h => adapterOf_chatwoot hwired (h.trans hprovider)) hmismatch
  refine halive (List.replicate (left + 1) healthyPoll) r' ?_ hfind' hdead
  intro poll hpoll
  rw [List.eq_of_mem_replicate hpoll]
  exact healthy_healthyPoll

/-- The first poll of a bound row calls the account of the worker. -/
theorem accountOf_of_deliversRow {tenantId : String} {wired : List (String × ProviderAdapter)}
    (hwired : settings.wire (some tenantId) (some "") = .ok wired) {r : OutboxRow}
    (hr : r ∈ outbox.rows) (hdeliverable : Deliverable settings.iaraOutboxMaxRetries r)
    (htenant : formatUuid r.tenantId = tenantId)
    (hdelivers : (settings.outboxDrainer wired).DeliversRow accountOf outbox r) :
    settings.chatwootAccountId = accountOf r.tenantId := by
  obtain ⟨hpending, hprovider, hretries, hregistered⟩ := hdeliverable
  have hfind : outbox.find r.key = some r := Table.find_eq_some_iff.2 ⟨hr, rfl⟩
  obtain ⟨call, result, hexecution⟩ := execution_of_bound
    (chatwootAdapter settings tenantId "") rfl htenant hregistered healthy_healthyPoll
  have hcall := (attempt_of_ok (s := { outbox := outbox }) hfind hpending hretries
    (adapterOf_chatwoot hwired hprovider) hexecution).2
  have haccount : call.accountId = (chatwootAdapter settings tenantId "").accountId := by
    have hmem : call ∈ (execution (chatwootAdapter settings tenantId "").executeCommand
        healthyPoll.exchange r).applied := by
      rw [hexecution]
      exact List.mem_singleton_self call
    exact accountId_of_mem_applied _ hmem
  exact haccount.symm.trans (hdelivers.1 [healthyPoll] call hcall)

theorem deliversRow_iff_boundTo {tenantId accountIdRef : String}
    {wired : List (String × ProviderAdapter)}
    (hwired : settings.wire (some tenantId) (some accountIdRef) = .ok wired) {r : OutboxRow}
    (hr : r ∈ outbox.rows) (hdeliverable : Deliverable settings.iaraOutboxMaxRetries r) :
    (settings.outboxDrainer wired).DeliversRow accountOf outbox r ↔
      settings.BoundTo tenantId accountIdRef accountOf r := by
  have ⟨hpending, hprovider, hretries, hregistered⟩ := hdeliverable
  have hfind : outbox.find r.key = some r := Table.find_eq_some_iff.2 ⟨hr, rfl⟩
  have hadapter : ∀ r' : OutboxRow, r'.provider = "chatwoot" →
      (settings.outboxDrainer wired).adapterOf r' =
        some (chatwootAdapter settings tenantId accountIdRef).executeCommand :=
    fun r' h => adapterOf_chatwoot hwired h
  constructor
  · intro hdelivers
    have hbound : formatUuid r.tenantId = tenantId ∧ accountIdRef = "" := by
      by_contra hunbound
      exact not_deliversRow_of_unbound hwired hr hdeliverable hunbound hdelivers
    obtain ⟨htenant, rfl⟩ := hbound
    exact ⟨htenant, rfl, accountOf_of_deliversRow hwired hr hdeliverable htenant hdelivers⟩
  · rintro ⟨htenant, haccountRef, haccount⟩
    subst haccountRef
    constructor
    · intro polls call hcall
      have hall := accountId_of_attempts polls hadapter (s := { outbox := outbox }) hfind hprovider
        (by simp) (r.key, call) hcall
      exact hall.trans haccount
    · intro polls r' hhealthy hfind'
      cases polls with
      | nil =>
          have hsame : outbox.find r.key = some r' := hfind'
          rw [hfind, Option.some.injEq] at hsame
          rw [← hsame, hpending]
          simp
      | cons poll polls =>
          obtain ⟨call, result, hexecution⟩ := execution_of_bound
            (chatwootAdapter settings tenantId "") rfl htenant hregistered
            (hhealthy poll List.mem_cons_self)
          have hsent := (attempt_of_ok (s := { outbox := outbox }) hfind hpending hretries
            (hadapter r hprovider) hexecution).1
          have hsettled : r.markSent.status ≠ .pending := by simp [OutboxRow.markSent]
          unfold OutboxDrainer.attempts at hfind'
          rw [List.foldl_cons, attempts_of_settled hsent hsettled, hsent,
            Option.some.injEq] at hfind'
          rw [← hfind']
          simp [OutboxRow.markSent]

theorem delivers_wire_iff (settings : WorkerSettings) (accountOf : Uuid → String)
    (outbox : Outbox) (tenantId accountIdRef : String) :
    settings.Delivers (settings.wire (some tenantId) (some accountIdRef)) accountOf outbox ↔
      ∀ r ∈ outbox.rows, Deliverable settings.iaraOutboxMaxRetries r →
        settings.BoundTo tenantId accountIdRef accountOf r := by
  constructor
  · intro hdelivers r hr hdeliverable
    exact (deliversRow_iff_boundTo rfl hr hdeliverable).1 (hdelivers _ rfl r hr hdeliverable)
  · intro hbound wired hwired r hr hdeliverable
    exact (deliversRow_iff_boundTo hwired hr hdeliverable).2 (hbound r hr hdeliverable)

theorem adapters_eq_error (settings : WorkerSettings) : settings.adapters = .error "TypeError" :=
  rfl

end Outboxes

section Example

def unavailable : ProviderAdapter := fun _ _ _ =>
  { result := .error { kind := .provider, message := "not configured" } }

def plainSettings : WorkerSettings where
  text := plainText
  chatwootAccountId := "1"
  chatwootMcpMaxRetries := 3
  iaraOutboxMaxRetries := 5
  googleCalendarWriteAdapter := unavailable
  clinicorpWriteAdapter := unavailable

def replyOf (tenant : Uuid) : OutboxRow where
  tenantId := tenant
  commandId := formatUuid tenant
  idempotencyKey := "reply"
  correlationId := "correlation"
  provider := "chatwoot"
  capabilityName := "send_message"
  parametersJson := [("conversation_id", .str "7"), ("content", .str "hello")]
  riskClass := .lowWrite
  scheduledAt := 0

def accounts (tenant : Uuid) : String := if tenant = 1 then "1" else "2"

/-- One pending reply of each of two tenants. -/
def twoTenants : Outbox where
  rows := [replyOf 1, replyOf 2]
  unique := by decide

end Example

end Iara.Workers
