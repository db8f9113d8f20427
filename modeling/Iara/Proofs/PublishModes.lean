import Iara.ConfigPublishing.DatabaseMode
import Iara.ConfigPublishing.MemoryMode

/-!
# The two modes agree

Without a session factory and with one whose sessions commit, the service keeps the
same ledger.
-/

namespace Iara.ConfigPublishing

open Iara.Lib Iara.Persistence PublishService

/-- If the tenant id is a UUID, its tenant is registered and has no configuration yet. -/
def NewTenant (service : PublishService) (db : ConfigDb) : Prop :=
  ∀ tenant, parseUuid service.tenantId = some tenant → tenant ∈ db.tenants ∧
    (∀ v ∈ db.versions.rows, v.tenantId ≠ tenant) ∧
    ∀ p ∈ db.publications.rows, p.tenantId ≠ tenant

/-- No row has the UUID. -/
def Unused (db : ConfigDb) (id : Uuid) : Prop :=
  db.versions.hasKey id = false ∧ db.publications.hasKey id = false

theorem DatabaseHolds.start (canonical : Parameters → Parameters) {tenant : Uuid} {db : ConfigDb}
    (hregistered : tenant ∈ db.tenants) (hversions : ∀ v ∈ db.versions.rows, v.tenantId ≠ tenant)
    (hpublications : ∀ p ∈ db.publications.rows, p.tenantId ≠ tenant) :
    DatabaseHolds canonical tenant (Unused db) db {} where
  registered := hregistered
  drafts := by simp
  draftsKnown v hv hown := absurd hown (hversions v hv)
  publications := by simp
  known p hp hown := absurd hown (hpublications p hp)
  active p hp hown := absurd hown (hpublications p hp)
  versionKeys := by
    intro k hunused hkey
    rw [hunused.1] at hkey
    cases hkey
  publicationKeys := by
    intro k hunused hkey
    rw [hunused.2] at hkey
    cases hkey

/-- In every sequence of operations on a new tenant, with tags that fit, configurations that
their column gives back equal, distinct tags, distinct draws and no failing session, the
two modes raise at the same operations and show the same active publication after each. -/
theorem modes_agree (service : PublishService) (canonical : Parameters → Parameters)
    {db : ConfigDb} (htenant : NewTenant service db) {cs : List ServiceCall}
    (hvalid : ∀ before c rest, cs = before ++ c :: rest →
      CallValid service canonical ServiceCall.memory (fun _ => True) before c ∧
        CallValid service canonical ServiceCall.database (Unused db) before c) :
    (service.component memoryMode canonical).answers { stores := { db := db } } cs =
      (service.component databaseMode canonical).answers { stores := { db := db } } cs := by
  have hmemory : (service.component memoryMode canonical).answers ⟨⟨db, {}⟩, []⟩ cs =
      (Ledger.component service.configHash canonical).answers {} cs := by
    have hin : InMemory service memoryMode.database := .inl rfl
    refine (keepsBooks_inMemory hin canonical fun _ => True).answers_eq MemoryHolds.empty ?_
    exact fun before c rest hsplit => (hvalid before c rest hsplit).1
  have hdatabase : (service.component databaseMode canonical).answers ⟨⟨db, {}⟩, []⟩ cs =
      (Ledger.component service.configHash canonical).answers {} cs := by
    cases hparsed : parseUuid service.tenantId with
    | none =>
        have hin : InMemory service databaseMode.database := .inr hparsed
        refine (keepsBooks_inMemory hin canonical (Unused db)).answers_eq MemoryHolds.empty ?_
        exact fun before c rest hsplit => (hvalid before c rest hsplit).2
    | some tenant =>
        obtain ⟨hregistered, hversions, hpublications⟩ := htenant tenant hparsed
        have hkeeps : KeepsBooks service canonical databaseMode.database (Unused db) _ :=
          keepsBooks_database hparsed canonical (Unused db)
        refine hkeeps.answers_eq ⟨rfl, rfl, ?_⟩ ?_
        · exact .start canonical hregistered hversions hpublications
        · exact fun before c rest hsplit => (hvalid before c rest hsplit).2
  exact hmemory.trans hdatabase.symm

section Example

def plainService : PublishService where
  sha256 s := s
  text := plainText
  jsonb := plainColumn
  tenantId := formatUuid 1

def newTenantDb : ConfigDb where
  tenants := [1]

/-- A draft is published and rolled back to, and nothing is published. -/
def plainCalls : List ServiceCall :=
  [⟨.createDraft [("tone", .str "formal")] "v1", { id := 2 }, { id := 12 }⟩,
    ⟨.publish (.issued 0) "api", { id := 3 }, { id := 13 }⟩,
    ⟨.rollback (.issued 1), { id := 4 }, { id := 14 }⟩,
    ⟨.publish (.unknown "x") "api", { id := 5 }, { id := 15 }⟩]

theorem newTenant_newTenantDb {service : PublishService} (h : service.tenantId = formatUuid 1) :
    NewTenant service newTenantDb := by
  intro tenant hparsed
  rw [h, parseUuid_formatUuid] at hparsed
  obtain rfl := Option.some.inj hparsed
  exact ⟨List.mem_cons_self, by simp [newTenantDb], by simp [newTenantDb]⟩

theorem plainCalls_agree :
    (plainService.component memoryMode id).answers { stores := { db := newTenantDb } }
        plainCalls =
      (plainService.component databaseMode id).answers { stores := { db := newTenantDb } }
        plainCalls := by
  refine modes_agree plainService id (newTenant_newTenantDb rfl) ?_
  intro before c rest hsplit
  have hunused : ∀ k, Unused newTenantDb k := fun k => ⟨rfl, rfl⟩
  have hunknown : parseUuid "x" = none := by decide
  rcases before with _ | ⟨c₀, _ | ⟨c₁, _ | ⟨c₂, _ | ⟨c₃, before⟩⟩⟩⟩
  · cases hsplit
    have hdraft : DraftValid plainService id [] [("tone", .str "formal")] "v1" :=
      ⟨by decide, varchar_of_length_le (by decide) (by decide), by simp, _, rfl, rfl⟩
    exact ⟨⟨trivial, by simp, hdraft⟩, ⟨hunused _, by simp, hdraft⟩⟩
  · cases hsplit
    exact ⟨⟨trivial, by decide, trivial, varchar_api⟩,
      ⟨hunused _, by decide, trivial, varchar_api⟩⟩
  · cases hsplit
    exact ⟨⟨trivial, by decide, trivial⟩, ⟨hunused _, by decide, trivial⟩⟩
  · cases hsplit
    have hvalid : ∀ drawn, (Ref.unknown "x").Valid drawn := by
      intro drawn k hk
      rw [hunknown] at hk
      cases hk
    exact ⟨⟨trivial, by decide, hvalid _, varchar_api⟩,
      ⟨hunused _, by decide, hvalid _, varchar_api⟩⟩
  · simp [plainCalls] at hsplit

/-- A text that a JSONB column refuses, among the values of a configuration. -/
def holdsNul : Json → Bool
  | .str s => !isSendable s
  | _ => false

/-- A JSONB column keeps a number as a `numeric`: this float comes back as an integer, which is
another number. -/
def asNumeric : Json → Json
  | .real digits => if digits = "1e+23" then .num 100000000000000000000000 else .real digits
  | value => value

def numericColumn : JsonbColumn where
  take config :=
    if config.any fun entry => holdsNul entry.2 then none
    else some (config.map fun entry => (entry.1, asNumeric entry.2))
  isEmpty_take := by
    intro config stored h
    split at h
    · cases h
    · rw [← Option.some.inj h]
      exact List.isEmpty_map

def numericService : PublishService := { plainService with jsonb := numericColumn }

/-- A draft with this configuration is published. -/
def publishCalls (configData : Parameters) : List ServiceCall :=
  [⟨.createDraft configData "v1", { id := 2 }, { id := 12 }⟩,
    ⟨.publish (.issued 0) "api", { id := 3 }, { id := 13 }⟩]

/-- Where the column gives back another number, the modes show another configuration, and where it
refuses the configuration, the draft is published in one mode only. -/
theorem modes_part :
    NewTenant numericService newTenantDb ∧ varchar 64 "v1" = some "v1" ∧
      ∀ configData ∈ [[("x", Json.real "1e+23")], [("note", .str "\x00")]],
        (numericService.component memoryMode id).answers { stores := { db := newTenantDb } }
            (publishCalls configData) ≠
          (numericService.component databaseMode id).answers { stores := { db := newTenantDb } }
            (publishCalls configData) :=
  ⟨newTenant_newTenantDb rfl, varchar_of_length_le (by decide) (by decide), by decide +kernel⟩

end Example

end Iara.ConfigPublishing
