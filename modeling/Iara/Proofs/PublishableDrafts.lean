import Iara.Api.Config
import Iara.ConfigPublishing.ServiceSteps

/-!
# Acknowledged drafts

A draft whose row does not reach its table is acknowledged like any other, and kept
by a service that ends with the request.
-/

namespace Iara.Api

open Iara.Lib Iara.Persistence Iara.ConfigPublishing

namespace ConfigRouter

variable {router : ConfigRouter} {tenantId : String} {s s' s'' : History}

/-! ## Histories -/

theorem createDraft_db (r : DraftRequest) (database : Database) (db : ConfigDb) :
    (router.createDraft tenantId r database db).2 =
      (database.close db ((router.buildService tenantId).insertDraft r db)).2 :=
  PublishService.createDraft_db r database ⟨db, {}⟩

theorem publishDraft_db (r : PublishRequest) (database : Database) (db : ConfigDb) :
    (router.publishDraft tenantId r database db).2 =
      (database.close db ((router.buildService tenantId).publishInDb r db)).2 := by
  have hstores : ((router.buildService tenantId).publish r database ⟨db, {}⟩).2.db = _ :=
    PublishService.publish_db r database ⟨db, {}⟩
  rw [← hstores, publishDraft]
  simp only
  split <;> rfl

theorem rollbackConfig_db (publicationId : String) (now : Nat) (database : Database)
    (db : ConfigDb) : (router.rollbackConfig tenantId publicationId now database db).2 =
      (database.close db ((router.buildService tenantId).rollbackInDb publicationId now db)).2 := by
  have hstores :
      ((router.buildService tenantId).rollback publicationId now database ⟨db, {}⟩).2.db = _ :=
    PublishService.rollback_db publicationId now database ⟨db, {}⟩
  rw [← hstores, rollbackConfig]
  simp only
  split <;> rfl

theorem versionsKept_respond (router : ConfigRouter) (call : Call) (db : ConfigDb) :
    PublishService.VersionsKept call.request.draw db (router.respond call db).2 := by
  obtain ⟨tenantId, request, database⟩ := call
  cases request with
  | createDraft config draftId stamp =>
      exact PublishService.versionsKept_createDraft (r := draftRequest config draftId stamp)
        database ⟨db, {}⟩
  | publishDraft r =>
      change PublishService.VersionsKept _ db (router.publishDraft tenantId r database db).2
      rw [publishDraft_db, ← PublishService.publish_db r database ⟨db, {}⟩]
      exact PublishService.versionsKept_publish database ⟨db, {}⟩
  | getActiveConfig => exact .of_eq rfl
  | rollbackConfig publicationId now =>
      change PublishService.VersionsKept _ db
        (router.rollbackConfig tenantId publicationId now database db).2
      rw [rollbackConfig_db, ← PublishService.rollback_db publicationId now database ⟨db, {}⟩]
      exact PublishService.versionsKept_rollback database ⟨db, {}⟩

theorem step_eq_some {call : Call} (hstep : router.machine.step s call = some s') :
    (∀ k ∈ call.request.draw, Fresh s k) ∧ s'.db = (router.respond call s.db).2 ∧
      s'.drawn = call.request.draw.toList ++ s.drawn := by
  simp only [machine] at hstep
  split at hstep
  next hfresh =>
    cases hstep
    exact ⟨hfresh, rfl, rfl⟩
  next => cases hstep

theorem step_of_fresh (router : ConfigRouter) {s : History} {call : Call}
    (h : ∀ k ∈ call.request.draw, Fresh s k) : router.machine.step s call =
      some ⟨(router.respond call s.db).2, call.request.draw.toList ++ s.drawn⟩ := by
  simp only [machine]
  exact if_pos h

/-- The version of a draft is the one with its configuration, whatever comes after. -/
theorem publishable_of_run {calls : List Call} (hrun : router.machine.run s calls = some s')
    {tenant draft : Uuid} {v : AgentConfigVersion}
    (h : PublishService.PublishableVersion s.db tenant draft v) :
    ∃ v, PublishService.PublishableVersion s'.db tenant draft v := by
  refine router.machine.invariant_of_step
    (I := fun s => ∃ v, PublishService.PublishableVersion s.db tenant draft v) ?_ ⟨v, h⟩ hrun
  rintro s call s' ⟨v, h⟩ hstep
  obtain ⟨-, hdb, -⟩ := step_eq_some hstep
  have hkept := versionsKept_respond router call s.db
  rw [← hdb] at hkept
  obtain ⟨v', hfound, hown, hconfig⟩ := hkept.kept draft v h.found
  exact ⟨v', hfound, hown.trans h.own, by rw [hconfig]; exact h.nonempty⟩

/-- A version that did not come with its UUID does not come later. -/
theorem absent_of_run {calls : List Call} (hrun : router.machine.run s calls = some s')
    {draft : Uuid} (hdrawn : draft ∈ s.drawn) (h : s.db.versions.find draft = none) :
    s'.db.versions.find draft = none := by
  have hinv := router.machine.invariant_of_step
    (I := fun s => draft ∈ s.drawn ∧ s.db.versions.find draft = none) ?_ ⟨hdrawn, h⟩ hrun
  · exact hinv.2
  · rintro s call s' ⟨hdrawn, h⟩ hstep
    obtain ⟨hfresh, hdb, hdraws⟩ := step_eq_some hstep
    have hkept := versionsKept_respond router call s.db
    rw [← hdb] at hkept
    refine ⟨by rw [hdraws]; exact List.mem_append_right _ hdrawn, hkept.absent draft h ?_⟩
    intro hdraw
    exact (hfresh draft hdraw).1 hdrawn

/-! ## Acknowledged drafts -/

/-- The row of the draft reaches its table. -/
structure DraftStored (router : ConfigRouter) (db : ConfigDb) (tenantId : String)
    (r : DraftRequest) (database : Database) : Prop where
  writes : database.writes = true
  tenant : ∃ tenant storedTag, parseUuid tenantId = some tenant ∧ tenant ∈ db.tenants ∧
    varchar 64 (PublishService.tag r) = some storedTag ∧
    PublishService.tagTaken db tenant storedTag = false
  taken : (router.jsonb.take r.configData).isSome = true

theorem exists_insertable_iff {db : ConfigDb} {r : DraftRequest} {database : Database}
    (hnew : db.versions.hasKey r.draftId = false) :
    DraftStored router db tenantId r database ↔ database.writes = true ∧
      ∃ tenant storedTag stored, PublishService.Insertable (router.buildService tenantId) db r
        tenant storedTag stored := by
  constructor
  · rintro ⟨hwrites, ⟨tenant, storedTag, hparsed, hregistered, htag, hfree⟩, htaken⟩
    obtain ⟨stored, hstored⟩ := Option.isSome_iff_exists.1 htaken
    exact ⟨hwrites, tenant, storedTag, stored, hparsed, hregistered, htag, hstored, hnew, hfree⟩
  · rintro ⟨hwrites, tenant, storedTag, stored, h⟩
    exact ⟨hwrites, ⟨tenant, storedTag, h.parsed, h.registered, h.tagTakes, h.tagFree⟩,
      Option.isSome_iff_exists.2 ⟨stored, h.taken⟩⟩

/-- What `create_draft` leaves under the draft's UUID. -/
theorem find_createDraft (router : ConfigRouter) (tenantId : String) (config : TenantConfig)
    {draftId : Uuid} (stamp : String) (database : Database) {db : ConfigDb}
    (hnew : db.versions.hasKey draftId = false) :
    (DraftStored router db tenantId (draftRequest config draftId stamp) database ∧
        ∃ tenant v, parseUuid tenantId = some tenant ∧ PublishService.PublishableVersion
          (router.createDraft tenantId (draftRequest config draftId stamp) database db).2
          tenant draftId v) ∨
      (¬ DraftStored router db tenantId (draftRequest config draftId stamp) database ∧
        (router.createDraft tenantId (draftRequest config draftId stamp) database
          db).2.versions.find draftId = none) := by
  have hnone : db.versions.find draftId = none := by
    rwa [Table.hasKey_eq_isSome_find, Option.isSome_eq_false_iff, Option.isNone_iff_eq_none]
      at hnew
  rw [exists_insertable_iff hnew, createDraft_db]
  by_cases hinsertable : ∃ tenant storedTag stored, PublishService.Insertable
      (router.buildService tenantId) db (draftRequest config draftId stamp) tenant storedTag stored
  · obtain ⟨tenant, storedTag, stored, h⟩ := hinsertable
    rw [h.insertDraft_eq, Database.close_snd_of_ok]
    cases hwrites : database.writes with
    | true =>
        left
        refine ⟨⟨rfl, tenant, storedTag, stored, h⟩, tenant,
          (router.buildService tenantId).version tenant (draftRequest config draftId stamp)
            storedTag stored, h.parsed, ?_, rfl, ?_⟩
        · rw [if_pos rfl]
          refine Table.find_insertOrIgnore.trans ?_
          rw [hnone, Option.none_or]
          exact if_pos rfl
        · exact (router.jsonb.isEmpty_take h.taken).trans config.dump_ne
    | false =>
        right
        rw [if_neg Bool.false_ne_true]
        exact ⟨fun hstored => Bool.false_ne_true hstored.1, hnone⟩
  · right
    refine ⟨fun h => hinsertable h.2, ?_⟩
    push Not at hinsertable
    obtain ⟨exception, herror⟩ := PublishService.insertDraft_eq_other hinsertable
    rw [herror]
    rcases Database.close_snd db
      (.error (.other exception) : Except Failure (Unit × ConfigDb)) database with
      hsame | ⟨answer, after, hok, -⟩
    · rw [hsame]
      exact hnone
    · cases hok

/-! ## Publishing -/

theorem publishDraft_eq_published {tenant draft : Uuid} {v : AgentConfigVersion} {db : ConfigDb}
    {r : PublishRequest} (h : PublishService.PublishableVersion db tenant draft v)
    (htenant : parseUuid tenantId = some tenant) (hdraft : r.draftId = formatUuid draft)
    (hfits : (varchar 256 (PyStr.slice r.publishedBy 256)).isSome = true)
    (hnew : db.publications.hasKey r.publicationId = false) :
    (router.publishDraft tenantId r (.session .commits) db).1 =
      .published
        { publicationId := formatUuid r.publicationId, draftId := r.draftId
          tenantId := tenantId } := by
  have hparsed : parseUuid r.draftId = some draft := by rw [hdraft, parseUuid_formatUuid]
  have hok : (router.buildService tenantId).publishInDb r db =
      .ok ((), PublishService.publishRows tenant draft r db) :=
    h.publishInDb_eq htenant hparsed hfits hnew
  simp only [publishDraft, PublishService.publish, hok]
  rfl

theorem publishDraft_ne_published {draft : Uuid} {db : ConfigDb} {r : PublishRequest}
    {response : PublishResponse} (hdraft : r.draftId = formatUuid draft)
    (habsent : db.versions.find draft = none) :
    (router.publishDraft tenantId r (.session .commits) db).1 ≠ .published response := by
  have hparsed : parseUuid r.draftId = some draft := by rw [hdraft, parseUuid_formatUuid]
  cases htenant : parseUuid tenantId with
  | none =>
      have hother : (router.buildService tenantId).publishInDb r db =
          .error (.other "ValueError") := by
        have hbuild : parseUuid (router.buildService tenantId).tenantId = none := htenant
        simp only [PublishService.publishInDb, hbuild]
      simp only [publishDraft, PublishService.publish, hother]
      simp [Database.close, PublishService.publishInMemory]
  | some tenant =>
      have hnone : ∀ v, ¬ PublishService.PublishableVersion db tenant draft v := by
        intro v hv
        have hfound := hv.found
        rw [habsent] at hfound
        cases hfound
      obtain ⟨message, herror⟩ : ∃ message, (router.buildService tenantId).publishInDb r db =
          .error (.publishError message) :=
        PublishService.publishInDb_eq_publishError htenant hparsed hnone
      simp only [publishDraft, PublishService.publish, herror]
      simp [Database.close, Except.map]

/-- Every draft is acknowledged.  At any later time, a request that publishes it while
the database is up goes through exactly if the row of the draft reached its table. -/
theorem acknowledgedDraft_iff {config : TenantConfig} {draftId : Uuid} {stamp : String}
    {database : Database}
    (hstep : router.machine.step s ⟨tenantId, .createDraft config draftId stamp, database⟩ =
      some s')
    {calls : List Call} (hrun : router.machine.run s' calls = some s'') {r : PublishRequest}
    (hdraft : r.draftId = formatUuid draftId)
    (hfits : (varchar 256 (PyStr.slice r.publishedBy 256)).isSome = true)
    (hfresh : Fresh s'' r.publicationId) :
    (∃ versionTag, (router.respond ⟨tenantId, .createDraft config draftId stamp, database⟩ s.db).1 =
      .created { draftId := r.draftId, tenantId := tenantId, versionTag := versionTag }) ∧
    ((router.publishDraft tenantId r (.session .commits) s''.db).1 =
        .published
          { publicationId := formatUuid r.publicationId, draftId := r.draftId
            tenantId := tenantId } ↔
      DraftStored router s.db tenantId (draftRequest config draftId stamp) database) := by
  obtain ⟨hdraw, hdb, hdrawn⟩ := step_eq_some hstep
  have hnew : s.db.versions.hasKey draftId = false := (hdraw draftId rfl).2.1
  constructor
  · refine ⟨if PyStr.truthyOption (some config.versionTag) then config.versionTag else "auto", ?_⟩
    rw [hdraft]
    simp only [respond, createDraft, PublishService.createDraft]
    split <;> rfl
  · rcases find_createDraft router tenantId config stamp database hnew with
      ⟨hstored, tenant, v, hparsed, hversion⟩ | ⟨hlost, habsent⟩
    · refine iff_of_true ?_ hstored
      have hafter : PublishService.PublishableVersion s'.db tenant draftId v := by
        rw [hdb]
        exact hversion
      obtain ⟨v', hlater⟩ := publishable_of_run hrun hafter
      exact publishDraft_eq_published hlater hparsed hdraft hfits hfresh.2.2
    · refine iff_of_false ?_ hlost
      have hafter : s'.db.versions.find draftId = none := by
        rw [hdb]
        exact habsent
      have hlater := absent_of_run hrun (by rw [hdrawn]; exact List.mem_cons_self) hafter
      exact publishDraft_ne_published hdraft hlater

section Example

def plainConfigRouter : ConfigRouter where
  sha256 s := s
  text := plainText
  jsonb := plainColumn

def plainTenantId : String := formatUuid 1

def plainConfig : TenantConfig where
  versionTag := "v1"
  dump := [("version_tag", .str "v1")]
  dump_ne := rfl

def plainDraft (draftId : Uuid) : DraftRequest := draftRequest plainConfig draftId "20260101120000"

/-- A draft with the tag "v1". -/
def draftCall (draftId : Uuid) : Call where
  tenantId := plainTenantId
  request := .createDraft plainConfig draftId "20260101120000"
  database := .session .commits

def registered : ConfigDb where
  tenants := [1]

def withFirst : ConfigDb :=
  (plainConfigRouter.buildService plainTenantId).draftRows 1 (plainDraft 7) "v1" plainConfig.dump
    registered

def publishRequest (draftId publicationId : Uuid) : PublishRequest where
  draftId := formatUuid draftId
  publishedBy := "api"
  publicationId := publicationId
  now := 0

theorem step_draftCall (s : History) (draftId : Uuid) (hfresh : Fresh s draftId) :
    plainConfigRouter.machine.step s (draftCall draftId) =
      some ⟨(plainConfigRouter.respond (draftCall draftId) s.db).2, draftId :: s.drawn⟩ := by
  refine step_of_fresh plainConfigRouter ?_
  intro k hk
  cases hk
  exact hfresh

theorem respond_first :
    (plainConfigRouter.respond (draftCall 7) registered).2 = withFirst := by
  have hinsertable : PublishService.Insertable (plainConfigRouter.buildService plainTenantId)
      registered (plainDraft 7) 1 "v1" plainConfig.dump :=
    ⟨parseUuid_formatUuid 1, by decide, varchar_of_length_le (by decide) (by decide), rfl,
      by decide, by decide⟩
  have hinsert := hinsertable.insertDraft_eq
  change (plainConfigRouter.createDraft plainTenantId (plainDraft 7) (.session .commits)
    registered).2 = withFirst
  simp only [createDraft, PublishService.createDraft, hinsert]
  rfl

theorem firstDraft_acknowledged :
    (∃ versionTag, (plainConfigRouter.respond (draftCall 7) registered).1 =
      .created
        { draftId := formatUuid 7, tenantId := plainTenantId, versionTag := versionTag }) ∧
    ((plainConfigRouter.publishDraft plainTenantId (publishRequest 7 9) (.session .commits)
        withFirst).1 =
        .published
          { publicationId := formatUuid 9, draftId := formatUuid 7, tenantId := plainTenantId } ↔
      DraftStored plainConfigRouter registered plainTenantId (plainDraft 7)
        (.session .commits)) := by
  have hstep := step_draftCall ⟨registered, []⟩ 7 (by decide)
  rw [respond_first] at hstep
  have hfresh : Fresh ⟨withFirst, [7]⟩ 9 := by decide
  have hrun : plainConfigRouter.machine.run ⟨withFirst, [7]⟩ [] = some ⟨withFirst, [7]⟩ := rfl
  exact acknowledgedDraft_iff hstep hrun (r := publishRequest 7 9) rfl varchar_api
    hfresh

/-- The second draft of a tag is acknowledged, and cannot be published. -/
theorem secondDraft_unpublishable :
    plainConfigRouter.machine.step ⟨registered, []⟩ (draftCall 7) = some ⟨withFirst, [7]⟩ ∧
    ∃ s, plainConfigRouter.machine.step ⟨withFirst, [7]⟩ (draftCall 8) = some s ∧
      (plainConfigRouter.respond (draftCall 8) withFirst).1 =
        .created
          { draftId := formatUuid 8, tenantId := plainTenantId, versionTag := "v1" } ∧
      ∀ response, (plainConfigRouter.publishDraft plainTenantId (publishRequest 8 9)
        (.session .commits) s.db).1 ≠ .published response := by
  have hfirst := step_draftCall ⟨registered, []⟩ 7 (by decide)
  rw [respond_first] at hfirst
  have hsecond := step_draftCall ⟨withFirst, [7]⟩ 8 (by decide)
  refine ⟨hfirst, _, hsecond, ?_, ?_⟩
  · simp only [respond, draftCall, createDraft, PublishService.createDraft]
    split <;> rfl
  · intro response
    have htaken : ¬ DraftStored plainConfigRouter withFirst plainTenantId (plainDraft 8)
        (.session .commits) := by
      rintro ⟨-, ⟨tenant, storedTag, hparsed, -, htag, hfree⟩, -⟩
      obtain rfl := Option.some.inj (hparsed.symm.trans (parseUuid_formatUuid 1))
      have hsame : varchar 64 "v1" = some "v1" := varchar_of_length_le (by decide) (by decide)
      obtain rfl := Option.some.inj (htag.symm.trans hsame)
      revert hfree
      decide
    have hnew : withFirst.versions.hasKey 8 = false := by decide
    rcases find_createDraft plainConfigRouter plainTenantId plainConfig "20260101120000"
      (.session .commits) hnew with ⟨hstored, -⟩ | ⟨-, habsent⟩
    · exact absurd hstored htaken
    · exact publishDraft_ne_published (r := publishRequest 8 9) rfl habsent

end Example

end ConfigRouter

end Iara.Api
