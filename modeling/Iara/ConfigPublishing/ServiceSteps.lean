import Iara.ConfigPublishing.Service

/-!
# What a call of the publishing service can do

When the database part of a call goes through and when it is refused, and what it
leaves of the versions.
-/

namespace Iara.ConfigPublishing

open Iara.Lib Iara.Persistence

/-! ## Sessions -/

theorem Database.close_snd {α σ : Type} (before : σ) (part : Except Failure (α × σ))
    (database : Database) :
    (database.close before part).2 = before ∨
      ∃ answer after, part = .ok (answer, after) ∧ (database.close before part).2 = after := by
  cases database with
  | absent => exact .inl rfl
  | session transaction =>
      cases transaction with
      | fails exception => exact .inl rfl
      | commits =>
          rcases part with failure | ⟨answer, after⟩
          · cases failure <;> exact .inl rfl
          · exact .inr ⟨answer, after, rfl, rfl⟩
      | commitsThenFails exception =>
          rcases part with failure | ⟨answer, after⟩
          · cases failure <;> exact .inl rfl
          · exact .inr ⟨answer, after, rfl, rfl⟩

theorem Database.close_other {α σ : Type} (before : σ) (exception : String) (database : Database) :
    database.close before (.error (.other exception) : Except Failure (α × σ)) =
      (none, before) := by
  cases database with
  | absent => rfl
  | session transaction => cases transaction <;> rfl

/-- What the session writes gets into the database. -/
def Database.writes : Database → Bool
  | .absent => false
  | .session transaction => transaction.writes

theorem Database.close_snd_of_ok {α σ : Type} (before after : σ) (answer : α)
    (database : Database) :
    (database.close before (.ok (answer, after))).2 =
      if database.writes then after else before := by
  cases database with
  | absent => rfl
  | session transaction => cases transaction <;> rfl

namespace PublishService

variable {service : PublishService} {db db' : ConfigDb}

/-! ## `create_draft` -/

theorem createDraft_db (r : DraftRequest) (database : Database) (s : Stores) :
    (service.createDraft r database s).2.db =
      (database.close s.db (service.insertDraft r s.db)).2 := by
  unfold createDraft
  split <;> rename_i heq <;> rw [heq]

/-- The tables take the draft. -/
structure Insertable (service : PublishService) (db : ConfigDb) (r : DraftRequest) (tenant : Uuid)
    (storedTag : String) (stored : Parameters) : Prop where
  parsed : parseUuid service.tenantId = some tenant
  registered : tenant ∈ db.tenants
  tagTakes : varchar 64 (tag r) = some storedTag
  taken : service.jsonb.take r.configData = some stored
  newId : db.versions.hasKey r.draftId = false
  tagFree : tagTaken db tenant storedTag = false

variable {r : DraftRequest} {tenant : Uuid} {storedTag : String} {stored : Parameters}

theorem tag_of_some {tag : String} (htag : r.versionTag = some tag) (hnonempty : tag ≠ "") :
    PublishService.tag r = tag := by
  rw [PublishService.tag, htag]
  simp [PyStr.truthyOption, PyStr.truthy, hnonempty]

theorem Insertable.insertDraft_eq (h : Insertable service db r tenant storedTag stored) :
    service.insertDraft r db = .ok ((), service.draftRows tenant r storedTag stored db) := by
  simp [insertDraft, h.parsed, h.registered, h.tagTakes, h.taken, h.newId, h.tagFree]

theorem insertable_of_insertDraft {answer : Unit}
    (h : service.insertDraft r db = .ok (answer, db')) :
    ∃ tenant storedTag stored, Insertable service db r tenant storedTag stored ∧
      db' = service.draftRows tenant r storedTag stored db := by
  unfold insertDraft at h
  split at h
  next => cases h
  next tenant htenant =>
    split at h
    · cases h
    next hregistered =>
      split at h
      next storedTag stored htag htaken =>
        split at h
        · cases h
        next hfree =>
          cases h
          rw [Bool.or_eq_true, not_or, Bool.not_eq_true, Bool.not_eq_true] at hfree
          exact ⟨tenant, storedTag, stored, ⟨htenant, by simpa using hregistered, htag, htaken,
            hfree.1, hfree.2⟩, rfl⟩
      next => cases h

/-- Where the row does not go in, the call goes on in memory. -/
theorem insertDraft_eq_other
    (h : ∀ tenant storedTag stored, ¬ Insertable service db r tenant storedTag stored) :
    ∃ exception, service.insertDraft r db = .error (.other exception) := by
  cases hinsert : service.insertDraft r db with
  | ok result =>
      obtain ⟨answer, after⟩ := result
      obtain ⟨tenant, storedTag, stored, hinsertable, -⟩ := insertable_of_insertDraft hinsert
      exact absurd hinsertable (h tenant storedTag stored)
  | error failure =>
      cases failure with
      | other exception => exact ⟨exception, rfl⟩
      | publishError message =>
          unfold insertDraft at hinsert
          split at hinsert
          · cases hinsert
          · split at hinsert
            · cases hinsert
            · split at hinsert
              · split at hinsert <;> cases hinsert
              · cases hinsert

/-! ## `publish` -/

theorem publish_db (p : PublishRequest) (database : Database) (s : Stores) :
    (service.publish p database s).2.db =
      (database.close s.db (service.publishInDb p s.db)).2 := by
  unfold publish
  split <;> rename_i heq <;> rw [heq]

/-- The tables have a draft of the tenant with a configuration. -/
structure PublishableVersion (db : ConfigDb) (tenant draft : Uuid) (v : AgentConfigVersion) :
    Prop where
  found : db.versions.find draft = some v
  own : v.tenantId = tenant
  nonempty : (v.configData.getD []).isEmpty = false

variable {p : PublishRequest} {draft : Uuid} {v : AgentConfigVersion}

theorem PublishableVersion.publishInDb_eq (h : PublishableVersion db tenant draft v)
    (htenant : parseUuid service.tenantId = some tenant) (hdraft : parseUuid p.draftId = some draft)
    (hfits : (varchar 256 (PyStr.slice p.publishedBy 256)).isSome = true)
    (hnew : db.publications.hasKey p.publicationId = false) :
    service.publishInDb p db = .ok ((), publishRows tenant draft p db) := by
  have hfound : (db.versions.find draft).filter (fun v => v.tenantId = tenant) = some v := by
    rw [h.found]
    exact Option.filter_some_pos (by simpa using h.own)
  obtain ⟨publishedBy, hpublishedBy⟩ := Option.isSome_iff_exists.1 hfits
  simp [publishInDb, htenant, hdraft, hfound, h.nonempty, hpublishedBy, hnew]

theorem publishInDb_eq_publishError (htenant : parseUuid service.tenantId = some tenant)
    (hdraft : parseUuid p.draftId = some draft)
    (h : ∀ v, ¬ PublishableVersion db tenant draft v) :
    ∃ message, service.publishInDb p db = .error (.publishError message) := by
  unfold publishInDb
  rw [htenant, hdraft]
  simp only
  cases hfound : (db.versions.find draft).filter fun v => v.tenantId = tenant with
  | none => exact ⟨_, rfl⟩
  | some v =>
      obtain ⟨hfind, hown⟩ := Option.filter_eq_some_iff.1 hfound
      cases hempty : (v.configData.getD []).isEmpty with
      | true => exact ⟨_, if_pos hempty⟩
      | false => exact absurd ⟨hfind, by simpa using hown, hempty⟩ (h v)

theorem publishable_of_publishInDb {answer : Unit}
    (h : service.publishInDb p db = .ok (answer, db')) :
    ∃ tenant draft v, parseUuid service.tenantId = some tenant ∧ parseUuid p.draftId = some draft ∧
      PublishableVersion db tenant draft v ∧
      (varchar 256 (PyStr.slice p.publishedBy 256)).isSome = true ∧
      db' = publishRows tenant draft p db := by
  unfold publishInDb at h
  split at h
  next tenant draft htenant hdraft =>
    split at h
    · cases h
    next v hfound =>
      obtain ⟨hfind, hown⟩ := Option.filter_eq_some_iff.1 hfound
      split at h
      · cases h
      next hnonempty =>
        split at h
        · cases h
        next hfits =>
          split at h
          · cases h
          · cases h
            exact ⟨tenant, draft, v, htenant, hdraft,
              ⟨hfind, by simpa using hown, by simpa using hnonempty⟩,
              by simpa [Option.isSome_iff_ne_none] using hfits, rfl⟩
  next => cases h

/-! ## `rollback` -/

variable {publicationId : String} {now : Nat}

theorem rollback_db (publicationId : String) (now : Nat) (database : Database) (s : Stores) :
    (service.rollback publicationId now database s).2.db =
      (database.close s.db (service.rollbackInDb publicationId now s.db)).2 := by
  unfold rollback
  split <;> rename_i heq <;> rw [heq]

theorem rollbackInDb_eq {publication : Uuid} {row : ConfigPublication}
    (htenant : parseUuid service.tenantId = some tenant)
    (hpublication : parseUuid publicationId = some publication)
    (hrow : db.publications.find publication = some row) (hown : row.tenantId = tenant)
    (hv : db.versions.find row.configVersionId = some v) :
    service.rollbackInDb publicationId now db =
      .ok (rolledBackOfRow (row, v), rollbackRows tenant publication now db) := by
  have hfound : (db.publications.find publication).filter (fun p => p.tenantId = tenant) =
      some row := by
    rw [hrow]
    exact Option.filter_some_pos (by simpa using hown)
  simp only [rollbackInDb, htenant, hpublication, hfound, Option.bind_some, hv, Option.map_some]

theorem found_of_rollbackInDb {answer : RolledBack}
    (h : service.rollbackInDb publicationId now db = .ok (answer, db')) :
    ∃ tenant publication row v, parseUuid service.tenantId = some tenant ∧
      parseUuid publicationId = some publication ∧
      db.publications.find publication = some row ∧ row.tenantId = tenant ∧
      db.versions.find row.configVersionId = some v ∧
      db' = rollbackRows tenant publication now db := by
  unfold rollbackInDb at h
  split at h
  next tenant publication htenant hpublication =>
    split at h
    · cases h
    next found hfound =>
      cases h
      obtain ⟨row, hfilter, hmap⟩ := Option.bind_eq_some_iff.1 hfound
      obtain ⟨hfind, hown⟩ := Option.filter_eq_some_iff.1 hfilter
      obtain ⟨v, hv, -⟩ := Option.map_eq_some_iff.1 hmap
      exact ⟨tenant, publication, row, v, htenant, hpublication, hfind, by simpa using hown, hv,
        rfl⟩
  next => cases h

/-! ## The versions -/

/-- Versions stay with their tenant and their configuration, and one comes only under
the UUID that is drawn. -/
structure VersionsKept (draw : Option Uuid) (db db' : ConfigDb) : Prop where
  kept : ∀ k v, db.versions.find k = some v → ∃ v', db'.versions.find k = some v' ∧
    v'.tenantId = v.tenantId ∧ v'.configData = v.configData
  absent : ∀ k, db.versions.find k = none → draw ≠ some k → db'.versions.find k = none

theorem VersionsKept.of_eq {draw : Option Uuid} (h : db'.versions = db.versions) :
    VersionsKept draw db db' where
  kept _ v hv := ⟨v, h ▸ hv, rfl, rfl⟩
  absent _ hnone _ := h ▸ hnone

theorem VersionsKept.of_close {α : Type} {draw : Option Uuid}
    {part : Except Failure (α × ConfigDb)} {database : Database}
    (hpart : ∀ answer db', part = .ok (answer, db') → VersionsKept draw db db') :
    VersionsKept draw db (database.close db part).2 := by
  rcases Database.close_snd db part database with hsame | ⟨answer, db', hok, hafter⟩
  · rw [hsame]
    exact .of_eq rfl
  · rw [hafter]
    exact hpart answer db' hok

theorem versionsKept_draftRows : VersionsKept (some r.draftId) db
    (service.draftRows tenant r storedTag stored db) where
  kept k v hv := by
    refine ⟨v, ?_, rfl, rfl⟩
    change (db.versions.insertOrIgnore _).find k = some v
    rw [Table.find_insertOrIgnore, hv, Option.some_or]
  absent k hnone hdraw := by
    change (db.versions.insertOrIgnore _).find k = none
    rw [Table.find_insertOrIgnore, hnone, Option.none_or]
    exact if_neg fun hk => hdraw (congrArg some hk)

theorem versionsKept_publishRows {draw : Option Uuid} :
    VersionsKept draw db (publishRows tenant draft p db) where
  kept k v hv := by
    have hfind : (publishRows tenant draft p db).versions.find k =
        some (if v.id = draft then { v with status := .published } else v) := by
      simp only [publishRows, Table.find_update, hv, Option.map_some, decide_eq_true_eq]
    refine ⟨_, hfind, ?_, ?_⟩
    · split <;> rfl
    · split <;> rfl
  absent k hnone _ := by
    simp only [publishRows, Table.find_update, hnone, Option.map_none]

theorem versionsKept_createDraft (database : Database) (s : Stores) :
    VersionsKept (some r.draftId) s.db (service.createDraft r database s).2.db := by
  rw [createDraft_db]
  apply VersionsKept.of_close
  intro answer db' hok
  obtain ⟨tenant, storedTag, stored, -, rfl⟩ := insertable_of_insertDraft hok
  exact versionsKept_draftRows

theorem versionsKept_publish {draw : Option Uuid} (database : Database) (s : Stores) :
    VersionsKept draw s.db (service.publish p database s).2.db := by
  rw [publish_db]
  apply VersionsKept.of_close
  intro answer db' hok
  obtain ⟨tenant, draft, v, -, -, -, -, rfl⟩ := publishable_of_publishInDb hok
  exact versionsKept_publishRows

theorem versionsKept_rollback {draw : Option Uuid} (database : Database) (s : Stores) :
    VersionsKept draw s.db (service.rollback publicationId now database s).2.db := by
  rw [rollback_db]
  apply VersionsKept.of_close
  intro answer db' hok
  obtain ⟨tenant, publication, p, v, -, -, -, -, -, rfl⟩ := found_of_rollbackInDb hok
  exact .of_eq rfl

end PublishService

section Example

/-- A column that gives back what it takes. -/
def plainColumn : JsonbColumn where
  take := some
  isEmpty_take := by
    intro config stored h
    cases h
    rfl

theorem varchar_api : (varchar 256 (PyStr.slice "api" 256)).isSome = true := by
  rw [slice_of_length_le (by decide), varchar_of_length_le (by decide) (by decide)]
  rfl

end Example

end Iara.ConfigPublishing
