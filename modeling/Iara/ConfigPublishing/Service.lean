import Iara.ConfigPublishing.Publisher
import Iara.Lib.PyJson
import Iara.Lib.Varchar
import Mathlib.Data.List.Sort

/-!
# The publishing service, one call after another

`PublishService` with both of its stores: the tables, where a call is one session,
and the dictionaries of one instance, which it turns to without a session factory
and after an exception that is no `ConfigPublishError`.
-/

namespace Iara.ConfigPublishing

open Iara.Lib Iara.Persistence

/-! ## The tables -/

structure AgentProfile where
  tenantId : Uuid
  name : String
  deriving DecidableEq, Repr

structure ConfigDb where
  /-- The ids in `tenants`. -/
  tenants : List Uuid
  profiles : Table AgentProfile Uuid AgentProfile.tenantId := .empty
  versions : Table AgentConfigVersion Uuid AgentConfigVersion.id := .empty
  publications : Table ConfigPublication Uuid ConfigPublication.id := .empty

/-- What a JSONB column reads back of a value; `none` where Postgres rejects it. -/
structure JsonbColumn where
  take : Parameters → Option Parameters
  isEmpty_take : ∀ {config stored}, take config = some stored → stored.isEmpty = config.isEmpty

/-- What ends the database part of a call early. -/
inductive Failure where
  | publishError (message : String)
  | other (exception : String)
  deriving DecidableEq, Repr

/-- What a call finds: no session factory, or a session that ends in one of the ways
of a transaction. -/
inductive Database where
  | absent
  | session (transaction : Transaction)
  deriving DecidableEq, Repr

/-- The answer of the database part and the database after it; no answer where the
call goes on in memory.  A session that fails raises before anything else can. -/
def Database.close {α σ : Type} (before : σ) (part : Except Failure (α × σ)) :
    Database → Option (Except String α) × σ
  | .absent => (none, before)
  | .session (.fails _) => (none, before)
  | .session transaction =>
      match part with
      | .error (.publishError message) => (some (.error message), before)
      | .error (.other _) => (none, before)
      | .ok (answer, after) => transaction.close before after (some (.ok answer)) none

/-! ## The dictionaries -/

structure DraftEntry where
  configData : Parameters
  versionTag : String
  configHash : String
  deriving DecidableEq, Repr

structure PublicationEntry where
  publicationId : String
  draftId : String
  tenantId : String
  versionTag : String
  configHash : String
  configData : Parameters
  publishedBy : String
  publishedAt : Nat
  isActive : Bool := true
  deriving DecidableEq, Repr

/-- `_drafts` and `_publications`. -/
structure Memory where
  drafts : String → Option DraftEntry := fun _ => none
  publications : List PublicationEntry := []

structure Stores where
  db : ConfigDb
  memory : Memory := {}

/-! ## Calls and answers -/

/-- What `get_active_publication` returns. -/
structure ActivePublication where
  publicationId : String
  tenantId : String
  versionTag : String
  configHash : String
  configData : Parameters
  publishedBy : String
  publishedAt : Nat
  isActive : Bool
  deriving DecidableEq, Repr

/-- `draftId` is the UUID drawn, and `stamp` the clock as `strftime` writes it. -/
structure DraftRequest where
  configData : Parameters
  versionTag : Option String
  draftId : Uuid
  stamp : String
  deriving DecidableEq, Repr

structure PublishRequest where
  draftId : String
  publishedBy : String
  publicationId : Uuid
  now : Nat
  deriving DecidableEq, Repr

structure PublishService where
  sha256 : String → String
  text : PyText
  jsonb : JsonbColumn
  tenantId : String

namespace PublishService

variable (service : PublishService)

/-- The digest of `str(sorted(config_data.items()))`. -/
def configHash (configData : Parameters) : String :=
  let items := configData.insertionSort fun p q => p.1 ≤ q.1
  service.sha256 ("[" ++ PyStr.join ", " (items.map fun item =>
    "(" ++ service.text.repr item.1 ++ ", " ++ service.text.reprJson item.2 ++ ")") ++ "]")

/-- `version_tag or f"v{...}"`. -/
def tag (r : DraftRequest) : String :=
  if PyStr.truthyOption r.versionTag then r.versionTag.getD "" else "v" ++ r.stamp

/-! ### `create_draft` -/

def profile (tenant : Uuid) : AgentProfile where
  tenantId := tenant
  name := "profile:" ++ PyStr.slice service.tenantId 8

/-- The row, with the tag and the configuration as their columns store them. -/
def version (tenant : Uuid) (r : DraftRequest) (storedTag : String) (stored : Parameters) :
    AgentConfigVersion where
  id := r.draftId
  tenantId := tenant
  versionTag := storedTag
  configHash := service.configHash r.configData
  configData := some stored

/-- `uq_config_version_tag` has the tag already. -/
def tagTaken (db : ConfigDb) (tenant : Uuid) (tag : String) : Bool :=
  db.versions.rows.any fun v => v.tenantId = tenant && v.versionTag = tag

def draftRows (tenant : Uuid) (r : DraftRequest) (storedTag : String) (stored : Parameters)
    (db : ConfigDb) : ConfigDb :=
  { db with
    profiles := db.profiles.insertOrIgnore (service.profile tenant)
    versions := db.versions.insertOrIgnore (service.version tenant r storedTag stored) }

def insertDraft (r : DraftRequest) (db : ConfigDb) : Except Failure (Unit × ConfigDb) :=
  match parseUuid service.tenantId with
  | none => .error (.other "ValueError")
  | some tenant =>
      -- the foreign keys to `tenants`
      if tenant ∉ db.tenants then .error (.other "IntegrityError")
      else
        match varchar 64 (tag r), service.jsonb.take r.configData with
        | some storedTag, some stored =>
            if db.versions.hasKey r.draftId || tagTaken db tenant storedTag then
              .error (.other "IntegrityError")
            else .ok ((), service.draftRows tenant r storedTag stored db)
        | _, _ => .error (.other "DBAPIError")

def draftEntry (r : DraftRequest) : DraftEntry where
  configData := r.configData
  versionTag := tag r
  configHash := service.configHash r.configData

def keepDraft (r : DraftRequest) (memory : Memory) : Memory :=
  { memory with
    drafts := Function.update memory.drafts (formatUuid r.draftId) (some (service.draftEntry r)) }

def createDraft (r : DraftRequest) (database : Database) (s : Stores) : String × Stores :=
  match database.close s.db (service.insertDraft r s.db) with
  | (some _, db) => (formatUuid r.draftId, { s with db := db })
  | (none, db) => (formatUuid r.draftId, { db := db, memory := service.keepDraft r s.memory })

/-! ### `publish` -/

def publicationRow (tenant draft : Uuid) (r : PublishRequest) : ConfigPublication where
  id := r.publicationId
  tenantId := tenant
  configVersionId := draft
  publishedBy := PyStr.slice r.publishedBy 256
  publishedAt := r.now

def publishRows (tenant draft : Uuid) (r : PublishRequest) (db : ConfigDb) : ConfigDb :=
  { db with
    versions := db.versions.update (fun v => v.id = draft)
      (fun v => { v with status := .published }) fun _ => rfl
    publications := (db.publications.update (fun p => p.tenantId = tenant && p.isActive) deactivated
      fun _ => rfl).insertOrIgnore (publicationRow tenant draft r) }

def publishInDb (r : PublishRequest) (db : ConfigDb) : Except Failure (Unit × ConfigDb) :=
  match parseUuid service.tenantId, parseUuid r.draftId with
  | some tenant, some draft =>
      match (db.versions.find draft).filter fun v => v.tenantId = tenant with
      | none =>
          .error (.publishError ("Draft " ++ service.text.repr r.draftId ++ " not found in DB"))
      | some version =>
          if (version.configData.getD []).isEmpty then
            .error (.publishError
              ("Draft " ++ service.text.repr r.draftId ++ " has empty config data"))
          else if (varchar 256 (PyStr.slice r.publishedBy 256)).isNone then
            .error (.other "DBAPIError")
          else if db.publications.hasKey r.publicationId then .error (.other "IntegrityError")
          else .ok ((), publishRows tenant draft r db)
  | _, _ => .error (.other "ValueError")

def deactivateAll (publications : List PublicationEntry) : List PublicationEntry :=
  publications.map fun p => { p with isActive := false }

def publishEntry (r : PublishRequest) (draft : DraftEntry) : PublicationEntry where
  publicationId := formatUuid r.publicationId
  draftId := r.draftId
  tenantId := service.tenantId
  versionTag := draft.versionTag
  configHash := draft.configHash
  configData := draft.configData
  publishedBy := r.publishedBy
  publishedAt := r.now

def publishInMemory (r : PublishRequest) (memory : Memory) : Except String String × Memory :=
  match memory.drafts r.draftId with
  | none => (.error ("Draft " ++ service.text.repr r.draftId ++ " not found"), memory)
  | some draft =>
      if draft.configData.isEmpty then
        (.error ("Draft " ++ service.text.repr r.draftId ++ " has empty config data"), memory)
      else
        (.ok (formatUuid r.publicationId),
          { memory with
            publications := deactivateAll memory.publications ++ [service.publishEntry r draft] })

/-- The id of the publication, or the text of the `ConfigPublishError`. -/
def publish (r : PublishRequest) (database : Database) (s : Stores) :
    Except String String × Stores :=
  match database.close s.db (service.publishInDb r s.db) with
  | (some answer, db) => (answer.map fun _ => formatUuid r.publicationId, { s with db := db })
  | (none, db) =>
      let (answer, memory) := service.publishInMemory r s.memory
      (answer, { db := db, memory := memory })

/-! ### `get_active_publication` -/

/-- The active publications of a tenant with their versions, the latest first. -/
def activeRows (tenant : Uuid) (db : ConfigDb) : List (ConfigPublication × AgentConfigVersion) :=
  ((db.publications.rows.filter fun p => p.tenantId = tenant && p.isActive).filterMap fun p =>
    (db.versions.find p.configVersionId).map fun v => (p, v)).insertionSort
      fun a b => b.1.publishedAt ≤ a.1.publishedAt

def activeOfRow (row : ConfigPublication × AgentConfigVersion) : ActivePublication where
  publicationId := formatUuid row.1.id
  tenantId := formatUuid row.1.tenantId
  versionTag := row.2.versionTag
  configHash := row.2.configHash
  configData := row.2.configData.getD []
  publishedBy := row.1.publishedBy
  publishedAt := row.1.publishedAt
  isActive := row.1.isActive

def activeInDb (db : ConfigDb) : Except Failure (Option ActivePublication × ConfigDb) :=
  match parseUuid service.tenantId with
  | none => .error (.other "ValueError")
  | some tenant => .ok ((activeRows tenant db).head?.map activeOfRow, db)

def activeOfEntry (p : PublicationEntry) : ActivePublication where
  publicationId := p.publicationId
  tenantId := p.tenantId
  versionTag := p.versionTag
  configHash := p.configHash
  configData := p.configData
  publishedBy := p.publishedBy
  publishedAt := p.publishedAt
  isActive := p.isActive

def activeInMemory (memory : Memory) : Option ActivePublication :=
  (memory.publications.reverse.find? fun p => p.isActive).map activeOfEntry

/-- Nothing is written, and nothing that is raised gets out. -/
def getActivePublication (database : Database) (s : Stores) : Option ActivePublication :=
  match (database.close s.db (service.activeInDb s.db)).1 with
  | some (.ok answer) => answer
  | _ => activeInMemory s.memory

/-! ### `rollback` -/

def rollbackRows (tenant publication : Uuid) (now : Nat) (db : ConfigDb) : ConfigDb :=
  { db with
    publications := (db.publications.update (fun p => p.tenantId = tenant) deactivated
      fun _ => rfl).update (fun p => p.id = publication) (reactivated now) fun _ => rfl }

def rolledBackOfRow (row : ConfigPublication × AgentConfigVersion) : RolledBack where
  publicationId := formatUuid row.1.id
  tenantId := formatUuid row.1.tenantId
  versionTag := row.2.versionTag
  configHash := row.2.configHash
  configData := row.2.configData.getD []
  isActive := true

def rollbackInDb (publicationId : String) (now : Nat) (db : ConfigDb) :
    Except Failure (RolledBack × ConfigDb) :=
  match parseUuid service.tenantId, parseUuid publicationId with
  | some tenant, some publication =>
      match ((db.publications.find publication).filter fun p => p.tenantId = tenant).bind fun p =>
          (db.versions.find p.configVersionId).map fun v => (p, v) with
      | none =>
          .error (.publishError ("Publication " ++ service.text.repr publicationId ++ " not found"))
      | some row => .ok (rolledBackOfRow row, rollbackRows tenant publication now db)
  | _, _ => .error (.other "ValueError")

def rolledBackOfEntry (p : PublicationEntry) : RolledBack where
  publicationId := p.publicationId
  tenantId := p.tenantId
  versionTag := p.versionTag
  configHash := p.configHash
  configData := p.configData
  isActive := true

/-- The first entry with the id becomes the active one. -/
def reactivate (publicationId : String) : List PublicationEntry → List PublicationEntry
  | [] => []
  | p :: ps =>
      if p.publicationId = publicationId then { p with isActive := true } :: ps
      else p :: reactivate publicationId ps

/-- Of the entry that is returned, the fields that a row is returned with too. -/
def rollbackInMemory (publicationId : String) (memory : Memory) :
    Except String RolledBack × Memory :=
  match memory.publications.find? fun p => p.publicationId = publicationId with
  | none => (.error ("Publication " ++ service.text.repr publicationId ++ " not found"), memory)
  | some target =>
      (.ok (rolledBackOfEntry target),
        { memory with
          publications := reactivate publicationId (deactivateAll memory.publications) })

def rollback (publicationId : String) (now : Nat) (database : Database) (s : Stores) :
    Except String RolledBack × Stores :=
  match database.close s.db (service.rollbackInDb publicationId now s.db) with
  | (some answer, db) => (answer, { s with db := db })
  | (none, db) =>
      let (answer, memory) := service.rollbackInMemory publicationId s.memory
      (answer, { db := db, memory := memory })

end PublishService

end Iara.ConfigPublishing
