import Iara.ConfigPublishing.Service

/-!
# The config router

The endpoints of `/config/{tenant_id}`, one request after another.  Each builds a
`PublishService` of its own, whose dictionaries end with the request.
-/

namespace Iara.Api

open Iara.Lib Iara.Persistence Iara.ConfigPublishing

/-- A `TenantConfig` by its tag and its `model_dump()`, which names every field of
the schema. -/
structure TenantConfig where
  versionTag : String
  dump : Parameters
  dump_ne : dump.isEmpty = false

structure HttpException where
  statusCode : Nat
  detail : String
  deriving DecidableEq, Repr

structure DraftResponse where
  draftId : String
  tenantId : String
  versionTag : String
  status : String := "draft"
  deriving DecidableEq, Repr

structure PublishResponse where
  publicationId : String
  draftId : String
  tenantId : String
  isActive : Bool := true
  deriving DecidableEq, Repr

structure ConfigRouter where
  sha256 : String → String
  text : PyText
  jsonb : JsonbColumn

/-- A request, with the UUID and the clock that its service draws. -/
inductive ConfigRequest where
  | createDraft (config : TenantConfig) (draftId : Uuid) (stamp : String)
  | publishDraft (r : PublishRequest)
  | getActiveConfig
  | rollbackConfig (publicationId : String) (now : Nat)

inductive ConfigResponse where
  | created (response : DraftResponse)
  | published (response : PublishResponse)
  | active (publication : ActivePublication)
  | rolledBack (record : RolledBack)
  | failed (exception : HttpException)
  deriving DecidableEq, Repr

/-- The UUID that a request draws. -/
def ConfigRequest.draw : ConfigRequest → Option Uuid
  | .createDraft _ draftId _ => some draftId
  | .publishDraft r => some r.publicationId
  | _ => none

namespace ConfigRouter

variable (router : ConfigRouter)

def buildService (tenantId : String) : PublishService where
  sha256 := router.sha256
  text := router.text
  jsonb := router.jsonb
  tenantId := tenantId

def draftRequest (config : TenantConfig) (draftId : Uuid) (stamp : String) : DraftRequest where
  configData := config.dump
  versionTag := some config.versionTag
  draftId := draftId
  stamp := stamp

def createDraft (tenantId : String) (r : DraftRequest) (database : Database) (db : ConfigDb) :
    ConfigResponse × ConfigDb :=
  let (draftId, stores) := (router.buildService tenantId).createDraft r database { db := db }
  (.created
    { draftId := draftId
      tenantId := tenantId
      versionTag := if PyStr.truthyOption r.versionTag then r.versionTag.getD "" else "auto" },
    stores.db)

def publishDraft (tenantId : String) (r : PublishRequest) (database : Database) (db : ConfigDb) :
    ConfigResponse × ConfigDb :=
  let (answer, stores) := (router.buildService tenantId).publish r database { db := db }
  match answer with
  | .error detail => (.failed { statusCode := 422, detail := detail }, stores.db)
  | .ok publicationId =>
      (.published
        { publicationId := publicationId, draftId := r.draftId, tenantId := tenantId }, stores.db)

def getActiveConfig (tenantId : String) (database : Database) (db : ConfigDb) : ConfigResponse :=
  match (router.buildService tenantId).getActivePublication database { db := db } with
  | none =>
      .failed
        { statusCode := 404
          detail := "No active configuration for tenant " ++ router.text.repr tenantId }
  | some publication => .active publication

def rollbackConfig (tenantId publicationId : String) (now : Nat) (database : Database)
    (db : ConfigDb) : ConfigResponse × ConfigDb :=
  let (answer, stores) :=
    (router.buildService tenantId).rollback publicationId now database { db := db }
  match answer with
  | .error detail => (.failed { statusCode := 404, detail := detail }, stores.db)
  | .ok record => (.rolledBack record, stores.db)

structure Call where
  tenantId : String
  request : ConfigRequest
  database : Database

def respond (call : Call) (db : ConfigDb) : ConfigResponse × ConfigDb :=
  match call.request with
  | .createDraft config draftId stamp =>
      router.createDraft call.tenantId (draftRequest config draftId stamp) call.database db
  | .publishDraft r => router.publishDraft call.tenantId r call.database db
  | .getActiveConfig => (router.getActiveConfig call.tenantId call.database db, db)
  | .rollbackConfig publicationId now =>
      router.rollbackConfig call.tenantId publicationId now call.database db

/-! ## Histories -/

/-- The tables, and the UUIDs drawn so far. -/
structure History where
  db : ConfigDb
  drawn : List Uuid := []

/-- A UUID that no row has and no request has drawn. -/
def Fresh (s : History) (id : Uuid) : Prop :=
  id ∉ s.drawn ∧ s.db.versions.hasKey id = false ∧ s.db.publications.hasKey id = false

instance (s : History) (id : Uuid) : Decidable (Fresh s id) :=
  inferInstanceAs (Decidable (_ ∧ _ ∧ _))

/-- The draws of a history are pairwise distinct. -/
def machine : Machine History Call where
  step s call :=
    if ∀ id ∈ call.request.draw, Fresh s id then
      some ⟨(router.respond call s.db).2, call.request.draw.toList ++ s.drawn⟩
    else none

end ConfigRouter

end Iara.Api
