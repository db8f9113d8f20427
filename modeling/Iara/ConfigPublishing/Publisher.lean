import Iara.Lib.Interleaving
import Iara.Lib.PyUuid
import Iara.Lib.ReadCommitted
import Iara.Persistence.Outbox

/-!
# Publishing configurations

`PublishService.publish` and `PublishService.rollback`, statement by statement,
for any number of concurrent transactions at READ COMMITTED.  Neither table has
a constraint besides its primary key that a publication could run into.

Where a session raises, the service falls back to its memory, which is not the
table: here the transaction is over.
-/

namespace Iara.ConfigPublishing

open Iara.Lib Iara.Persistence

inductive VersionStatus where
  | draft
  | published
  deriving DecidableEq, Repr

structure AgentConfigVersion where
  id : Uuid
  tenantId : Uuid
  versionTag : String
  status : VersionStatus := .draft
  configHash : String
  configData : Option Parameters
  deriving DecidableEq, Repr

structure ConfigPublication where
  id : Uuid
  tenantId : Uuid
  configVersionId : Uuid
  publishedBy : String
  publishedAt : Nat
  isActive : Bool := true
  rolledBackAt : Option Nat := none
  deriving DecidableEq, Repr

structure PublishingDb where
  versions : Versions Uuid AgentConfigVersion
  publications : Versions Uuid ConfigPublication
  /-- The number of the next transaction. -/
  nextXid : Nat := 0

namespace PublishingDb

def commit (db : PublishingDb) (xid : Nat) : PublishingDb :=
  { db with
    versions := db.versions.commit xid
    publications := db.publications.commit xid }

def abort (db : PublishingDb) (xid : Nat) : PublishingDb :=
  { db with
    versions := db.versions.abort xid
    publications := db.publications.abort xid }

end PublishingDb

/-- A call of the service, with the clock and the UUID it draws. -/
inductive PublishCall where
  | publish (draftId publishedBy : String) (publicationId : Uuid) (now : Nat)
  | rollback (publicationId : String) (now : Nat)
  deriving DecidableEq, Repr

/-- What a call is about to write, once its first statement has found what it
needs: the row to insert, or the publication to reactivate. -/
inductive PublishPlan where
  | publish (version : AgentConfigVersion) (row : ConfigPublication)
  | rollback (publication : ConfigPublication) (version : AgentConfigVersion) (now : Nat)
  deriving DecidableEq, Repr

/-- The record that `rollback` returns. -/
structure RolledBack where
  publicationId : String
  tenantId : String
  versionTag : String
  configHash : String
  configData : Parameters
  isActive : Bool
  deriving DecidableEq, Repr

inductive PublishResult where
  | published (publicationId : String)
  | rolledBack (record : RolledBack)
  deriving DecidableEq, Repr

namespace PublishPlan

def tenantId : PublishPlan → Uuid
  | publish _ row => row.tenantId
  | rollback publication _ _ => publication.tenantId

/-- The publication that the call makes the active one. -/
def target : PublishPlan → Uuid
  | publish _ row => row.id
  | rollback publication _ _ => publication.id

/-- The condition of the deactivating `UPDATE`: `publish` restricts it to active
rows, `rollback` does not. -/
def deactivates : PublishPlan → ConfigPublication → Bool
  | publish _ row, r => decide (r.tenantId = row.tenantId) && r.isActive
  | rollback publication _ _, r => decide (r.tenantId = publication.tenantId)

def result : PublishPlan → PublishResult
  | publish _ row => .published (formatUuid row.id)
  | rollback publication version _ =>
      .rolledBack
        { publicationId := formatUuid publication.id
          tenantId := formatUuid publication.tenantId
          versionTag := version.versionTag
          configHash := version.configHash
          configData := version.configData.getD []
          isActive := true }

end PublishPlan

inductive PublishPhase where
  | opened
  | selected (plan : PublishPlan)
  | deactivating (plan : PublishPlan) (remaining : List Uuid)
  | flushed (plan : PublishPlan)
  | written (plan : PublishPlan)
  | finished (result : PublishResult)
  | raised (exception : String)
  deriving DecidableEq, Repr

structure PublishTransaction where
  xid : Nat
  tenantId : String
  call : PublishCall
  phase : PublishPhase := .opened
  deriving DecidableEq, Repr

/-- A step of a transaction: one statement, one row of the deactivating
`UPDATE`, the commit, or an exception. -/
inductive PublishStep where
  | select
  | deactivate
  | lockRow
  | flushVersion
  | insert
  | activate
  | commit (session : Transaction)
  | fail (exception : String)
  deriving DecidableEq, Repr

namespace PublishService

/-- The first statement: the draft, or the publication with its version. -/
def select (tx : PublishTransaction) (db : PublishingDb) : Except String PublishPlan :=
  match parseUuid tx.tenantId with
  | none => .error "ValueError"
  | some tenant =>
      match tx.call with
      | .publish draftId publishedBy publicationId now =>
          match parseUuid draftId with
          | none => .error "ValueError"
          | some draft =>
              match (db.versions.visible tx.xid draft).filter fun v => v.tenantId = tenant with
              | none => .error ("Draft '" ++ draftId ++ "' not found in DB")
              | some version =>
                  if (version.configData.getD []).isEmpty then
                    .error ("Draft '" ++ draftId ++ "' has empty config data")
                  else
                    .ok <| .publish version
                      { id := publicationId
                        tenantId := tenant
                        configVersionId := draft
                        publishedBy := PyStr.slice publishedBy 256
                        publishedAt := now }
      | .rollback publicationId now =>
          match parseUuid publicationId with
          | none => .error "ValueError"
          | some id =>
              match (db.publications.visible tx.xid id).filter fun r => r.tenantId = tenant with
              | none => .error ("Publication '" ++ publicationId ++ "' not found")
              | some publication =>
                  match db.versions.visible tx.xid publication.configVersionId with
                  | none => .error ("Publication '" ++ publicationId ++ "' not found")
                  | some version => .ok (.rollback publication version now)

def deactivated (r : ConfigPublication) : ConfigPublication := { r with isActive := false }

def reactivated (now : Nat) (r : ConfigPublication) : ConfigPublication :=
  { r with isActive := true, rolledBackAt := some now }

def act (db : PublishingDb) (tx : PublishTransaction) (step : PublishStep) :
    Option (PublishTransaction × PublishingDb) :=
  let moved (phase : PublishPhase) : PublishTransaction := { tx with phase := phase }
  match tx.phase, step with
  | .opened, .select =>
      match select tx db with
      | .ok plan => some (moved (.selected plan), db)
      | .error exception => some (moved (.raised exception), db.abort tx.xid)
  | .selected plan, .deactivate =>
      some (moved (.deactivating plan (db.publications.select tx.xid plan.deactivates)), db)
  | .deactivating plan (k :: rest), .lockRow =>
      (db.publications.touch tx.xid plan.deactivates deactivated k).map fun publications =>
        (moved (.deactivating plan rest), { db with publications := publications })
  | .deactivating (.publish version row) [], .flushVersion =>
      -- the unit of work skips a status that is `published` already
      if version.status = .published then some (moved (.flushed (.publish version row)), db)
      else
        (db.versions.touch tx.xid (fun _ => true) (fun v => { v with status := .published })
          version.id).map fun versions =>
            (moved (.flushed (.publish version row)), { db with versions := versions })
  | .flushed (.publish version row), .insert =>
      if !db.publications.free tx.xid row.id then none
      else if (db.publications.visible tx.xid row.id).isSome then
        some (moved (.raised "IntegrityError"), db.abort tx.xid)
      else
        some (moved (.written (.publish version row)),
          { db with publications := db.publications.write tx.xid row.id row })
  | .deactivating (.rollback publication version now) [], .activate =>
      (db.publications.touch tx.xid (fun _ => true) (reactivated now) publication.id).map
        fun publications =>
          (moved (.written (.rollback publication version now)),
            { db with publications := publications })
  | .written plan, .commit .commits => some (moved (.finished plan.result), db.commit tx.xid)
  | .written _, .commit (.fails exception) =>
      some (moved (.raised exception), db.abort tx.xid)
  | .written _, .commit (.commitsThenFails exception) =>
      some (moved (.raised exception), db.commit tx.xid)
  | .finished _, _ => none
  | .raised _, _ => none
  | _, .fail exception => some (moved (.raised exception), db.abort tx.xid)
  | _, _ => none

inductive PublishEvent where
  | call (tenantId : String) (call : PublishCall)
  | createDraft (version : AgentConfigVersion)
  deriving DecidableEq, Repr

/-- A call opens a transaction.  A draft is created by a transaction of its own,
under a new id. -/
def environment (db : PublishingDb) :
    PublishEvent → Option (List PublishTransaction × PublishingDb)
  | .call tenantId call =>
      some ([{ xid := db.nextXid, tenantId := tenantId, call := call }],
        { db with nextXid := db.nextXid + 1 })
  | .createDraft version =>
      if (db.versions.committed version.id).isSome then none
      else
        some ([],
          { db with
            versions := (db.versions.write db.nextXid version.id version).commit db.nextXid
            nextXid := db.nextXid + 1 })

def services : Interleaving PublishingDb PublishTransaction PublishStep PublishEvent where
  act := act
  environment := environment

abbrev PublishConfig := Interleaving.Config PublishingDb PublishTransaction

abbrev PublishMove := Interleaving.Move PublishStep PublishEvent

/-- Empty tables and no transaction yet. -/
def initially : PublishConfig where
  shared := { versions := .empty, publications := .empty }

end PublishService

end Iara.ConfigPublishing
