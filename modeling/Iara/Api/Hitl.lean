import Iara.Workers.JobConsumer

/-!
# The HITL router

`register_hold`, `approve_hold` and `reject_hold` over the two stores of holds,
the table and the registry in memory, and `resume_graph`.  A session is `none`
where no database is configured.
-/

namespace Iara.Api

open Iara.Lib Iara.Persistence Iara.Graph Iara.Workers

/-- A hold as the registry keeps it and the endpoints return it. -/
structure HitlHold where
  runId : String
  tenantId : String
  conversationId : String
  threadId : String
  reason : Option String := none
  status : HoldStatus := .pending
  resolvedBy : Option String := none
  deriving DecidableEq, Repr

structure HitlRegisterRequest where
  tenantId : String
  conversationId : String
  threadId : String
  reason : Option String := none
  deriving DecidableEq, Repr

structure HitlDecisionRequest where
  decidedBy : String
  reason : Option String := none
  deriving DecidableEq, Repr

/-- The table, and the dictionary of the registry. -/
structure HitlStores where
  holds : HitlHolds
  memory : String → Option HitlHold

namespace HitlStores

def remember (hold : HitlHold) (stores : HitlStores) : HitlStores :=
  { stores with memory := Function.update stores.memory hold.runId (some hold) }

end HitlStores

/-- The status code of an `HTTPException`. -/
inductive HttpError where
  | notFound
  | conflict
  deriving DecidableEq, Repr

/-- The database part of an endpoint: what the repository returned, or that the
session raised; and the table. -/
def inSession {α : Type} (session : Transaction) (work : HitlHolds → α × HitlHolds)
    (holds : HitlHolds) : Option α × HitlHolds :=
  Transaction.close holds (work holds).2 (some (work holds).1) none session

namespace HitlRouter

/-- The insert suppresses its own exceptions: then the session writes nothing. -/
def registerHold (session : Option Transaction) (insertRaises : Bool) (runId : String)
    (body : HitlRegisterRequest) (stores : HitlStores) : HitlHold × HitlStores :=
  let holds :=
    match session with
    | none => stores.holds
    | some session =>
        if insertRaises then stores.holds
        else
          (HitlHoldRepository.register session runId body.tenantId body.conversationId
            body.threadId body.reason { stepCount := 0, correlationId := "", hitlReason := "" }
            stores.holds).2
  let hold : HitlHold :=
    { runId := runId
      tenantId := body.tenantId
      conversationId := body.conversationId
      threadId := body.threadId
      reason := body.reason }
  (hold, { stores with holds := holds }.remember hold)

/-- What an approval answers, the stores, and the arguments of `resume_graph`
where it is called. -/
structure Approval where
  answer : Except HttpError HitlHold
  stores : HitlStores
  resume : Option (String × String) := none

/-- `thread_id or other`. -/
def threadOr (threadId : Option String) (other : String) : String :=
  if PyStr.truthyOption threadId then threadId.getD other else other

/-- The part of `approve_hold` after the database. -/
def approveInMemory (configured : Bool) (threadId : Option String) (runId : String)
    (body : HitlDecisionRequest) (stores : HitlStores) : Approval :=
  let held := (stores.memory runId).getD
    { runId := runId
      tenantId := ""
      conversationId := ""
      threadId := threadOr threadId runId }
  if held.status ≠ .pending ∧ configured = false then
    { answer := .error .conflict, stores := stores }
  else
    let approved : HitlHold := { held with status := .approved, resolvedBy := some body.decidedBy }
    { answer := .ok approved
      stores :=
        { stores with memory := Function.update stores.memory runId (some approved) }
      resume := some (runId, threadOr threadId held.threadId) }

def approveHold (session : Option Transaction) (runId : String) (body : HitlDecisionRequest)
    (stores : HitlStores) : Approval :=
  match session with
  | none => approveInMemory false none runId body stores
  | some session =>
      let r := inSession session (HitlHoldRepository.approve runId) stores.holds
      let stores := { stores with holds := r.2 }
      match r.1 with
      | some none => { answer := .error .notFound, stores := stores }
      | some (some record) => approveInMemory true (some record.threadId) runId body stores
      -- a database that raises is logged, and the run is resumed all the same
      | none => approveInMemory true none runId body stores

/-- The part of `reject_hold` after the database. -/
def rejectInMemory (configured : Bool) (runId : String) (body : HitlDecisionRequest)
    (stores : HitlStores) : Except HttpError HitlHold × HitlStores :=
  match stores.memory runId with
  | none =>
      if configured then
        (.ok
          { runId := runId
            tenantId := ""
            conversationId := ""
            threadId := runId
            status := .rejected
            reason := body.reason
            resolvedBy := some body.decidedBy }, stores)
      else (.error .notFound, stores)
  | some held =>
      if held.status ≠ .pending ∧ configured = false then (.error .conflict, stores)
      else
        let rejected : HitlHold :=
          { held with
            status := .rejected
            resolvedBy := some body.decidedBy
            reason := if PyStr.truthyOption body.reason then body.reason else held.reason }
        (.ok rejected,
          { stores with memory := Function.update stores.memory runId (some rejected) })

def rejectHold (session : Option Transaction) (runId : String) (body : HitlDecisionRequest)
    (stores : HitlStores) : Except HttpError HitlHold × HitlStores :=
  match session with
  | none => rejectInMemory false runId body stores
  | some session =>
      let r := inSession session (HitlHoldRepository.reject runId body.reason) stores.holds
      let stores := { stores with holds := r.2 }
      match r.1 with
      | some none => (.error .notFound, stores)
      | _ => rejectInMemory true runId body stores

end HitlRouter

/-! ## Resumption -/

/-- What `ainvoke(None, config)` makes of the thread's checkpoint and of the
world, for the registered graph. -/
abbrev Resumption := GraphState → World → GraphState × World

/-- `resume_graph`: without a registered graph nothing happens. -/
def resumeGraph (graph : Option Resumption) (threadId : String) (rt : Runtime) : Runtime :=
  match graph with
  | none => rt
  | some ainvoke =>
      let updated := (rt.checkpoints threadId).merge
        { hitlRequested := some false, hitlApproved := some true }
      let r := ainvoke updated rt.world
      { checkpoints := Function.update rt.checkpoints threadId r.1
        world := r.2 }

/-- An approval with the database up, and the resumption it leads to. -/
def approveAndResume (graph : Option Resumption) (memory : String → Option HitlHold)
    (runId : String) (body : HitlDecisionRequest) (rt : Runtime) : Runtime :=
  let r := HitlRouter.approveHold (some .commits) runId body
    { holds := rt.world.holds, memory := memory }
  let rt' : Runtime := { rt with world := { rt.world with holds := r.stores.holds } }
  match r.resume with
  | none => rt'
  | some (_, threadId) => resumeGraph graph threadId rt'

end Iara.Api
