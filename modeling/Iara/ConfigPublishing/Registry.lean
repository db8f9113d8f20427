import Iara.Api.Config

/-!
# The service registry

`registry.py`: a `PublishService` per tenant, and the stages that the kanban tools
read from its dictionaries.  The endpoints of the router run in the same process.
-/

namespace Iara.ConfigPublishing

open Iara.Lib Iara.Persistence Iara.Api

def defaultKanbanStages : Json :=
  .arr ((["new_lead", "contacted", "nurturing", "qualified", "proposal_sent", "negotiation", "won",
    "lost"] : List String).map .str)

/-- `config_data.get("kanban_stages") or _DEFAULT_KANBAN_STAGES`. -/
def kanbanStages (configData : Parameters) : Json :=
  ((Json.obj configData).getD "kanban_stages" .null).orElse defaultKanbanStages

/-- `_services`, of each service its dictionaries. -/
abbrev Services := String → Option Memory

def getService (tenantId : String) (services : Services) : Services :=
  match services tenantId with
  | some _ => services
  | none => Function.update services tenantId (some {})

def getKanbanStages (services : Services) (tenantId : String) : Json :=
  match services tenantId with
  | none => defaultKanbanStages
  | some memory =>
      match memory.publications.reverse.find? fun p => p.isActive with
      | none => defaultKanbanStages
      | some p => kanbanStages p.configData

/-! ## The process -/

structure Process where
  history : ConfigRouter.History
  services : Services := fun _ => none

/-- A request to the router, or a call of `get_service` from anywhere. -/
inductive ProcessStep where
  | request (call : ConfigRouter.Call)
  | getService (tenantId : String)

/-- The router builds its services by itself, so `_services` is not its own. -/
def process (router : ConfigRouter) : Machine Process ProcessStep where
  step p
    | .request call =>
        (router.machine.step p.history call).map fun history => { p with history := history }
    | .getService tenantId => some { p with services := getService tenantId p.services }

variable {router : ConfigRouter} {p p' : Process}

theorem request_of_step {call : ConfigRouter.Call} {history : ConfigRouter.History}
    (h : router.machine.step p.history call = some history) :
    (process router).step p (.request call) = some { p with history := history } := by
  simp only [process, h, Option.map_some]

theorem request_eq_some {call : ConfigRouter.Call}
    (hstep : (process router).step p (.request call) = some p') :
    ∃ history, router.machine.step p.history call = some history ∧
      p' = { p with history := history } := by
  simp only [process, Option.map_eq_some_iff] at hstep
  obtain ⟨history, hhistory, hp'⟩ := hstep
  exact ⟨history, hhistory, hp'.symm⟩

/-- No service of the registry has a publication. -/
def Unpublished (services : Services) : Prop :=
  ∀ tenantId memory, services tenantId = some memory → memory.publications = []

theorem unpublished_getService {services : Services} (h : Unpublished services)
    (tenantId : String) : Unpublished (getService tenantId services) := by
  intro other memory hmemory
  cases hservice : services tenantId with
  | some _ =>
      simp only [getService, hservice] at hmemory
      exact h other memory hmemory
  | none =>
      simp only [getService, hservice] at hmemory
      by_cases hother : other = tenantId
      · rw [hother, Function.update_self] at hmemory
        cases hmemory
        rfl
      · rw [Function.update_of_ne hother] at hmemory
        exact h other memory hmemory

theorem unpublished_step {action : ProcessStep} (h : Unpublished p.services)
    (hstep : (process router).step p action = some p') : Unpublished p'.services := by
  cases action with
  | request call =>
      obtain ⟨history, -, rfl⟩ := request_eq_some hstep
      exact h
  | getService tenantId =>
      cases hstep
      exact unpublished_getService h tenantId

theorem getKanbanStages_of_unpublished {services : Services} (h : Unpublished services)
    (tenantId : String) : getKanbanStages services tenantId = defaultKanbanStages := by
  unfold getKanbanStages
  split
  next => rfl
  next memory hmemory =>
    rw [h tenantId memory hmemory]
    rfl

end Iara.ConfigPublishing
