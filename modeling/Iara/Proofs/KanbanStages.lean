import Iara.ConfigPublishing.DatabaseMode
import Iara.ConfigPublishing.Registry
import Iara.Proofs.PublishableDrafts

/-!
# The stages that the kanban tools see

The router publishes through services that end with the request, the kanban tools
read the services of the registry: they see the default stages, whatever is active.
-/

namespace Iara.ConfigPublishing

open Iara.Lib Iara.Persistence Iara.Api PublishService

variable {router : ConfigRouter} {p p' : Process} {db db' : ConfigDb}

/-! ## What the tools should see -/

/-- The stages of what `GET active` returns, and the default stages without one. -/
def activeStages (router : ConfigRouter) (tenantId : String) (database : Database)
    (db : ConfigDb) : Json :=
  match router.getActiveConfig tenantId database db with
  | .active publication => kanbanStages publication.configData
  | _ => defaultKanbanStages

/-- The kanban tools of every tenant see its active configuration. -/
def SeesActive (router : ConfigRouter) (p : Process) : Prop :=
  ∀ tenantId database, getKanbanStages p.services tenantId =
    activeStages router tenantId database p.history.db

/-! ## The condition -/

/-- The request makes a publication of the version the tenant's active one. -/
def Activates (s : ConfigRouter.History) (call : ConfigRouter.Call) (tenant : Uuid)
    (v : AgentConfigVersion) : Prop :=
  parseUuid call.tenantId = some tenant ∧ call.database.writes = true ∧
    match call.request with
    | .publishDraft r =>
        (∃ draft, parseUuid r.draftId = some draft ∧ PublishableVersion s.db tenant draft v) ∧
          (varchar 256 (PyStr.slice r.publishedBy 256)).isSome = true ∧
          ConfigRouter.Fresh s r.publicationId
    | .rollbackConfig publicationId _ =>
        ∃ publication row, parseUuid publicationId = some publication ∧
          s.db.publications.find publication = some row ∧ row.tenantId = tenant ∧
          s.db.versions.find row.configVersionId = some v
    | _ => False

/-- What a request activates has the default stages, or none. -/
def ActivatesDefault (p : Process) : ProcessStep → Prop
  | .request call => ∀ tenant v, Activates p.history call tenant v →
      kanbanStages (v.configData.getD []) = defaultKanbanStages
  | .getService _ => True

/-! ## Active configurations -/

/-- A publication of the tenant with this configuration is active. -/
def ActiveConfig (db : ConfigDb) (tenant : Uuid) (configData : Parameters) : Prop :=
  ∃ row ∈ db.publications.rows, row.tenantId = tenant ∧ row.isActive = true ∧
    ∃ v, db.versions.find row.configVersionId = some v ∧ v.configData.getD [] = configData

/-- Every publication is of a version. -/
def VersionsKnown (db : ConfigDb) : Prop :=
  ∀ row ∈ db.publications.rows, ∃ v, db.versions.find row.configVersionId = some v

theorem activeConfig_iff {tenant : Uuid} {configData : Parameters} :
    ActiveConfig db tenant configData ↔
      ∃ row ∈ activeRows tenant db, row.2.configData.getD [] = configData := by
  constructor
  · rintro ⟨row, hmem, hown, hactive, v, hv, hconfig⟩
    exact ⟨(row, v), DatabaseHolds.mem_activeRows.2 ⟨hmem, hown, hactive, hv⟩, hconfig⟩
  · rintro ⟨⟨row, v⟩, hrow, hconfig⟩
    obtain ⟨hmem, hown, hactive, hv⟩ := DatabaseHolds.mem_activeRows.1 hrow
    exact ⟨row, hmem, hown, hactive, v, hv, hconfig⟩

/-- What `GET active` returns is one of the active configurations. -/
theorem activeConfig_of_active {tenantId : String} {database : Database}
    {publication : ActivePublication}
    (h : router.getActiveConfig tenantId database db = .active publication) :
    ∃ tenant, parseUuid tenantId = some tenant ∧
      ActiveConfig db tenant publication.configData := by
  have hactive : (router.buildService tenantId).getActivePublication database ⟨db, {}⟩ =
      some publication := by
    unfold ConfigRouter.getActiveConfig at h
    split at h
    next => cases h
    next publication' hactive =>
      cases h
      exact hactive
  unfold getActivePublication at hactive
  split at hactive
  next answer hclose =>
    cases hparsed : parseUuid (router.buildService tenantId).tenantId with
    | none =>
        simp only [activeInDb, hparsed, Database.close_other] at hclose
        cases hclose
    | some tenant =>
        have hanswer : answer = (activeRows tenant db).head?.map activeOfRow := by
          simp only [activeInDb, hparsed] at hclose
          rcases database with _ | transaction
          · cases hclose
          · cases transaction <;> cases hclose
            rfl
        rw [hanswer, Option.map_eq_some_iff] at hactive
        obtain ⟨row, hrow, rfl⟩ := hactive
        exact ⟨tenant, hparsed, activeConfig_iff.2 ⟨row, List.mem_of_mem_head? hrow, rfl⟩⟩
  next =>
    -- the service of the request has published nothing
    cases hactive

/-- With the database up it returns one, if there is any. -/
theorem active_of_activeConfig (router : ConfigRouter) {tenant : Uuid} {configData : Parameters}
    (h : ActiveConfig db tenant configData) :
    ∃ publication, router.getActiveConfig (formatUuid tenant) (.session .commits) db =
      .active publication := by
  obtain ⟨row, hrow, -⟩ := activeConfig_iff.1 h
  have hparsed : parseUuid (router.buildService (formatUuid tenant)).tenantId = some tenant :=
    parseUuid_formatUuid tenant
  have hin : (router.buildService (formatUuid tenant)).activeInDb db =
      .ok ((activeRows tenant db).head?.map activeOfRow, db) := by
    simp only [activeInDb, hparsed]
  cases hhead : activeRows tenant db with
  | nil =>
      rw [hhead] at hrow
      cases hrow
  | cons first rest =>
      refine ⟨activeOfRow first, ?_⟩
      simp only [ConfigRouter.getActiveConfig, getActivePublication, hin, hhead]
      rfl

/-! ## What a request does to them -/

variable {tenant draft publication : Uuid} {v : AgentConfigVersion}

theorem find_of_kept {draw : Option Uuid} (hkept : VersionsKept draw db db') {k : Uuid}
    {v' : AgentConfigVersion} (hknown : ∃ v, db.versions.find k = some v)
    (hv' : db'.versions.find k = some v') :
    ∃ v, db.versions.find k = some v ∧ v'.configData = v.configData := by
  obtain ⟨v, hv⟩ := hknown
  obtain ⟨v'', hv'', -, hconfig⟩ := hkept.kept k v hv
  obtain rfl := Option.some.inj (hv'.symm.trans hv'')
  exact ⟨v, hv, hconfig⟩

/-- Where the rows of the publications stay, the active configurations do. -/
theorem activeConfig_of_kept {draw : Option Uuid} (hkept : VersionsKept draw db db')
    (hknown : VersionsKnown db) (hrows : db'.publications = db.publications)
    {configData : Parameters} (h : ActiveConfig db' tenant configData) :
    ActiveConfig db tenant configData := by
  obtain ⟨row, hmem, hown, hactive, v', hv', hconfig⟩ := h
  rw [hrows] at hmem
  obtain ⟨v, hv, hsame⟩ := find_of_kept hkept (hknown row hmem) hv'
  exact ⟨row, hmem, hown, hactive, v, hv, by rw [← hsame]; exact hconfig⟩

theorem versionsKnown_of_kept {draw : Option Uuid} (hkept : VersionsKept draw db db')
    (hrows : ∀ row ∈ db'.publications.rows, ∃ v, db.versions.find row.configVersionId = some v) :
    VersionsKnown db' := by
  intro row hmem
  obtain ⟨v, hv⟩ := hrows row hmem
  obtain ⟨v', hv', -⟩ := hkept.kept _ v hv
  exact ⟨v', hv'⟩

/-- A request has made the configuration the only active one of the tenant. -/
structure MadeActive (db db' : ConfigDb) (tenant : Uuid) (configData : Parameters) : Prop where
  active : ActiveConfig db' tenant configData
  only : ∀ other config, ActiveConfig db' other config →
    other = tenant ∧ config = configData ∨ other ≠ tenant ∧ ActiveConfig db other config
  known : ∀ row ∈ db'.publications.rows, ∃ v, db.versions.find row.configVersionId = some v

theorem madeActive_publishRows {r : PublishRequest} (hv : PublishableVersion db tenant draft v)
    (hknown : VersionsKnown db) (hnew : db.publications.hasKey r.publicationId = false) :
    MadeActive db (publishRows tenant draft r db) tenant (v.configData.getD []) := by
  have hkept : VersionsKept none db (publishRows tenant draft r db) := versionsKept_publishRows
  constructor
  · obtain ⟨v', hv', -, hconfig⟩ := hkept.kept draft v hv.found
    refine ⟨publicationRow tenant draft r, ?_, rfl, rfl, v', hv', by rw [hconfig]⟩
    exact Table.mem_insertOrIgnore_self (Table.hasKey_update.trans hnew)
  · rintro other config ⟨row, hmem, hown, hactive, v', hv', hconfig⟩
    rcases Table.mem_insertOrIgnore hmem with hold | ⟨rfl, -⟩
    · right
      obtain ⟨row', hrow', hif⟩ := Table.mem_update.1 hold
      split at hif
      · rw [← hif] at hactive
        cases hactive
      next hkeep =>
        subst hif
        obtain ⟨w, hw, hsame⟩ := find_of_kept hkept (hknown row' hrow') hv'
        refine ⟨?_, row', hrow', hown, hactive, w, hw, by rw [← hsame]; exact hconfig⟩
        rintro rfl
        exact hkeep (by simp [hown, hactive])
    · left
      obtain ⟨w, hw, hsame⟩ := find_of_kept hkept ⟨v, hv.found⟩ hv'
      obtain rfl := Option.some.inj (hw.symm.trans hv.found)
      exact ⟨hown.symm, by rw [← hconfig, hsame]⟩
  · intro row hmem
    rcases Table.mem_insertOrIgnore hmem with hold | ⟨rfl, -⟩
    · obtain ⟨row', hrow', rfl⟩ := Table.mem_update.1 hold
      split <;> exact hknown row' hrow'
    · exact ⟨v, hv.found⟩

theorem madeActive_rollbackRows {row : ConfigPublication} {now : Nat} (hknown : VersionsKnown db)
    (hrow : db.publications.find publication = some row) (hown : row.tenantId = tenant)
    (hv : db.versions.find row.configVersionId = some v) :
    MadeActive db (rollbackRows tenant publication now db) tenant (v.configData.getD []) := by
  obtain ⟨hmem, hid⟩ := Table.find_eq_some_iff.1 hrow
  constructor
  · refine ⟨reactivated now (deactivated row), ?_, hown, rfl, v, hv, rfl⟩
    have hcleared : deactivated row ∈ (db.publications.update (fun p => p.tenantId = tenant)
        deactivated fun _ => rfl).rows :=
      Table.mem_update.2 ⟨row, hmem, if_pos (by simpa using hown)⟩
    have hreactivated : reactivated now (deactivated row) ∈
        ((db.publications.update (fun p => p.tenantId = tenant) deactivated
          fun _ => rfl).update (fun p => p.id = publication) (reactivated now) fun _ => rfl).rows :=
      Table.mem_update.2 ⟨deactivated row, hcleared, if_pos (decide_eq_true hid)⟩
    exact hreactivated
  · rintro other config ⟨row', hmem', hown', hactive, v', hv', hconfig⟩
    obtain ⟨row₁, hrow₁, hif₁⟩ := List.mem_map.1 hmem'
    obtain ⟨row₀, hrow₀, hif₀⟩ := List.mem_map.1 hrow₁
    have hsame : row₁.id = row₀.id ∧ row₁.tenantId = row₀.tenantId ∧
        row₁.configVersionId = row₀.configVersionId := by
      rw [← hif₀]
      split <;> exact ⟨rfl, rfl, rfl⟩
    split at hif₁
    next hreactivated =>
      left
      have hfound : row₀ = row := by
        refine db.publications.row_eq_of_key_eq hrow₀ hmem ?_
        rw [← hsame.1, hid]
        exact of_decide_eq_true hreactivated
      subst hfound
      rw [← hif₁] at hown' hv'
      have hv'' : db.versions.find row₀.configVersionId = some v' := by
        rw [← hsame.2.2]
        exact hv'
      obtain rfl := Option.some.inj (hv''.symm.trans hv)
      exact ⟨hown'.symm.trans (hsame.2.1.trans hown), hconfig.symm⟩
    next =>
      right
      subst hif₁
      split at hif₀
      · rw [← hif₀] at hactive
        cases hactive
      next hother =>
        subst hif₀
        refine ⟨?_, row₀, hrow₀, hown', hactive, v', hv', hconfig⟩
        rintro rfl
        exact hother (by simpa using hown')
  · intro row' hmem'
    obtain ⟨row₁, hrow₁, rfl⟩ := List.mem_map.1 hmem'
    obtain ⟨row₀, hrow₀, rfl⟩ := List.mem_map.1 hrow₁
    have hversion : ∃ v, db.versions.find row₀.configVersionId = some v := hknown row₀ hrow₀
    split <;> split <;> exact hversion

/-! ## One step -/

variable {s s' : ConfigRouter.History} {call : ConfigRouter.Call}

/-- A database part that fails, or that is not committed, leaves the tables alone. -/
theorem close_of_not_written {α : Type} {part : Except Failure (α × ConfigDb)}
    {database : Database}
    (h : ∀ answer after, part = .ok (answer, after) → database.writes = false) :
    (database.close db part).2 = db := by
  rcases Database.close_snd db part database with hsame | ⟨answer, after, hok, -⟩
  · exact hsame
  · rw [hok, Database.close_snd_of_ok, h answer after hok, if_neg Bool.false_ne_true]

/-- A request that activates a version leaves it as the tenant's only active one. -/
theorem madeActive_of_activates (hknown : VersionsKnown s.db)
    (hactivates : Activates s call tenant v) (hstep : router.machine.step s call = some s') :
    MadeActive s.db s'.db tenant (v.configData.getD []) := by
  obtain ⟨-, hdb, -⟩ := ConfigRouter.step_eq_some hstep
  obtain ⟨tenantId, request, database⟩ := call
  obtain ⟨htenant, hwrites, hrequest⟩ := hactivates
  have hparsed : parseUuid (router.buildService tenantId).tenantId = some tenant := htenant
  cases request with
  | createDraft config draftId stamp => exact hrequest.elim
  | getActiveConfig => exact hrequest.elim
  | publishDraft r =>
      obtain ⟨⟨draft, hdraft, hv⟩, hfits, hfresh⟩ := hrequest
      have hafter : s'.db = publishRows tenant draft r s.db := by
        rw [hdb]
        refine (ConfigRouter.publishDraft_db r database s.db).trans ?_
        rw [hv.publishInDb_eq hparsed hdraft hfits hfresh.2.2, Database.close_snd_of_ok]
        exact if_pos hwrites
      rw [hafter]
      exact madeActive_publishRows hv hknown hfresh.2.2
  | rollbackConfig publicationId now =>
      obtain ⟨publication, row, hpublication, hrow, hown, hv⟩ := hrequest
      have hafter : s'.db = rollbackRows tenant publication now s.db := by
        rw [hdb]
        refine (ConfigRouter.rollbackConfig_db publicationId now database s.db).trans ?_
        rw [rollbackInDb_eq hparsed hpublication hrow hown hv, Database.close_snd_of_ok]
        exact if_pos hwrites
      rw [hafter]
      exact madeActive_rollbackRows hknown hrow hown hv

/-- Any other request leaves the publications alone. -/
theorem publications_of_not_activates (hno : ∀ tenant v, ¬ Activates s call tenant v)
    (hstep : router.machine.step s call = some s') :
    s'.db.publications = s.db.publications := by
  obtain ⟨hfresh, hdb, -⟩ := ConfigRouter.step_eq_some hstep
  obtain ⟨tenantId, request, database⟩ := call
  rw [hdb]
  cases request with
  | createDraft config draftId stamp =>
      have hafter : (router.createDraft tenantId (ConfigRouter.draftRequest config draftId stamp)
          database s.db).2 = _ := ConfigRouter.createDraft_db _ database s.db
      refine (congrArg ConfigDb.publications hafter).trans ?_
      rcases Database.close_snd s.db ((router.buildService tenantId).insertDraft
        (ConfigRouter.draftRequest config draftId stamp) s.db) database with
        hsame | ⟨answer, after, hok, hcommitted⟩
      · rw [hsame]
      · obtain ⟨tenant, storedTag, stored, -, rfl⟩ := insertable_of_insertDraft hok
        rw [hcommitted]
        rfl
  | getActiveConfig => rfl
  | publishDraft r =>
      refine congrArg ConfigDb.publications
        ((ConfigRouter.publishDraft_db r database s.db).trans (close_of_not_written ?_))
      intro answer after hok
      obtain ⟨tenant, draft, v, htenant, hdraft, hv, hfits, -⟩ := publishable_of_publishInDb hok
      refine Bool.eq_false_iff.2 fun hwrites => ?_
      exact hno tenant v ⟨htenant, hwrites, ⟨draft, hdraft, hv⟩, hfits, hfresh _ rfl⟩
  | rollbackConfig publicationId now =>
      refine congrArg ConfigDb.publications
        ((ConfigRouter.rollbackConfig_db publicationId now database s.db).trans
          (close_of_not_written ?_))
      intro answer after hok
      obtain ⟨tenant, publication, row, v, htenant, hpublication, hrow, hown, hv, -⟩ :=
        found_of_rollbackInDb hok
      refine Bool.eq_false_iff.2 fun hwrites => ?_
      exact hno tenant v ⟨htenant, hwrites, publication, row, hpublication, hrow, hown, hv⟩

/-! ## Runs -/

/-- Nothing was published to a service of the registry, and what is active in the
tables has the default stages. -/
structure DefaultsOnly (p : Process) : Prop where
  unpublished : Unpublished p.services
  known : VersionsKnown p.history.db
  stages : ∀ tenant config, ActiveConfig p.history.db tenant config →
    kanbanStages config = defaultKanbanStages

theorem DefaultsOnly.seesActive (h : DefaultsOnly p) : SeesActive router p := by
  intro tenantId database
  rw [getKanbanStages_of_unpublished h.unpublished, activeStages]
  split
  next publication hactive =>
    obtain ⟨tenant, -, hconfig⟩ := activeConfig_of_active hactive
    exact (h.stages tenant _ hconfig).symm
  next => rfl

/-- What a step leaves that activates the default stages only. -/
theorem defaultsOnly_step {action : ProcessStep} (h : DefaultsOnly p)
    (hcond : ActivatesDefault p action) (hstep : (process router).step p action = some p') :
    DefaultsOnly p' := by
  have hunpublished := unpublished_step h.unpublished hstep
  cases action with
  | getService tenantId =>
      cases hstep
      exact ⟨hunpublished, h.known, h.stages⟩
  | request call =>
      obtain ⟨history, hhistory, rfl⟩ := request_eq_some hstep
      have hkept : VersionsKept call.request.draw p.history.db history.db := by
        obtain ⟨-, hdb, -⟩ := ConfigRouter.step_eq_some hhistory
        rw [hdb]
        exact ConfigRouter.versionsKept_respond router call p.history.db
      by_cases hactivates : ∃ tenant v, Activates p.history call tenant v
      · obtain ⟨tenant, v, hv⟩ := hactivates
        have hmade := madeActive_of_activates h.known hv hhistory
        refine ⟨hunpublished, versionsKnown_of_kept hkept hmade.known, ?_⟩
        intro other config hconfig
        rcases hmade.only other config hconfig with ⟨-, rfl⟩ | ⟨-, hbefore⟩
        · exact hcond tenant v hv
        · exact h.stages other config hbefore
      · push Not at hactivates
        have hrows := publications_of_not_activates hactivates hhistory
        refine ⟨hunpublished, versionsKnown_of_kept hkept ?_, ?_⟩
        · intro row hmem
          rw [hrows] at hmem
          exact h.known row hmem
        · intro tenant config hconfig
          exact h.stages tenant config (activeConfig_of_kept hkept h.known hrows hconfig)

/-- Where the tools see what is active, no step has activated other stages. -/
theorem activatesDefault_of_seesActive (router : ConfigRouter) {action : ProcessStep}
    (h : DefaultsOnly p)
    (hsees : ∀ p', (process router).step p action = some p' → SeesActive router p') :
    ActivatesDefault p action := by
  cases action with
  | getService tenantId => trivial
  | request call =>
      intro tenant v hv
      have hfresh : ∀ k ∈ call.request.draw, ConfigRouter.Fresh p.history k := by
        obtain ⟨tenantId, request, database⟩ := call
        obtain ⟨-, -, hrequest⟩ := hv
        cases request with
        | createDraft config draftId stamp => exact hrequest.elim
        | getActiveConfig => exact hrequest.elim
        | publishDraft r =>
            intro k hk
            obtain rfl := Option.some.inj hk
            exact hrequest.2.2
        | rollbackConfig publicationId now =>
            intro k hk
            cases hk
      have hhistory := ConfigRouter.step_of_fresh router hfresh
      have hstep := request_of_step hhistory
      have hmade := madeActive_of_activates h.known hv hhistory
      obtain ⟨publication, hactive⟩ := active_of_activeConfig router hmade.active
      obtain ⟨tenant', htenant', hconfig⟩ := activeConfig_of_active hactive
      obtain rfl := Option.some.inj ((parseUuid_formatUuid tenant).symm.trans htenant')
      have hsame : publication.configData = v.configData.getD [] := by
        rcases hmade.only tenant _ hconfig with ⟨-, hsame⟩ | ⟨hne, -⟩
        · exact hsame
        · exact absurd rfl hne
      have hseen := hsees _ hstep (formatUuid tenant) (.session .commits)
      rw [getKanbanStages_of_unpublished h.unpublished, activeStages] at hseen
      simp only [hactive, hsame] at hseen
      exact hseen.symm

/-- Before the first request. -/
def startOf (tenants : List Uuid) : Process where
  history := { db := { tenants := tenants } }

theorem defaultsOnly_startOf (tenants : List Uuid) : DefaultsOnly (startOf tenants) where
  unpublished tenantId memory h := by cases h
  known row h := by cases h
  stages tenant config h := by
    obtain ⟨row, hmem, -⟩ := h
    cases hmem

theorem allSteps_of_seesActive {start : Process} (h : DefaultsOnly start)
    {actions : List ProcessStep}
    (hsees : ∀ earlier p, earlier <+: actions → (process router).run start earlier = some p →
      SeesActive router p) :
    (process router).AllSteps ActivatesDefault start actions := by
  induction actions generalizing start with
  | nil => exact trivial
  | cons action actions ih =>
      have hcond : ActivatesDefault start action := by
        refine activatesDefault_of_seesActive router h ?_
        intro next hstep
        refine hsees [action] next ?_ ?_
        · exact List.prefix_cons_inj action |>.2 (List.nil_prefix ..)
        · exact (process router).run_cons_eq_some.2 ⟨next, hstep, rfl⟩
      refine ⟨hcond, ?_⟩
      intro next hstep
      refine ih (defaultsOnly_step h hcond hstep) ?_
      intro earlier p hprefix hrun
      refine hsees (action :: earlier) p (List.prefix_cons_inj action |>.2 hprefix) ?_
      exact (process router).run_cons_eq_some.2 ⟨next, hstep, hrun⟩

/-- In every state of a run, with a database or without, the kanban tools see the
active configuration of every tenant exactly if no request activates a version with
stages of its own. -/
theorem seesActive_iff (router : ConfigRouter) (tenants : List Uuid)
    (actions : List ProcessStep) :
    (∀ earlier p, earlier <+: actions → (process router).run (startOf tenants) earlier = some p →
      SeesActive router p) ↔
    (process router).AllSteps ActivatesDefault (startOf tenants) actions := by
  constructor
  · exact allSteps_of_seesActive (defaultsOnly_startOf tenants)
  · rintro hall earlier p ⟨later, rfl⟩ hrun
    refine DefaultsOnly.seesActive ?_
    exact (process router).invariant_of_allSteps (fun _ _ _ h hcond hstep =>
      defaultsOnly_step h hcond hstep) (defaultsOnly_startOf tenants) hall.append_left hrun

section Example

open ConfigRouter

/-- A pipeline with one stage of its own. -/
def ownConfig : TenantConfig where
  versionTag := "v1"
  dump := [("version_tag", .str "v1"), ("kanban_stages", .arr [.str "triagem"])]
  dump_ne := rfl

def ownDraft : Call where
  tenantId := plainTenantId
  request := .createDraft ownConfig 7 "20260101120000"
  database := .session .commits

def ownPublish : Call where
  tenantId := plainTenantId
  request := .publishDraft (publishRequest 7 9)
  database := .session .commits

def ownVersion : AgentConfigVersion :=
  (plainConfigRouter.buildService plainTenantId).version 1
    (draftRequest ownConfig 7 "20260101120000") "v1" ownConfig.dump

def withOwnDraft : Process where
  history :=
    { db := (plainConfigRouter.buildService plainTenantId).draftRows 1
        (draftRequest ownConfig 7 "20260101120000") "v1" ownConfig.dump registered
      drawn := [7] }

theorem step_ownDraft :
    (process plainConfigRouter).step (startOf [1]) (.request ownDraft) = some withOwnDraft := by
  have hinsertable : Insertable (plainConfigRouter.buildService plainTenantId) registered
      (draftRequest ownConfig 7 "20260101120000") 1 "v1" ownConfig.dump :=
    ⟨parseUuid_formatUuid 1, by decide, varchar_of_length_le (by decide) (by decide), rfl,
      by decide, by decide⟩
  have hafter : (plainConfigRouter.respond ownDraft registered).2 = withOwnDraft.history.db := by
    change (plainConfigRouter.createDraft plainTenantId (draftRequest ownConfig 7 "20260101120000")
      (.session .commits) registered).2 = _
    rw [ConfigRouter.createDraft_db, hinsertable.insertDraft_eq]
    rfl
  have hfresh : ∀ k ∈ ownDraft.request.draw, Fresh (startOf [1]).history k := by
    intro k hk
    obtain rfl := Option.some.inj hk
    decide
  have hstep := step_of_fresh plainConfigRouter hfresh
  have hdb : (startOf [1]).history.db = registered := rfl
  rw [hdb, hafter] at hstep
  exact request_of_step hstep

/-- The published stage is not among those that the kanban tools see. -/
theorem ownStages_unseen :
    ∃ p, (process plainConfigRouter).run (startOf [1]) [.request ownDraft, .request ownPublish] =
      some p ∧ ¬ SeesActive plainConfigRouter p := by
  have hdraft := step_ownDraft
  have hstart : DefaultsOnly withOwnDraft := by
    refine defaultsOnly_step (defaultsOnly_startOf [1]) ?_ hdraft
    rintro tenant v ⟨-, -, hrequest⟩
    exact hrequest.elim
  have hfresh : Fresh withOwnDraft.history 9 := by decide
  have hdraws : ∀ k ∈ ownPublish.request.draw, Fresh withOwnDraft.history k := by
    intro k hk
    obtain rfl := Option.some.inj hk
    exact hfresh
  obtain ⟨p, hpublish⟩ : ∃ p,
      (process plainConfigRouter).step withOwnDraft (.request ownPublish) = some p :=
    ⟨_, request_of_step (step_of_fresh plainConfigRouter hdraws)⟩
  refine ⟨p, ?_, ?_⟩
  · rw [Machine.run_cons, hdraft, Option.bind_some, Machine.run_cons, hpublish, Option.bind_some,
      Machine.run_nil]
  · intro hsees
    have hdefault : ActivatesDefault withOwnDraft (.request ownPublish) := by
      refine activatesDefault_of_seesActive plainConfigRouter hstart ?_
      intro p' hp'
      obtain rfl := Option.some.inj (hpublish.symm.trans hp')
      exact hsees
    have hstages := hdefault 1 ownVersion ⟨parseUuid_formatUuid 1, rfl,
      ⟨7, parseUuid_formatUuid 7, ⟨rfl, rfl, rfl⟩⟩, varchar_api, hfresh⟩
    revert hstages
    decide

end Example

end Iara.ConfigPublishing
