import Iara.ConfigPublishing.Publisher

/-!
# What a step of a publishing transaction can do

`PublishEffect` lists what a step does to the publications and to the phase of
its transaction, and `Consistent` is what holds of the tables and of every
transaction along a run.
-/

namespace Iara.ConfigPublishing

open Iara.Lib Iara.Persistence

namespace PublishPhase

/-- The plan of a transaction that is under way. -/
def plan : PublishPhase → Option PublishPlan
  | selected plan => some plan
  | deactivating plan _ => some plan
  | flushed plan => some plan
  | written plan => some plan
  | _ => none

def isWritten : PublishPhase → Bool
  | written _ => true
  | _ => false

end PublishPhase

namespace PublishService

/-! ## The effects -/

inductive PublishEffect (db : PublishingDb) (tx : PublishTransaction) (step : PublishStep) :
    PublishPhase → Versions Uuid ConfigPublication → Prop
  | found (plan) (hphase : tx.phase = .opened) (hselect : select tx db = .ok plan) :
      PublishEffect db tx step (.selected plan) db.publications
  | moved (phase) (hplan : phase.plan = tx.phase.plan) (hbefore : tx.phase.isWritten = false)
      (hafter : phase.isWritten = false) : PublishEffect db tx step phase db.publications
  | deactivated (plan k rest t) (hphase : tx.phase = .deactivating plan (k :: rest))
      (htouch : db.publications.touch tx.xid plan.deactivates deactivated k = some t) :
      PublishEffect db tx step (.deactivating plan rest) t
  | inserted (version row) (hphase : tx.phase = .flushed (.publish version row))
      (hfree : db.publications.free tx.xid row.id = true)
      (hnew : db.publications.visible tx.xid row.id = none) :
      PublishEffect db tx step (.written (.publish version row))
        (db.publications.write tx.xid row.id row)
  | activated (publication version now t)
      (hphase : tx.phase = .deactivating (.rollback publication version now) [])
      (htouch : db.publications.touch tx.xid (fun _ => true) (reactivated now) publication.id =
        some t) : PublishEffect db tx step (.written (.rollback publication version now)) t
  | committed (plan phase session) (hphase : tx.phase = .written plan)
      (hstep : step = .commit session) (hwrites : session.writes = true)
      (hended : phase.plan = none) :
      PublishEffect db tx step phase (db.publications.commit tx.xid)
  | aborted (phase) (hended : phase.plan = none) :
      PublishEffect db tx step phase (db.publications.abort tx.xid)

variable {db db' : PublishingDb} {tx tx' : PublishTransaction} {step : PublishStep}

/-- A step has one of the listed effects, and changes nothing of its transaction but
the phase. -/
structure ActEffect (db : PublishingDb) (tx : PublishTransaction) (step : PublishStep)
    (tx' : PublishTransaction) (db' : PublishingDb) : Prop where
  effect : PublishEffect db tx step tx'.phase db'.publications
  moved : tx' = { tx with phase := tx'.phase }
  nextXid : db'.nextXid = db.nextXid

/-- A step that ends in an exception. -/
theorem ActEffect.raised {phase' : PublishPhase} (hended : phase'.plan = none)
    (h : some (({ tx with phase := phase' } : PublishTransaction), db.abort tx.xid) =
      some (tx', db')) : ActEffect db tx step tx' db' := by
  cases h
  exact ⟨.aborted _ hended, rfl, rfl⟩

section Phases

variable {xid : Nat} {tenantId : String} {call : PublishCall} {plan : PublishPlan}

theorem opened_effect
    (h : act db { xid, tenantId, call, phase := .opened } step = some (tx', db')) :
    ActEffect db { xid, tenantId, call, phase := .opened } step tx' db' := by
  cases step with
  | select =>
      simp only [act] at h
      split at h
      next plan hplan =>
        cases h
        exact ⟨.found plan rfl hplan, rfl, rfl⟩
      next => exact .raised rfl h
  | fail exception => exact .raised rfl h
  | _ => cases h

theorem selected_effect
    (h : act db { xid, tenantId, call, phase := .selected plan } step = some (tx', db')) :
    ActEffect db { xid, tenantId, call, phase := .selected plan } step tx' db' := by
  cases step with
  | deactivate =>
      cases h
      exact ⟨.moved _ rfl rfl rfl, rfl, rfl⟩
  | fail exception => exact .raised rfl h
  | _ => cases h

/-- A row is left to deactivate. -/
theorem deactivating_effect {k : Uuid} {rest : List Uuid}
    (h : act db { xid, tenantId, call, phase := .deactivating plan (k :: rest) } step =
      some (tx', db')) :
    ActEffect db { xid, tenantId, call, phase := .deactivating plan (k :: rest) } step tx' db' := by
  cases step with
  | lockRow =>
      simp only [act, Option.map_eq_some_iff] at h
      obtain ⟨t, htouch, heq⟩ := h
      cases heq
      exact ⟨.deactivated plan k rest t rfl htouch, rfl, rfl⟩
  | fail exception => cases plan <;> exact .raised rfl h
  | _ => cases plan <;> cases h

/-- Every row is deactivated: a publish flushes its version, a rollback activates. -/
theorem deactivated_effect
    (h : act db { xid, tenantId, call, phase := .deactivating plan [] } step =
      some (tx', db')) :
    ActEffect db { xid, tenantId, call, phase := .deactivating plan [] } step tx' db' := by
  cases plan with
  | publish version row =>
      cases step with
      | flushVersion =>
          simp only [act] at h
          split at h
          · cases h
            exact ⟨.moved _ rfl rfl rfl, rfl, rfl⟩
          · simp only [Option.map_eq_some_iff] at h
            obtain ⟨t, -, heq⟩ := h
            cases heq
            exact ⟨.moved _ rfl rfl rfl, rfl, rfl⟩
      | fail exception => exact .raised rfl h
      | _ => cases h
  | rollback publication version now =>
      cases step with
      | activate =>
          simp only [act, Option.map_eq_some_iff] at h
          obtain ⟨t, htouch, heq⟩ := h
          cases heq
          exact ⟨.activated publication version now t rfl htouch, rfl, rfl⟩
      | fail exception => exact .raised rfl h
      | _ => cases h

theorem flushed_effect
    (h : act db { xid, tenantId, call, phase := .flushed plan } step = some (tx', db')) :
    ActEffect db { xid, tenantId, call, phase := .flushed plan } step tx' db' := by
  cases plan with
  | publish version row =>
      cases step with
      | insert =>
          simp only [act] at h
          split at h
          · cases h
          next hfree =>
            split at h
            · exact .raised rfl h
            next hnew =>
              cases h
              exact ⟨.inserted version row rfl (by simpa using hfree) (by simpa using hnew),
                rfl, rfl⟩
      | fail exception => exact .raised rfl h
      | _ => cases h
  | rollback publication version now =>
      cases step with
      | fail exception => exact .raised rfl h
      | _ => cases h

theorem written_effect
    (h : act db { xid, tenantId, call, phase := .written plan } step = some (tx', db')) :
    ActEffect db { xid, tenantId, call, phase := .written plan } step tx' db' := by
  cases step with
  | commit session =>
      cases session with
      | commits =>
          cases h
          exact ⟨.committed plan _ _ rfl rfl rfl rfl, rfl, rfl⟩
      | fails exception => exact .raised rfl h
      | commitsThenFails exception =>
          cases h
          exact ⟨.committed plan _ _ rfl rfl rfl rfl, rfl, rfl⟩
  | fail exception => exact .raised rfl h
  | _ => cases h

end Phases

/-- Every step of a transaction has one of the listed effects, and only a commit
that takes place writes to the committed rows. -/
theorem act_effect (h : act db tx step = some (tx', db')) : ActEffect db tx step tx' db' := by
  obtain ⟨xid, tenantId, call, phase⟩ := tx
  cases phase with
  | opened => exact opened_effect h
  | selected plan => exact selected_effect h
  | deactivating plan remaining =>
      cases remaining with
      | cons k rest => exact deactivating_effect h
      | nil => exact deactivated_effect h
  | flushed plan => exact flushed_effect h
  | written plan => exact written_effect h
  | finished result => cases h
  | raised exception => cases h

/-! ## What holds along a run -/

/-- Rows are stored under their id and never change hands. -/
structure Rows (t : Versions Uuid ConfigPublication) : Prop where
  committed_id : ∀ k r, t.committed k = some r → r.id = k
  pending_id : ∀ k x r, t.pending k = some (x, r) → r.id = k
  tenant : ∀ k x r r₀, t.pending k = some (x, r) → t.committed k = some r₀ →
    r.tenantId = r₀.tenantId

/-- What a transaction has written so far: rows of its tenant, none of which is
active but its target, and that one only at the end. -/
structure TxInv (t : Versions Uuid ConfigPublication) (tx : PublishTransaction) : Prop where
  active : ∀ version row, tx.phase.plan = some (.publish version row) → row.isActive = true
  own : ∀ k r, t.pending k = some (tx.xid, r) → ∃ plan, tx.phase.plan = some plan ∧
    r.tenantId = plan.tenantId ∧
      (r.isActive = true → tx.phase.isWritten = true ∧ k = plan.target)
  target : ∀ publication version now, tx.phase.plan = some (.rollback publication version now) →
    ∃ r, t.committed publication.id = some r ∧ r.tenantId = publication.tenantId
  activated : ∀ plan, tx.phase = .written plan →
    ∃ r, t.pending plan.target = some (tx.xid, r) ∧ r.tenantId = plan.tenantId ∧ r.isActive = true

structure Consistent (c : PublishConfig) : Prop where
  xids : (c.parties.map PublishTransaction.xid).Nodup
  xid_lt : ∀ tx ∈ c.parties, tx.xid < c.shared.nextXid
  owner_lt : ∀ k x r, c.shared.publications.pending k = some (x, r) → x < c.shared.nextXid
  rows : Rows c.shared.publications
  party : ∀ tx ∈ c.parties, TxInv c.shared.publications tx

/-- Committed rows stay, under their tenant. -/
def Persist (t t' : Versions Uuid ConfigPublication) : Prop :=
  ∀ k r, t.committed k = some r → ∃ r', t'.committed k = some r' ∧ r'.tenantId = r.tenantId

theorem Persist.of_eq {t t' : Versions Uuid ConfigPublication} (h : t'.committed = t.committed) :
    Persist t t' := by
  intro k r hr
  exact ⟨r, by rw [h, hr], rfl⟩

theorem persist_commit {t : Versions Uuid ConfigPublication} (h : Rows t) (x : Nat) :
    Persist t (t.commit x) := by
  intro k r hr
  cases hlocks : t.locks x k with
  | true =>
      obtain ⟨r', hr'⟩ := Versions.locks_iff.1 hlocks
      exact ⟨r', Versions.visible_of_locks hr', h.tenant k x r' r hr' hr⟩
  | false => exact ⟨r, (Versions.visible_of_not_locks hlocks).trans hr, rfl⟩

section Rows

variable {t : Versions Uuid ConfigPublication} {x : Nat} {k : Uuid} {r : ConfigPublication}

theorem Rows.write (h : Rows t) (hid : r.id = k)
    (htenant : ∀ r₀, t.committed k = some r₀ → r.tenantId = r₀.tenantId) :
    Rows (t.write x k r) where
  committed_id := h.committed_id
  pending_id := by
    intro k' y r' hr'
    by_cases hk : k' = k
    · subst hk
      rw [Versions.pending_write_self, Option.some.injEq, Prod.mk.injEq] at hr'
      rw [← hr'.2, hid]
    · rw [Versions.pending_write_of_ne hk] at hr'
      exact h.pending_id k' y r' hr'
  tenant := by
    intro k' y r' r₀ hr' hr₀
    by_cases hk : k' = k
    · subst hk
      rw [Versions.pending_write_self, Option.some.injEq, Prod.mk.injEq] at hr'
      rw [← hr'.2]
      exact htenant r₀ hr₀
    · rw [Versions.pending_write_of_ne hk] at hr'
      exact h.tenant k' y r' r₀ hr' hr₀

/-- A row that is written over keeps its id and its tenant. -/
theorem Rows.update (h : Rows t) (f : ConfigPublication → ConfigPublication)
    (hf : ∀ r, (f r).id = r.id ∧ (f r).tenantId = r.tenantId) (hr : t.visible x k = some r) :
    Rows (t.write x k (f r)) := by
  rcases Versions.visible_cases hr with hpending | hcommitted
  · refine h.write ((hf r).1.trans (h.pending_id k x r hpending)) ?_
    intro r₀ hr₀
    rw [(hf r).2]
    exact h.tenant k x r r₀ hpending hr₀
  · refine h.write ((hf r).1.trans (h.committed_id k r hcommitted)) ?_
    intro r₀ hr₀
    rw [hcommitted, Option.some.injEq] at hr₀
    rw [(hf r).2, hr₀]

theorem Rows.ended (h : Rows t) {t' : Versions Uuid ConfigPublication}
    (hpending : ∀ k, t'.pending k = (t.pending k).filter fun v => v.1 ≠ x)
    (hcommitted : t'.committed = t.visible x ∨ t'.committed = t.committed) : Rows t' := by
  have hold : ∀ k y r, t'.pending k = some (y, r) → t.pending k = some (y, r) ∧ y ≠ x := by
    intro k y r hr
    rw [hpending, Option.filter_eq_some_iff] at hr
    exact ⟨hr.1, by simpa using hr.2⟩
  constructor
  · intro k r hr
    rcases hcommitted with hcommitted | hcommitted
    · rw [hcommitted] at hr
      rcases Versions.visible_cases hr with hp | hc
      · exact h.pending_id k x r hp
      · exact h.committed_id k r hc
    · rw [hcommitted] at hr
      exact h.committed_id k r hr
  · exact fun k y r hr => h.pending_id k y r (hold k y r hr).1
  · intro k y r r₀ hr hr₀
    obtain ⟨hp, hy⟩ := hold k y r hr
    refine h.tenant k y r r₀ hp ?_
    rcases hcommitted with hcommitted | hcommitted
    · have hnot : t.locks x k = false := by
        simp [Versions.locks, hp, hy]
      rw [hcommitted, Versions.visible_of_not_locks hnot] at hr₀
      exact hr₀
    · rw [hcommitted] at hr₀
      exact hr₀

end Rows

/-- The transactions that do not act are not disturbed. -/
theorem TxInv.of_other {t t' : Versions Uuid ConfigPublication} {x : Nat}
    (h : TxInv t tx) (hx : tx.xid ≠ x) (hsame : Versions.SameOthers x t t')
    (hpersist : Persist t t') : TxInv t' tx where
  active := h.active
  own := by
    intro k r hr
    exact h.own k r ((hsame tx.xid k r hx).1 hr)
  target := by
    intro publication version now hplan
    obtain ⟨r, hr, htenant⟩ := h.target publication version now hplan
    obtain ⟨r', hr', htenant'⟩ := hpersist publication.id r hr
    exact ⟨r', hr', htenant'.trans htenant⟩
  activated := by
    intro plan hphase
    obtain ⟨r, hr, hrest⟩ := h.activated plan hphase
    exact ⟨r, (hsame tx.xid plan.target r hx).2 hr, hrest⟩

/-- What an effect does to the tables, as the other transactions see it. -/
structure TableEffect (x : Nat) (t t' : Versions Uuid ConfigPublication) : Prop where
  rows : Rows t'
  others : Versions.SameOthers x t t'
  persist : Persist t t'

theorem TableEffect.update {t : Versions Uuid ConfigPublication} {x : Nat} {k : Uuid}
    {r : ConfigPublication} (hrows : Rows t) (hfree : t.free x k = true)
    (hr : t.visible x k = some r) (f : ConfigPublication → ConfigPublication)
    (hf : ∀ r, (f r).id = r.id ∧ (f r).tenantId = r.tenantId) :
    TableEffect x t (t.write x k (f r)) :=
  ⟨hrows.update f hf hr, Versions.sameOthers_write hfree, .of_eq rfl⟩

variable {phase : PublishPhase} {t' : Versions Uuid ConfigPublication}

theorem PublishEffect.table (h : PublishEffect db tx step phase t') (hrows : Rows db.publications) :
    TableEffect tx.xid db.publications t' := by
  have hsame : TableEffect tx.xid db.publications db.publications :=
    ⟨hrows, .refl, .of_eq rfl⟩
  cases h with
  | found plan hphase hselect => exact hsame
  | moved phase hplan hbefore hafter => exact hsame
  | deactivated plan k rest t hphase htouch =>
      obtain ⟨hfree, ⟨rfl, -⟩ | ⟨r, hr, -, rfl⟩⟩ := Versions.touch_cases htouch
      · exact hsame
      · exact .update hrows hfree hr PublishService.deactivated fun _ => ⟨rfl, rfl⟩
  | inserted version row hphase hfree hnew =>
      have hcommitted : ∀ r₀, db.publications.committed row.id = some r₀ → False := by
        intro r₀ hr₀
        unfold Versions.visible at hnew
        unfold Versions.free at hfree
        split at hnew
        next y r hp =>
          simp only [hp, Option.all_some, decide_eq_true_eq] at hfree
          rw [if_pos hfree] at hnew
          cases hnew
        next =>
          rw [hnew] at hr₀
          cases hr₀
      exact ⟨hrows.write rfl fun r₀ hr₀ => (hcommitted r₀ hr₀).elim,
        Versions.sameOthers_write hfree, .of_eq rfl⟩
  | activated publication version now t hphase htouch =>
      obtain ⟨hfree, ⟨rfl, -⟩ | ⟨r, hr, -, rfl⟩⟩ := Versions.touch_cases htouch
      · exact hsame
      · exact .update hrows hfree hr (reactivated now) fun _ => ⟨rfl, rfl⟩
  | committed plan phase session hphase hstep hwrites hended =>
      exact ⟨hrows.ended (fun _ => rfl) (Or.inl rfl), Versions.sameOthers_commit,
        persist_commit hrows _⟩
  | aborted phase hended =>
      exact ⟨hrows.ended (fun _ => rfl) (Or.inr rfl), Versions.sameOthers_abort, .of_eq rfl⟩

/-- The `UPDATE` of one row by the transaction itself. -/
theorem TxInv.write {t : Versions Uuid ConfigPublication} {k : Uuid} {r : ConfigPublication}
    {plan : PublishPlan} (h : TxInv t tx) (hbefore : tx.phase.isWritten = false)
    (hplan : tx.phase.plan = some plan) (hafter : phase.plan = some plan)
    (htenant : r.tenantId = plan.tenantId)
    (hactive : if phase.isWritten then k = plan.target ∧ r.isActive = true
      else r.isActive = false) :
    TxInv (t.write tx.xid k r) { tx with phase := phase } where
  active := by
    intro version row hpublish
    exact h.active version row (by rw [hplan, ← hafter, hpublish])
  own := by
    intro k' r' hr'
    refine ⟨plan, hafter, ?_⟩
    by_cases hk : k' = k
    · subst hk
      rw [Versions.pending_write_self, Option.some.injEq, Prod.mk.injEq] at hr'
      rw [← hr'.2]
      refine ⟨htenant, fun hr => ?_⟩
      split at hactive
      next hwritten => exact ⟨hwritten, hactive.1⟩
      next =>
        rw [hactive] at hr
        cases hr
    · rw [Versions.pending_write_of_ne hk] at hr'
      obtain ⟨plan', hplan', htenant', hactive'⟩ := h.own k' r' hr'
      rw [hplan, Option.some.injEq] at hplan'
      subst hplan'
      refine ⟨htenant', fun hr => ?_⟩
      have hwritten := (hactive' hr).1
      rw [hbefore] at hwritten
      cases hwritten
  target := by
    intro publication version now hrollback
    exact h.target publication version now (by rw [hplan, ← hafter, hrollback])
  activated := by
    intro plan' hphase
    subst hphase
    cases hafter
    rw [PublishPhase.isWritten, if_pos rfl] at hactive
    obtain ⟨rfl, hr⟩ := hactive
    exact ⟨r, Versions.pending_write_self, htenant, hr⟩

/-- Where the transaction does not write, it only goes on. -/
theorem TxInv.moved {t : Versions Uuid ConfigPublication} (h : TxInv t tx)
    (hplan : phase.plan = tx.phase.plan) (hbefore : tx.phase.isWritten = false)
    (hafter : phase.isWritten = false) : TxInv t { tx with phase := phase } where
  active := by
    intro version row hpublish
    exact h.active version row (hplan ▸ hpublish)
  own := by
    intro k r hr
    obtain ⟨plan, hplan', htenant, hactive⟩ := h.own k r hr
    refine ⟨plan, hplan.trans hplan', htenant, fun hr => ?_⟩
    have hwritten := (hactive hr).1
    rw [hbefore] at hwritten
    cases hwritten
  target := by
    intro publication version now hrollback
    exact h.target publication version now (hplan ▸ hrollback)
  activated := by
    intro plan hphase
    rw [show phase = _ from hphase] at hafter
    cases hafter

/-- A transaction that has ended has nothing left to keep. -/
theorem TxInv.ended {t : Versions Uuid ConfigPublication} (hended : phase.plan = none)
    (hpending : ∀ k r, t.pending k ≠ some (tx.xid, r)) : TxInv t { tx with phase := phase } where
  active := by
    intro version row hpublish
    rw [show phase.plan = _ from hpublish] at hended
    cases hended
  own := fun k r hr => absurd hr (hpending k r)
  target := by
    intro publication version now hrollback
    rw [show phase.plan = _ from hrollback] at hended
    cases hended
  activated := by
    intro plan hphase
    rw [show phase = _ from hphase] at hended
    cases hended

/-- The row that a publication is going to insert is active. -/
theorem select_active {version : AgentConfigVersion} {row : ConfigPublication}
    (h : select tx db = .ok (.publish version row)) : row.isActive = true := by
  unfold select at h
  split at h
  · cases h
  · split at h
    · split at h
      · cases h
      · split at h
        · cases h
        · split at h
          · cases h
          · cases h
            rfl
    · split at h
      · cases h
      · split at h
        · cases h
        · split at h <;> cases h

/-- The row that a rollback finds is committed, and of the tenant. -/
theorem select_target {publication : ConfigPublication} {version : AgentConfigVersion} {now : Nat}
    (hrows : Rows db.publications) (hown : ∀ k r, db.publications.pending k ≠ some (tx.xid, r))
    (h : select tx db = .ok (.rollback publication version now)) :
    db.publications.committed publication.id = some publication := by
  have hvisible : ∃ id, db.publications.visible tx.xid id = some publication := by
    unfold select at h
    split at h
    · cases h
    · split at h
      · split at h
        · cases h
        · split at h
          · cases h
          · split at h <;> cases h
      · split at h
        · cases h
        · split at h
          · cases h
          next hfound =>
            split at h
            · cases h
            · cases h
              exact ⟨_, (Option.filter_eq_some_iff.1 hfound).1⟩
  obtain ⟨id, hid⟩ := hvisible
  rcases Versions.visible_cases hid with hpending | hcommitted
  · exact absurd hpending (hown id publication)
  · rw [hrows.committed_id id publication hcommitted]
    exact hcommitted

/-- A committed row is visible, or the transaction has written over it. -/
theorem exists_visible {t : Versions Uuid ConfigPublication} {x : Nat} {k : Uuid}
    {r : ConfigPublication} (hrows : Rows t) (h : t.committed k = some r) :
    ∃ r', t.visible x k = some r' ∧ r'.tenantId = r.tenantId := persist_commit hrows x k r h

/-- What the acting transaction has written keeps its shape. -/
theorem PublishEffect.keeps (h : PublishEffect db tx step phase t') (hrows : Rows db.publications)
    (hinv : TxInv db.publications tx) : TxInv t' { tx with phase := phase } := by
  cases h with
  | found plan hphase hselect =>
      have hown : ∀ k r, db.publications.pending k ≠ some (tx.xid, r) := by
        intro k r hr
        obtain ⟨plan', hplan', -⟩ := hinv.own k r hr
        rw [hphase] at hplan'
        cases hplan'
      refine ⟨?_, fun k r hr => absurd hr (hown k r), ?_, by simp⟩
      · intro version row hpublish
        simp only [PublishPhase.plan, Option.some.injEq] at hpublish
        subst hpublish
        exact select_active hselect
      · intro publication version now hrollback
        simp only [PublishPhase.plan, Option.some.injEq] at hrollback
        subst hrollback
        exact ⟨publication, select_target hrows hown hselect, rfl⟩
  | moved phase hplan hbefore hafter => exact hinv.moved hplan hbefore hafter
  | deactivated plan k rest t hphase htouch =>
      have hplan : tx.phase.plan = some plan := by rw [hphase]; rfl
      have hbefore : tx.phase.isWritten = false := by rw [hphase]; rfl
      obtain ⟨-, ⟨rfl, -⟩ | ⟨r, hr, hp, rfl⟩⟩ := Versions.touch_cases htouch
      · exact hinv.moved (by rw [hplan]; rfl) hbefore rfl
      · refine hinv.write hbefore hplan rfl ?_ rfl
        cases plan with
        | publish version row =>
            simp only [PublishPlan.deactivates, Bool.and_eq_true, decide_eq_true_eq] at hp
            exact hp.1
        | rollback publication version now =>
            simp only [PublishPlan.deactivates, decide_eq_true_eq] at hp
            exact hp
  | inserted version row hphase hfree hnew =>
      have hplan : tx.phase.plan = some (.publish version row) := by rw [hphase]; rfl
      have hbefore : tx.phase.isWritten = false := by rw [hphase]; rfl
      exact hinv.write hbefore hplan rfl rfl ⟨rfl, hinv.active version row hplan⟩
  | activated publication version now t hphase htouch =>
      have hplan : tx.phase.plan = some (.rollback publication version now) := by
        rw [hphase]
        rfl
      have hbefore : tx.phase.isWritten = false := by rw [hphase]; rfl
      obtain ⟨r₀, hr₀, htenant₀⟩ := hinv.target publication version now hplan
      obtain ⟨r₁, hr₁, htenant₁⟩ := exists_visible (x := tx.xid) hrows hr₀
      obtain ⟨-, ⟨rfl, hnone⟩ | ⟨r, hr, -, rfl⟩⟩ := Versions.touch_cases htouch
      · cases hnone r₁ hr₁
      · rw [hr, Option.some.injEq] at hr₁
        subst hr₁
        exact hinv.write hbefore hplan rfl (htenant₁.trans htenant₀) ⟨rfl, rfl⟩
  | committed plan phase session hphase hstep hwrites hended =>
      exact .ended hended fun k r => Versions.pending_ended_ne fun _ => rfl
  | aborted phase hended =>
      exact .ended hended fun k r => Versions.pending_ended_ne fun _ => rfl

/-! ## Runs -/

variable {c c' : PublishConfig} {m : PublishMove}

theorem consistent_initially : Consistent initially where
  xids := List.nodup_nil
  xid_lt := by simp [initially]
  owner_lt := by simp [initially, Versions.empty]
  rows := ⟨by simp [initially, Versions.empty], by simp [initially, Versions.empty],
    by simp [initially, Versions.empty]⟩
  party := by simp [initially]

/-- The writes after an effect are those of the transaction or were there before. -/
theorem PublishEffect.pending (h : PublishEffect db tx step phase t') {k : Uuid} {x : Nat}
    {r : ConfigPublication} (hr : t'.pending k = some (x, r)) :
    x = tx.xid ∨ db.publications.pending k = some (x, r) := by
  by_cases hx : x = tx.xid
  · exact Or.inl hx
  · right
    cases h with
    | found plan hphase hselect => exact hr
    | moved phase hplan hbefore hafter => exact hr
    | deactivated plan k rest t hphase htouch =>
        obtain ⟨hfree, ⟨rfl, -⟩ | ⟨r', -, -, rfl⟩⟩ := Versions.touch_cases htouch
        · exact hr
        · exact (Versions.sameOthers_write hfree x _ r hx).1 hr
    | inserted version row hphase hfree hnew =>
        exact (Versions.sameOthers_write hfree x _ r hx).1 hr
    | activated publication version now t hphase htouch =>
        obtain ⟨hfree, ⟨rfl, -⟩ | ⟨r', -, -, rfl⟩⟩ := Versions.touch_cases htouch
        · exact hr
        · exact (Versions.sameOthers_write hfree x _ r hx).1 hr
    | committed plan phase session hphase hstep hwrites hended =>
        exact (Versions.sameOthers_commit x k r hx).1 hr
    | aborted phase hended => exact (Versions.sameOthers_abort x k r hx).1 hr

theorem consistent_act {i : Nat} (h : Consistent c) (hi : c.parties[i]? = some tx)
    (hact : act c.shared tx step = some (tx', db')) : Consistent ⟨db', c.parties.set i tx'⟩ := by
  obtain ⟨heffect, htx', hnext⟩ := act_effect hact
  have hmem : tx ∈ c.parties := List.mem_of_getElem? hi
  have hxid : tx'.xid = tx.xid := by rw [htx']
  have hxids : (c.parties.set i tx').map PublishTransaction.xid =
      c.parties.map PublishTransaction.xid := by
    have hget : (c.parties.map PublishTransaction.xid)[i]? = some tx.xid := by
      rw [List.getElem?_map, hi]
      rfl
    obtain ⟨hlt, hself⟩ := List.getElem?_eq_some_iff.1 hget
    rw [List.map_set, hxid, ← hself, List.set_getElem_self]
  have htable := heffect.table h.rows
  have hlt : i < c.parties.length := (List.getElem?_eq_some_iff.1 hi).1
  refine ⟨?_, ?_, ?_, htable.rows, ?_⟩
  · change ((c.parties.set i tx').map PublishTransaction.xid).Nodup
    rw [hxids]
    exact h.xids
  · intro tx₁ htx₁
    have hold : tx₁.xid ∈ c.parties.map PublishTransaction.xid := by
      rw [← hxids]
      exact List.mem_map_of_mem htx₁
    obtain ⟨tx₂, htx₂, hsame⟩ := List.mem_map.1 hold
    change tx₁.xid < db'.nextXid
    rw [hnext, ← hsame]
    exact h.xid_lt tx₂ htx₂
  · intro k x r hr
    change x < db'.nextXid
    rw [hnext]
    rcases heffect.pending hr with rfl | hold
    · exact h.xid_lt tx hmem
    · exact h.owner_lt k x r hold
  · intro tx₁ htx₁
    obtain ⟨j, hj⟩ := List.mem_iff_getElem?.1 htx₁
    by_cases hij : i = j
    · subst hij
      change (c.parties.set i tx')[i]? = some tx₁ at hj
      rw [List.getElem?_set_self hlt, Option.some.injEq] at hj
      subst hj
      rw [htx']
      exact heffect.keeps h.rows (h.party tx hmem)
    · change (c.parties.set i tx')[j]? = some tx₁ at hj
      rw [List.getElem?_set_ne hij] at hj
      have hne : tx₁.xid ≠ tx.xid := by
        intro hsame
        -- two positions with one number
        have hi' : (c.parties.map PublishTransaction.xid)[i]? = some tx.xid := by
          rw [List.getElem?_map, hi]
          rfl
        have hj' : (c.parties.map PublishTransaction.xid)[j]? = some tx.xid := by
          rw [List.getElem?_map, hj, ← hsame]
          rfl
        have hlen : i < (c.parties.map PublishTransaction.xid).length := by
          rw [List.length_map]
          exact hlt
        exact hij ((List.getElem?_inj hlen h.xids).1 (hi'.trans hj'.symm))
      exact (h.party tx₁ (List.mem_of_getElem? hj)).of_other hne htable.others htable.persist

theorem consistent_environment {e : PublishEvent} {txs : List PublishTransaction}
    (h : Consistent c) (henv : environment c.shared e = some (txs, db')) :
    Consistent ⟨db', c.parties ++ txs⟩ ∧ db'.publications = c.shared.publications := by
  cases e with
  | call tenantId call =>
      cases henv
      refine ⟨⟨?_, ?_, ?_, h.rows, ?_⟩, rfl⟩
      · change ((c.parties ++ [_]).map PublishTransaction.xid).Nodup
        rw [List.map_append, List.nodup_append]
        refine ⟨h.xids, List.nodup_singleton _, ?_⟩
        intro x hx y hy
        obtain ⟨tx₁, htx₁, rfl⟩ := List.mem_map.1 hx
        rw [List.map_singleton, List.mem_singleton] at hy
        rw [hy]
        exact Nat.ne_of_lt (h.xid_lt tx₁ htx₁)
      · intro tx₁ htx₁
        change tx₁.xid < c.shared.nextXid + 1
        rcases List.mem_append.1 htx₁ with hold | hnew
        · exact Nat.lt_succ_of_lt (h.xid_lt tx₁ hold)
        · rw [List.mem_singleton.1 hnew]
          exact Nat.lt_succ_self _
      · intro k x r hr
        exact Nat.lt_succ_of_lt (h.owner_lt k x r hr)
      · intro tx₁ htx₁
        rcases List.mem_append.1 htx₁ with hold | hnew
        · exact h.party tx₁ hold
        · rw [List.mem_singleton.1 hnew]
          refine ⟨by simp [PublishPhase.plan], ?_, by simp [PublishPhase.plan], by simp⟩
          intro k r hr
          exact absurd (h.owner_lt k _ r hr) (Nat.lt_irrefl _)
  | createDraft version =>
      simp only [environment] at henv
      split at henv
      · cases henv
      · cases henv
        refine ⟨⟨by simpa using h.xids, ?_, ?_, h.rows, ?_⟩, rfl⟩
        · intro tx₁ htx₁
          change tx₁.xid < c.shared.nextXid + 1
          rw [List.append_nil] at htx₁
          exact Nat.lt_succ_of_lt (h.xid_lt tx₁ htx₁)
        · intro k x r hr
          exact Nat.lt_succ_of_lt (h.owner_lt k x r hr)
        · intro tx₁ htx₁
          rw [List.append_nil] at htx₁
          exact h.party tx₁ htx₁

theorem consistent_step (h : Consistent c) (hstep : services.machine.step c m = some c') :
    Consistent c' := by
  cases m with
  | party i a =>
      obtain ⟨tx, tx', db', hi, hact, rfl⟩ := Interleaving.step_party hstep
      exact consistent_act h hi hact
  | environment e =>
      obtain ⟨txs, db', henv, rfl⟩ := Interleaving.step_environment hstep
      exact (consistent_environment h henv).1

end PublishService

end Iara.ConfigPublishing
