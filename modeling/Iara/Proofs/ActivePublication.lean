import Iara.ConfigPublishing.PublishSteps

/-!
# One active publication per tenant

A transaction deactivates the publications that its `UPDATE` selected when it
started, and makes one active.  Whatever became active in between stays active,
as nothing but the row locks keeps two transactions apart.  So a tenant has one
active publication at most as long as every commit holds the lock of the one
that is active then.
-/

namespace Iara.ConfigPublishing

open Iara.Lib Iara.Persistence

namespace PublishService

/-! ## The claim -/

def activeOf (tenantId : Uuid) (r : ConfigPublication) : Bool :=
  decide (r.tenantId = tenantId) && r.isActive

/-- No tenant has two active publications among the committed rows. -/
def OneActive (db : PublishingDb) : Prop :=
  ∀ tenantId, Versions.AtMostOne (activeOf tenantId) db.publications.committed

/-- Every state of the run has one active publication per tenant at most. -/
def OneActiveThroughout (moves : List PublishMove) : Prop :=
  ∀ earlier c, earlier <+: moves → services.machine.run initially earlier = some c →
    OneActive c.shared

/-! ## The condition -/

/-- The transaction holds the lock of the tenant's active publication, if there
is one. -/
def locksActive (db : PublishingDb) (xid : Nat) (tenantId : Uuid) : Bool :=
  db.publications.keys.all fun k =>
    !(db.publications.committed k).any (activeOf tenantId) || db.publications.locks xid k

/-- A transaction that gets to commit has the active publication locked. -/
def commitsUnderLock (c : PublishConfig) : PublishMove → Bool
  | .party i (.commit session) =>
      match c.parties[i]? with
      | some { xid, phase := .written plan, .. } =>
          !session.writes || locksActive c.shared xid plan.tenantId
      | _ => true
  | _ => true

theorem locksActive_iff {db : PublishingDb} {xid : Nat} {tenantId : Uuid} :
    locksActive db xid tenantId = true ↔ ∀ k r, db.publications.committed k = some r →
      activeOf tenantId r = true → db.publications.locks xid k = true := by
  unfold locksActive
  rw [List.all_eq_true]
  constructor
  · intro h k r hr hactive
    have hk := h k (db.publications.mem_keys k (Or.inl (by simp [hr])))
    rw [hr, Option.any_some, hactive, Bool.not_true, Bool.false_or] at hk
    exact hk
  · intro h k _
    cases hr : db.publications.committed k with
    | none => rfl
    | some r =>
        cases hactive : activeOf tenantId r with
        | false => simp [hactive]
        | true => simp [hactive, h k r hr hactive]

/-! ## One step -/

variable {c c' : PublishConfig} {m : PublishMove} {tx tx' : PublishTransaction}
  {db db' : PublishingDb} {step : PublishStep}

theorem oneActive_of_committed_eq (h : OneActive db)
    (hsame : db'.publications.committed = db.publications.committed) : OneActive db' := by
  intro tenantId
  rw [hsame]
  exact h tenantId

/-- The commit of a transaction keeps the tenants' publications apart exactly
where the transaction holds the lock of the active one. -/
theorem oneActive_commit_iff {plan : PublishPlan} (hone : OneActive db)
    (hinv : TxInv db.publications tx) (hphase : tx.phase = .written plan) :
    OneActive (db.commit tx.xid) ↔ locksActive db tx.xid plan.tenantId = true := by
  have hplan : tx.phase.plan = some plan := by rw [hphase]; rfl
  obtain ⟨r₀, hr₀, htenant, hactive⟩ := hinv.activated plan hphase
  -- all its writes are of its tenant, and inactive but for the target
  have hown : ∀ k r, db.publications.pending k = some (tx.xid, r) →
      r.tenantId = plan.tenantId ∧ (r.isActive = true → k = plan.target) := by
    intro k r hr
    obtain ⟨plan', hplan', htenant', hactive'⟩ := hinv.own k r hr
    rw [hplan, Option.some.injEq] at hplan'
    subst hplan'
    exact ⟨htenant', fun h => (hactive' h).2⟩
  have hself : Versions.AtMostOne (activeOf plan.tenantId)
      (db.commit tx.xid).publications.committed ↔
        locksActive db tx.xid plan.tenantId = true := by
    rw [locksActive_iff]
    apply Versions.atMostOne_commit_iff hr₀
    · simp [activeOf, htenant, hactive]
    · intro k r hr hkind
      simp only [activeOf, Bool.and_eq_true] at hkind
      exact (hown k r hr).2 hkind.2
  constructor
  · exact fun h => hself.1 (h plan.tenantId)
  · intro hlocked tenantId
    by_cases hsame : tenantId = plan.tenantId
    · subst hsame
      exact hself.2 hlocked
    · apply (hone tenantId).commit_of_none
      intro k r hr
      simp only [activeOf, (hown k r hr).1, Bool.and_eq_false_imp, decide_eq_true_eq]
      exact fun heq => absurd heq.symm hsame

/-- A step of a transaction that is no commit leaves the committed rows alone. -/
theorem committed_act (hact : act db tx step = some (tx', db'))
    (hcommit : ∀ plan session, tx.phase = .written plan → step = .commit session →
      session.writes = false) :
    db'.publications.committed = db.publications.committed := by
  obtain ⟨heffect, -, -⟩ := act_effect hact
  generalize tx'.phase = phase, db'.publications = t at heffect ⊢
  cases heffect with
  | found plan hphase hselect => rfl
  | moved phase hplan hbefore hafter => rfl
  | deactivated plan k rest t hphase htouch =>
      obtain ⟨-, ⟨rfl, -⟩ | ⟨r, -, -, rfl⟩⟩ := Versions.touch_cases htouch <;> rfl
  | inserted version row hphase hfree hnew => rfl
  | activated publication version now t hphase htouch =>
      obtain ⟨-, ⟨rfl, -⟩ | ⟨r, -, -, rfl⟩⟩ := Versions.touch_cases htouch <;> rfl
  | committed plan phase session hphase hstep hwrites hended =>
      rw [hcommit plan session hphase hstep] at hwrites
      cases hwrites
  | aborted phase hended => rfl

theorem commit_of_writes {plan : PublishPlan} {session : Transaction}
    (hact : act db tx (.commit session) = some (tx', db')) (hphase : tx.phase = .written plan)
    (hwrites : session.writes = true) : db' = db.commit tx.xid := by
  cases session with
  | fails exception => cases hwrites
  | commits =>
      simp only [act, hphase, Option.some.injEq, Prod.mk.injEq] at hact
      exact hact.2.symm
  | commitsThenFails exception =>
      simp only [act, hphase, Option.some.injEq, Prod.mk.injEq] at hact
      exact hact.2.symm

/-- The condition, for the transaction that acts. -/
theorem commitsUnderLock_iff {i : Nat} (hi : c.parties[i]? = some tx) :
    commitsUnderLock c (.party i step) = true ↔
      ∀ plan session, tx.phase = .written plan → step = .commit session →
        session.writes = true → locksActive c.shared tx.xid plan.tenantId = true := by
  obtain ⟨xid, tenantId, call, phase⟩ := tx
  cases step with
  | commit session =>
      simp only [commitsUnderLock, hi]
      cases phase with
      | written plan => cases hwrites : session.writes <;> simp [hwrites]
      | _ => simp
  | _ => simp [commitsUnderLock]

/-- From a state with one active publication per tenant at most, a step leads to
such a state exactly where it meets the condition. -/
theorem oneActive_step_iff (hcons : Consistent c) (hone : OneActive c.shared)
    (hstep : services.machine.step c m = some c') :
    OneActive c'.shared ↔ commitsUnderLock c m = true := by
  cases m with
  | environment e =>
      obtain ⟨txs, db', henv, rfl⟩ := Interleaving.step_environment hstep
      have hsame := (consistent_environment hcons henv).2
      exact iff_of_true (oneActive_of_committed_eq hone (by rw [hsame])) rfl
  | party i step =>
      obtain ⟨tx, tx', db', hi, hact, rfl⟩ := Interleaving.step_party hstep
      have hinv := hcons.party tx (List.mem_of_getElem? hi)
      rw [commitsUnderLock_iff hi]
      by_cases hcommit : ∃ plan session, tx.phase = .written plan ∧ step = .commit session ∧
          session.writes = true
      · obtain ⟨plan, session, hphase, rfl, hwrites⟩ := hcommit
        have hdb : db' = c.shared.commit tx.xid := commit_of_writes hact hphase hwrites
        change OneActive db' ↔ _
        rw [hdb, oneActive_commit_iff hone hinv hphase]
        constructor
        · intro hlocked plan' session' hphase' _ _
          rw [hphase, PublishPhase.written.injEq] at hphase'
          exact hphase' ▸ hlocked
        · exact fun h => h plan session hphase rfl hwrites
      · have hno : ∀ plan session, tx.phase = .written plan → step = .commit session →
            session.writes = false := by
          intro plan session hphase hstep
          by_contra hwrites
          exact hcommit ⟨plan, session, hphase, hstep, by simpa using hwrites⟩
        have hdo : act c.shared tx step = some (tx', db') := hact
        apply iff_of_true
        · exact oneActive_of_committed_eq hone (committed_act hdo hno)
        · intro plan session hphase hstep hwrites
          rw [hno plan session hphase hstep] at hwrites
          cases hwrites

/-! ## The result -/

theorem oneActive_initially : OneActive initially.shared := by
  intro tenantId k k' r r' hr
  cases hr

/-- What a run of steps that meet the condition reaches. -/
theorem oneActive_run {start : PublishConfig} {moves : List PublishMove}
    (hcons : Consistent start) (hone : OneActive start.shared)
    (hall : services.machine.AllSteps (fun c m => commitsUnderLock c m = true) start moves)
    (hrun : services.machine.run start moves = some c) : Consistent c ∧ OneActive c.shared := by
  refine services.machine.invariant_of_allSteps
    (I := fun c => Consistent c ∧ OneActive c.shared) ?_ ⟨hcons, hone⟩ hall hrun
  intro s m t hs hcond hstep
  exact ⟨consistent_step hs.1 hstep, (oneActive_step_iff hs.1 hs.2 hstep).2 hcond⟩

/-- A step that is not enabled meets the condition. -/
theorem commitsUnderLock_of_disabled (h : services.machine.step c m = none) :
    commitsUnderLock c m = true := by
  cases m with
  | environment e => rfl
  | party i step =>
      cases hi : c.parties[i]? with
      | none => cases step <;> simp [commitsUnderLock, hi]
      | some tx =>
          rw [commitsUnderLock_iff hi]
          rintro plan session hphase rfl hwrites
          simp only [Interleaving.machine, services, hi, Option.map_eq_none_iff] at h
          cases session <;> simp [act, hphase] at h

/-- A run that keeps every tenant at one active publication meets the condition
at every step. -/
theorem allSteps_of_oneActive {start : PublishConfig} {moves : List PublishMove}
    (hcons : Consistent start)
    (h : ∀ earlier c, earlier <+: moves → services.machine.run start earlier = some c →
      OneActive c.shared) :
    services.machine.AllSteps (fun c m => commitsUnderLock c m = true) start moves := by
  induction moves generalizing start with
  | nil => exact trivial
  | cons m moves ih =>
      have hstart : OneActive start.shared := h [] start (List.nil_prefix ..) rfl
      refine ⟨?_, ?_⟩
      · cases hstep : services.machine.step start m with
        | none => exact commitsUnderLock_of_disabled hstep
        | some next =>
            rw [← oneActive_step_iff hcons hstart hstep]
            exact h [m] next (List.prefix_cons_inj m |>.2 (List.nil_prefix ..))
              (services.machine.run_cons_eq_some.2 ⟨next, hstep, rfl⟩)
      · intro next hstep
        refine ih (consistent_step hcons hstep) ?_
        intro earlier c hprefix hrun
        refine h (m :: earlier) c (List.prefix_cons_inj m |>.2 hprefix) ?_
        exact services.machine.run_cons_eq_some.2 ⟨next, hstep, hrun⟩

/-- A run keeps every tenant at one active publication exactly where each of its
commits that takes place holds the lock of the publication that is active then. -/
theorem oneActiveThroughout_iff (moves : List PublishMove) :
    OneActiveThroughout moves ↔
      services.machine.AllSteps (fun c m => commitsUnderLock c m = true) initially moves := by
  constructor
  · exact allSteps_of_oneActive consistent_initially
  · rintro hall earlier c ⟨later, rfl⟩ hrun
    exact (oneActive_run consistent_initially oneActive_initially hall.append_left hrun).2

section Example

def draft (id : Uuid) (versionTag : String) : AgentConfigVersion where
  id := id
  tenantId := 1
  versionTag := versionTag
  configHash := versionTag
  configData := some [("mode", .str versionTag)]

/-- Two publications of one tenant whose statements alternate. -/
def twoPublications : List PublishMove :=
  let tenant := "00000000000000000000000000000001"
  [.environment (.createDraft (draft 2 "v1")), .environment (.createDraft (draft 3 "v2")),
    .environment (.call tenant (.publish "00000000000000000000000000000002" "ana" 4 0)),
    .environment (.call tenant (.publish "00000000000000000000000000000003" "bia" 5 0)),
    .party 0 .select, .party 1 .select, .party 0 .deactivate, .party 1 .deactivate,
    .party 0 .flushVersion, .party 1 .flushVersion, .party 0 .insert, .party 1 .insert,
    .party 0 (.commit .commits), .party 1 (.commit .commits)]

/-- Neither transaction sees the row of the other, and both rows end up active. -/
theorem twoPublications_not_oneActive : ¬ OneActiveThroughout twoPublications := by
  intro h
  have hrun : services.machine.run initially twoPublications =
      some ((services.machine.run initially twoPublications).getD initially) :=
    eq_some_getD (by decide +kernel)
  have hone := h twoPublications _ (List.prefix_refl _) hrun 1 4 5
  have hkeys : (4 : Uuid) = 5 :=
    hone { id := 4, tenantId := 1, configVersionId := 2, publishedBy := "ana", publishedAt := 0 }
      { id := 5, tenantId := 1, configVersionId := 3, publishedBy := "bia", publishedAt := 0 }
      (by decide +kernel) (by decide) (by decide +kernel) (by decide)
  exact absurd hkeys (by decide)

/-- One after the other, the same publications meet the condition. -/
example : ((services.machine.trace initially
    [.environment (.createDraft (draft 2 "v1")), .environment (.createDraft (draft 3 "v2")),
      .environment (.call "00000000000000000000000000000001"
        (.publish "00000000000000000000000000000002" "ana" 4 0)),
      .party 0 .select, .party 0 .deactivate, .party 0 .flushVersion, .party 0 .insert,
      .party 0 (.commit .commits),
      .environment (.call "00000000000000000000000000000001"
        (.publish "00000000000000000000000000000003" "bia" 5 0)),
      .party 1 .select, .party 1 .deactivate, .party 1 .lockRow, .party 1 .flushVersion,
      .party 1 .insert, .party 1 (.commit .commits)]).all fun p =>
        commitsUnderLock p.1 p.2) = true := by
  decide +kernel

end Example

end PublishService

end Iara.ConfigPublishing
