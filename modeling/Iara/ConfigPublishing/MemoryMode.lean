import Iara.ConfigPublishing.Modes

/-!
# The in-memory mode

A service without a session factory keeps its book in the dictionaries of its
instance; so does one whose tenant id is no UUID, for which every session raises.
-/

namespace Iara.ConfigPublishing

open Iara.Lib Iara.Persistence

def PublicationEntry.draft (p : PublicationEntry) : DraftEntry where
  configData := p.configData
  versionTag := p.versionTag
  configHash := p.configHash

structure MemoryHolds (memory : Memory) (book : Book) : Prop where
  drafts : ∀ id d, (id, Entry.draft d) ∈ book.ids → memory.drafts (formatUuid id) = some d
  draftsKnown : ∀ text d, memory.drafts text = some d →
    ∃ id, text = formatUuid id ∧ (id, Entry.draft d) ∈ book.ids
  publications : ∀ id d, (id, Entry.publication d) ∈ book.ids →
    ∃ p ∈ memory.publications, p.publicationId = formatUuid id ∧ p.draft = d
  known : ∀ p ∈ memory.publications,
    ∃ id, p.publicationId = formatUuid id ∧ (id, Entry.publication p.draft) ∈ book.ids
  distinct : (memory.publications.map fun p => p.publicationId).Nodup
  active : ∀ p ∈ memory.publications,
    p.isActive = true ↔ (book.active.map fun a => formatUuid a.1) = some p.publicationId

namespace PublishService

theorem mem_deactivateAll {p : PublicationEntry} {ps : List PublicationEntry} :
    p ∈ deactivateAll ps ↔ ∃ q ∈ ps, { q with isActive := false } = p := by
  rw [deactivateAll, List.mem_map]

theorem map_publicationId_deactivateAll (ps : List PublicationEntry) :
    (deactivateAll ps).map (fun p => p.publicationId) = ps.map fun p => p.publicationId := by
  rw [deactivateAll, List.map_map]
  rfl

/-- With distinct ids there is one entry to reactivate. -/
theorem reactivate_eq_map {publicationId : String} {ps : List PublicationEntry}
    (hdistinct : (ps.map fun p => p.publicationId).Nodup) :
    reactivate publicationId ps =
      ps.map fun p =>
        if p.publicationId = publicationId then { p with isActive := true } else p := by
  induction ps with
  | nil => rfl
  | cons p ps ih =>
      rw [List.map_cons, List.nodup_cons] at hdistinct
      rw [reactivate, List.map_cons]
      by_cases hp : p.publicationId = publicationId
      · rw [if_pos hp, if_pos hp]
        congr 1
        have hother : ∀ q ∈ ps, q.publicationId ≠ publicationId := by
          rintro q hq rfl
          exact hdistinct.1 (List.mem_map.2 ⟨q, hq, hp.symm⟩)
        rw [List.map_congr_left fun q hq => if_neg (hother q hq), List.map_id']
      · rw [if_neg hp, if_neg hp, ih hdistinct.2]

end PublishService

open PublishService

namespace MemoryHolds

variable {memory : Memory} {book : Book} {id : Uuid} {d : DraftEntry}

theorem empty : MemoryHolds {} {} where
  drafts := by simp
  draftsKnown := by simp
  publications := by simp
  known := by simp
  distinct := by simp
  active := by simp

theorem addDraft (h : MemoryHolds memory book) (hnew : id ∉ book.ids.map Prod.fst) :
    MemoryHolds { memory with drafts := Function.update memory.drafts (formatUuid id) (some d) }
      (book.addDraft id d) where
  drafts := by
    intro k e hmem
    rcases List.mem_append.1 hmem with hold | hlast
    · have hne : formatUuid k ≠ formatUuid id := by
        intro hsame
        obtain rfl := formatUuid_injective hsame
        exact hnew (List.mem_map.2 ⟨_, hold, rfl⟩)
      simp only
      rw [Function.update_of_ne hne]
      exact h.drafts k e hold
    · cases List.mem_singleton.1 hlast
      exact Function.update_self ..
  draftsKnown := by
    intro text e hfind
    by_cases htext : text = formatUuid id
    · subst htext
      simp only at hfind
      rw [Function.update_self, Option.some.injEq] at hfind
      subst hfind
      exact ⟨id, rfl, List.mem_append_right _ List.mem_cons_self⟩
    · simp only at hfind
      rw [Function.update_of_ne htext] at hfind
      obtain ⟨k, hk, hmem⟩ := h.draftsKnown text e hfind
      exact ⟨k, hk, List.mem_append_left _ hmem⟩
  publications := by
    intro k e hmem
    rcases List.mem_append.1 hmem with hold | hlast
    · exact h.publications k e hold
    · cases List.mem_singleton.1 hlast
  known := by
    intro p hp
    obtain ⟨k, hk, hmem⟩ := h.known p hp
    exact ⟨k, hk, List.mem_append_left _ hmem⟩
  distinct := h.distinct
  active := h.active

theorem publish (h : MemoryHolds memory book) (hnew : id ∉ book.ids.map Prod.fst)
    {p : PublicationEntry} (hid : p.publicationId = formatUuid id) (hdraft : p.draft = d)
    (hactive : p.isActive = true) :
    MemoryHolds { memory with publications := deactivateAll memory.publications ++ [p] }
      (book.publish id d) := by
  have hother : ∀ q ∈ memory.publications, q.publicationId ≠ formatUuid id := by
    intro q hq hsame
    obtain ⟨k, hk, hmem⟩ := h.known q hq
    obtain rfl := formatUuid_injective (hk.symm.trans hsame)
    exact hnew (List.mem_map.2 ⟨_, hmem, rfl⟩)
  constructor
  · intro k e hmem
    rcases List.mem_append.1 hmem with hold | hlast
    · exact h.drafts k e hold
    · cases List.mem_singleton.1 hlast
  · intro text e hfind
    obtain ⟨k, hk, hmem⟩ := h.draftsKnown text e hfind
    exact ⟨k, hk, List.mem_append_left _ hmem⟩
  · intro k e hmem
    rcases List.mem_append.1 hmem with hold | hlast
    · obtain ⟨q, hq, hk, he⟩ := h.publications k e hold
      exact ⟨_, List.mem_append_left _ (mem_deactivateAll.2 ⟨q, hq, rfl⟩), hk, he⟩
    · cases List.mem_singleton.1 hlast
      exact ⟨p, List.mem_append_right _ List.mem_cons_self, hid, hdraft⟩
  · intro q hq
    rcases List.mem_append.1 hq with hold | hlast
    · obtain ⟨q', hq', rfl⟩ := mem_deactivateAll.1 hold
      obtain ⟨k, hk, hmem⟩ := h.known q' hq'
      exact ⟨k, hk, List.mem_append_left _ hmem⟩
    · rw [List.mem_singleton.1 hlast]
      refine ⟨id, hid, List.mem_append_right _ ?_⟩
      rw [hdraft]
      exact List.mem_cons_self
  · rw [List.map_append, map_publicationId_deactivateAll, List.nodup_append]
    refine ⟨h.distinct, by simp, ?_⟩
    intro k hk k' hk'
    obtain ⟨q, hq, rfl⟩ := List.mem_map.1 hk
    rw [List.map_singleton, List.mem_singleton, hid] at hk'
    rw [hk']
    exact hother q hq
  · intro q hq
    rcases List.mem_append.1 hq with hold | hlast
    · obtain ⟨q', hq', rfl⟩ := mem_deactivateAll.1 hold
      refine iff_of_false Bool.false_ne_true ?_
      intro hsame
      exact hother q' hq' (Option.some.inj hsame).symm
    · rw [List.mem_singleton.1 hlast]
      refine iff_of_true hactive ?_
      rw [hid]
      rfl

theorem rollback (h : MemoryHolds memory book) (hmem : (id, Entry.publication d) ∈ book.ids) :
    MemoryHolds
      { memory with
        publications := reactivate (formatUuid id) (deactivateAll memory.publications) }
      (book.rollback hmem) := by
  have hdistinct := h.distinct
  rw [← map_publicationId_deactivateAll] at hdistinct
  rw [reactivate_eq_map hdistinct]
  have hids : ∀ p : PublicationEntry, (if p.publicationId = formatUuid id then
      { p with isActive := true } else p).publicationId = p.publicationId := by
    intro p
    split <;> rfl
  have hdrafts : ∀ p : PublicationEntry, (if p.publicationId = formatUuid id then
      { p with isActive := true } else p).draft = p.draft := by
    intro p
    split <;> rfl
  constructor
  · exact h.drafts
  · exact h.draftsKnown
  · intro k e hk
    obtain ⟨p, hp, hpk, hpe⟩ := h.publications k e hk
    refine ⟨_, List.mem_map.2 ⟨_, mem_deactivateAll.2 ⟨p, hp, rfl⟩, rfl⟩, ?_, ?_⟩
    · rw [hids]
      exact hpk
    · rw [hdrafts]
      exact hpe
  · intro q hq
    obtain ⟨q', hq', rfl⟩ := List.mem_map.1 hq
    obtain ⟨p, hp, rfl⟩ := mem_deactivateAll.1 hq'
    obtain ⟨k, hk, hkmem⟩ := h.known p hp
    refine ⟨k, ?_, ?_⟩
    · rw [hids]
      exact hk
    · rw [hdrafts]
      exact hkmem
  · rw [List.map_map]
    have hsame : ((fun p : PublicationEntry => p.publicationId) ∘ fun p =>
        if p.publicationId = formatUuid id then { p with isActive := true } else p) =
          fun p => p.publicationId := funext hids
    rw [hsame]
    exact hdistinct
  · intro q hq
    obtain ⟨q', hq', rfl⟩ := List.mem_map.1 hq
    obtain ⟨p, hp, rfl⟩ := mem_deactivateAll.1 hq'
    rw [hids]
    simp only [Book.rollback, Option.map_some, Option.some.injEq]
    by_cases hp : p.publicationId = formatUuid id
    · rw [if_pos hp]
      exact iff_of_true rfl hp.symm
    · rw [if_neg hp]
      exact iff_of_false Bool.false_ne_true fun hsame => hp hsame.symm

/-- The active entry, if there is one, is the active one of the book. -/
theorem activeInMemory_eq (h : MemoryHolds memory book) (canonical : Parameters → Parameters) :
    (activeInMemory memory).map (activeSeen canonical) =
      book.active.map fun a => Ledger.seen canonical a.2 := by
  unfold activeInMemory
  cases hactive : book.active with
  | none =>
      have hnone : (memory.publications.reverse.find? fun p => p.isActive) = none := by
        rw [List.find?_eq_none]
        intro p hp hpActive
        have hsome := (h.active p (List.mem_reverse.1 hp)).1 hpActive
        rw [hactive] at hsome
        cases hsome
      rw [hnone]
      rfl
  | some a =>
      obtain ⟨id, d⟩ := a
      obtain ⟨p, hp, hid, hdraft⟩ := h.publications id d (book.active_mem (id, d) hactive)
      have hpActive : p.isActive = true := by
        rw [h.active p hp, hactive, hid]
        rfl
      cases hfind : memory.publications.reverse.find? fun p => p.isActive with
      | none => exact absurd hpActive (List.find?_eq_none.1 hfind p (List.mem_reverse.2 hp))
      | some q =>
          have hq := List.mem_reverse.1 (List.mem_of_find?_eq_some hfind)
          have hqActive : q.isActive = true := by simpa using List.find?_some hfind
          have hqid := (h.active q hq).1 hqActive
          rw [hactive, Option.map_some, Option.some.injEq] at hqid
          obtain rfl := List.inj_on_of_nodup_map h.distinct hp hq (hid.trans hqid)
          rw [Option.map_some, Option.map_some, Option.map_some, ← hdraft]
          rfl

end MemoryHolds

/-! ## The mode -/

variable {service : PublishService} {database : Database}

/-- Every call goes on in memory. -/
def InMemory (service : PublishService) (database : Database) : Prop :=
  database = .absent ∨ parseUuid service.tenantId = none

theorem InMemory.close_insertDraft (h : InMemory service database) (r : DraftRequest)
    (db : ConfigDb) : database.close db (service.insertDraft r db) = (none, db) := by
  rcases h with rfl | hnone
  · rfl
  · rw [insertDraft, hnone]
    exact Database.close_other db _ database

theorem InMemory.close_publishInDb (h : InMemory service database) (r : PublishRequest)
    (db : ConfigDb) : database.close db (service.publishInDb r db) = (none, db) := by
  rcases h with rfl | hnone
  · rfl
  · rw [publishInDb, hnone]
    exact Database.close_other db _ database

theorem InMemory.close_rollbackInDb (h : InMemory service database) (publicationId : String)
    (now : Nat) (db : ConfigDb) :
    database.close db (service.rollbackInDb publicationId now db) = (none, db) := by
  rcases h with rfl | hnone
  · rfl
  · rw [rollbackInDb, hnone]
    exact Database.close_other db _ database

theorem InMemory.close_activeInDb (h : InMemory service database) (db : ConfigDb) :
    database.close db (service.activeInDb db) = (none, db) := by
  rcases h with rfl | hnone
  · rfl
  · rw [activeInDb, hnone]
    exact Database.close_other db _ database

theorem keepsBooks_inMemory (h : InMemory service database)
    (canonical : Parameters → Parameters) (Fresh : Uuid → Prop) :
    KeepsBooks service canonical database Fresh fun s book => MemoryHolds s.memory book where
  createDraft := by
    intro s book r tag hholds htag _ hnew hvalid
    simp only [createDraft, h.close_insertDraft, keepDraft, draftEntry,
      tag_of_some htag hvalid.nonempty]
    exact hholds.addDraft hnew
  publish := by
    intro s book r id d hholds hmem hnonempty hid _ hnew _
    have hdraft := hholds.drafts id d hmem
    rw [← hid] at hdraft
    refine ⟨⟨s.db, ⟨s.memory.drafts,
      deactivateAll s.memory.publications ++ [service.publishEntry r d]⟩⟩, ?_, ?_⟩
    · simp only [publish, h.close_publishInDb, publishInMemory, hdraft, hnonempty]
      rfl
    · exact hholds.publish hnew rfl rfl rfl
  refuse := by
    intro s book r hholds hnone
    simp only [publish, h.close_publishInDb, publishInMemory]
    cases hfind : s.memory.drafts r.draftId with
    | none => exact ⟨_, rfl⟩
    | some d =>
        obtain ⟨id, hid, hmem⟩ := hholds.draftsKnown _ d hfind
        cases hempty : d.configData.isEmpty with
        | true => exact ⟨_, by simp only [hempty, if_true]; rfl⟩
        | false =>
            have hparse := hnone id d hmem hempty
            rw [hid, parseUuid_formatUuid] at hparse
            exact absurd rfl hparse
  rollback := by
    intro s book id d now hholds hmem
    obtain ⟨p, hp, hid, -⟩ := hholds.publications id d hmem
    cases hfind : s.memory.publications.find? fun p => p.publicationId = formatUuid id with
    | none =>
        have hmiss := List.find?_eq_none.1 hfind p hp
        simp [hid] at hmiss
    | some target =>
        refine ⟨rolledBackOfEntry target, ⟨s.db, ⟨s.memory.drafts,
          reactivate (formatUuid id) (deactivateAll s.memory.publications)⟩⟩, ?_,
          hholds.rollback hmem⟩
        simp only [rollback, h.close_rollbackInDb, rollbackInMemory, hfind]
  refuseRollback := by
    intro s book now text hholds hnone
    have hfind : (s.memory.publications.find? fun p => p.publicationId = text) = none := by
      rw [List.find?_eq_none]
      intro p hp hsame
      obtain ⟨id, hid, hmem⟩ := hholds.known p hp
      have hparse := hnone id p.draft hmem
      rw [← of_decide_eq_true hsame, hid, parseUuid_formatUuid] at hparse
      exact hparse rfl
    exact ⟨_, by simp only [rollback, h.close_rollbackInDb, rollbackInMemory, hfind]; rfl⟩
  active := by
    intro s book hholds
    simp only [getActivePublication, h.close_activeInDb]
    exact hholds.activeInMemory_eq canonical

end Iara.ConfigPublishing
