import Iara.ConfigPublishing.Modes

/-!
# The database mode

A service whose sessions all commit keeps its book in the rows of its tenant.
-/

namespace Iara.ConfigPublishing

open Iara.Lib Iara.Persistence PublishService

variable {canonical : Parameters → Parameters} {tenant : Uuid}

/-- The row says what the draft does. -/
structure VersionHolds (canonical : Parameters → Parameters) (tenant : Uuid)
    (v : AgentConfigVersion) (d : DraftEntry) : Prop where
  own : v.tenantId = tenant
  versionTag : v.versionTag = d.versionTag
  configHash : v.configHash = d.configHash
  isEmpty : (v.configData.getD []).isEmpty = d.configData.isEmpty
  same : canonical (v.configData.getD []) = canonical d.configData

/-- `Fresh` are the UUIDs that no row had in the beginning. -/
structure DatabaseHolds (canonical : Parameters → Parameters) (tenant : Uuid) (Fresh : Uuid → Prop)
    (db : ConfigDb) (book : Book) : Prop where
  registered : tenant ∈ db.tenants
  drafts : ∀ id d, (id, Entry.draft d) ∈ book.ids →
    ∃ v, db.versions.find id = some v ∧ VersionHolds canonical tenant v d
  draftsKnown : ∀ v ∈ db.versions.rows, v.tenantId = tenant →
    ∃ d, (v.id, Entry.draft d) ∈ book.ids ∧ d.versionTag = v.versionTag
  publications : ∀ id d, (id, Entry.publication d) ∈ book.ids →
    ∃ p v, db.publications.find id = some p ∧ p.tenantId = tenant ∧
      db.versions.find p.configVersionId = some v ∧ VersionHolds canonical tenant v d
  known : ∀ p ∈ db.publications.rows, p.tenantId = tenant →
    ∃ d, (p.id, Entry.publication d) ∈ book.ids
  active : ∀ p ∈ db.publications.rows, p.tenantId = tenant →
    (p.isActive = true ↔ book.active.map Prod.fst = some p.id)
  versionKeys : ∀ k, Fresh k → db.versions.hasKey k = true → k ∈ book.ids.map Prod.fst
  publicationKeys : ∀ k, Fresh k → db.publications.hasKey k = true → k ∈ book.ids.map Prod.fst

/-! ## Rows that are updated -/

/-- What a version says, whatever its status. -/
def AgentConfigVersion.said (v : AgentConfigVersion) :
    Uuid × String × String × Option Parameters :=
  (v.tenantId, v.versionTag, v.configHash, v.configData)

theorem VersionHolds.of_said {v v' : AgentConfigVersion} {d : DraftEntry}
    (h : VersionHolds canonical tenant v d) (hsaid : v'.said = v.said) :
    VersionHolds canonical tenant v' d := by
  simp only [AgentConfigVersion.said, Prod.mk.injEq] at hsaid
  obtain ⟨htenant, htag, hhash, hconfig⟩ := hsaid
  refine ⟨htenant.trans h.own, htag.trans h.versionTag, hhash.trans h.configHash, ?_, ?_⟩
  · rw [hconfig]
    exact h.isEmpty
  · rw [hconfig]
    exact h.same

/-- The versions are the same but for their status. -/
structure SameVersions (before after : Table AgentConfigVersion Uuid AgentConfigVersion.id) :
    Prop where
  find : ∀ {k v}, before.find k = some v → ∃ v', after.find k = some v' ∧ v'.said = v.said
  mem : ∀ v' ∈ after.rows, ∃ v ∈ before.rows, v'.id = v.id ∧ v'.said = v.said
  hasKey : ∀ k, after.hasKey k = before.hasKey k

theorem SameVersions.refl (t : Table AgentConfigVersion Uuid AgentConfigVersion.id) :
    SameVersions t t where
  find hv := ⟨_, hv, rfl⟩
  mem v hv := ⟨v, hv, rfl, rfl⟩
  hasKey _ := rfl

theorem SameVersions.update {t : Table AgentConfigVersion Uuid AgentConfigVersion.id}
    {q : AgentConfigVersion → Bool} {f : AgentConfigVersion → AgentConfigVersion}
    {hf : ∀ v, (f v).id = v.id} (hsaid : ∀ v, (f v).said = v.said) :
    SameVersions t (t.update q f hf) where
  find := by
    intro k v hv
    refine ⟨_, by rw [Table.find_update, hv, Option.map_some], ?_⟩
    split
    · exact hsaid v
    · rfl
  mem := by
    intro v' hv'
    obtain ⟨v, hv, rfl⟩ := Table.mem_update.1 hv'
    refine ⟨v, hv, ?_, ?_⟩
    · split
      · exact hf v
      · rfl
    · split
      · exact hsaid v
      · rfl
  hasKey _ := Table.hasKey_update

/-- The publications are the same but for their flags. -/
structure SameRows (before after : Table ConfigPublication Uuid ConfigPublication.id) : Prop where
  find : ∀ {k p}, before.find k = some p →
    ∃ p', after.find k = some p' ∧ p'.tenantId = p.tenantId ∧
      p'.configVersionId = p.configVersionId
  mem : ∀ p' ∈ after.rows, ∃ p ∈ before.rows, p'.id = p.id ∧ p'.tenantId = p.tenantId
  hasKey : ∀ k, after.hasKey k = before.hasKey k

theorem SameRows.update {t : Table ConfigPublication Uuid ConfigPublication.id}
    {q : ConfigPublication → Bool} (f : ConfigPublication → ConfigPublication)
    (hf : ∀ p, (f p).id = p.id) (htenant : ∀ p, (f p).tenantId = p.tenantId)
    (hversion : ∀ p, (f p).configVersionId = p.configVersionId) : SameRows t (t.update q f hf) where
  find := by
    intro k p hp
    refine ⟨_, by rw [Table.find_update, hp, Option.map_some], ?_, ?_⟩
    · split
      · exact htenant p
      · rfl
    · split
      · exact hversion p
      · rfl
  mem := by
    intro p' hp'
    obtain ⟨p, hp, rfl⟩ := Table.mem_update.1 hp'
    refine ⟨p, hp, ?_, ?_⟩
    · split
      · exact hf p
      · rfl
    · split
      · exact htenant p
      · rfl
  hasKey _ := Table.hasKey_update

theorem SameRows.trans {s t u : Table ConfigPublication Uuid ConfigPublication.id}
    (h : SameRows s t) (h' : SameRows t u) : SameRows s u where
  find hp := by
    obtain ⟨p', hp', htenant, hversion⟩ := h.find hp
    obtain ⟨p'', hp'', htenant', hversion'⟩ := h'.find hp'
    exact ⟨p'', hp'', htenant'.trans htenant, hversion'.trans hversion⟩
  mem p'' hp'' := by
    obtain ⟨p', hp', hid', htenant'⟩ := h'.mem p'' hp''
    obtain ⟨p, hp, hid, htenant⟩ := h.mem p' hp'
    exact ⟨p, hp, hid'.trans hid, htenant'.trans htenant⟩
  hasKey k := (h'.hasKey k).trans (h.hasKey k)

namespace DatabaseHolds

variable {Fresh : Uuid → Prop} {db : ConfigDb} {book : Book} {service : PublishService}

/-! ## `create_draft` -/

theorem insertable (h : DatabaseHolds canonical tenant Fresh db book)
    (hparsed : parseUuid service.tenantId = some tenant) {r : DraftRequest} {tag : String}
    (htag : PublishService.tag r = tag) (hfresh : Fresh r.draftId)
    (hnew : r.draftId ∉ book.ids.map Prod.fst) (hfits : varchar 64 tag = some tag)
    (hfree : tag ∉ book.tags) {stored : Parameters}
    (htaken : service.jsonb.take r.configData = some stored) :
    Insertable service db r tenant tag stored where
  parsed := hparsed
  registered := h.registered
  tagTakes := by rw [htag]; exact hfits
  taken := htaken
  newId := by
    by_contra hkey
    exact hnew (h.versionKeys _ hfresh (by simpa using hkey))
  tagFree := by
    rw [tagTaken, List.any_eq_false]
    intro v hv hboth
    rw [Bool.and_eq_true, decide_eq_true_eq, decide_eq_true_eq] at hboth
    obtain ⟨d, hmem, hd⟩ := h.draftsKnown v hv hboth.1
    exact hfree (by rw [← hboth.2, ← hd]; exact Book.mem_tags hmem)

theorem draftRows (h : DatabaseHolds canonical tenant Fresh db book) {r : DraftRequest}
    {storedTag : String} {stored : Parameters} {d : DraftEntry}
    (hkey : db.versions.hasKey r.draftId = false)
    (hd : VersionHolds canonical tenant (service.version tenant r storedTag stored) d) :
    DatabaseHolds canonical tenant Fresh (service.draftRows tenant r storedTag stored db)
      (book.addDraft r.draftId d) := by
  have hfind : ∀ k, (service.draftRows tenant r storedTag stored db).versions.find k =
      (db.versions.find k).or
        (if r.draftId = k then some (service.version tenant r storedTag stored) else none) :=
    fun k => Table.find_insertOrIgnore
  have hnone : db.versions.find r.draftId = none := by
    rwa [Table.hasKey_eq_isSome_find, Option.isSome_eq_false_iff, Option.isNone_iff_eq_none]
      at hkey
  constructor
  · exact h.registered
  · intro k e hmem
    rcases List.mem_append.1 hmem with hold | hlast
    · obtain ⟨v, hv, hholds⟩ := h.drafts k e hold
      exact ⟨v, by rw [hfind, hv, Option.some_or], hholds⟩
    · cases List.mem_singleton.1 hlast
      exact ⟨_, by rw [hfind, hnone, Option.none_or, if_pos rfl], hd⟩
  · intro v hv hown
    rcases Table.mem_insertOrIgnore hv with hold | ⟨rfl, -⟩
    · obtain ⟨e, hmem, he⟩ := h.draftsKnown v hold hown
      exact ⟨e, List.mem_append_left _ hmem, he⟩
    · exact ⟨d, List.mem_append_right _ List.mem_cons_self, hd.versionTag.symm⟩
  · intro k e hmem
    rcases List.mem_append.1 hmem with hold | hlast
    · obtain ⟨p, v, hp, hown, hv, hholds⟩ := h.publications k e hold
      exact ⟨p, v, hp, hown, by rw [hfind, hv, Option.some_or], hholds⟩
    · cases List.mem_singleton.1 hlast
  · intro p hp hown
    obtain ⟨e, hmem⟩ := h.known p hp hown
    exact ⟨e, List.mem_append_left _ hmem⟩
  · exact h.active
  · intro k hk hhas
    rw [Table.hasKey_eq_isSome_find, hfind, Option.isSome_or, Bool.or_eq_true] at hhas
    rw [Book.addDraft, List.map_append, List.mem_append]
    rcases hhas with hold | hlast
    · exact .inl (h.versionKeys k hk (by rw [Table.hasKey_eq_isSome_find]; exact hold))
    · right
      by_cases hid : r.draftId = k
      · rw [← hid]
        exact List.mem_cons_self
      · rw [if_neg hid] at hlast
        cases hlast
  · intro k hk hhas
    rw [Book.addDraft, List.map_append]
    exact List.mem_append_left _ (h.publicationKeys k hk hhas)

/-! ## `publish` -/

theorem publishableVersion (h : DatabaseHolds canonical tenant Fresh db book) {id : Uuid}
    {d : DraftEntry} (hmem : (id, Entry.draft d) ∈ book.ids)
    (hnonempty : d.configData.isEmpty = false) :
    ∃ v, PublishableVersion db tenant id v ∧ VersionHolds canonical tenant v d := by
  obtain ⟨v, hv, hholds⟩ := h.drafts id d hmem
  exact ⟨v, ⟨hv, hholds.own, hholds.isEmpty.trans hnonempty⟩, hholds⟩

/-- Other flags, for a book with the same entries. -/
theorem flags (h : DatabaseHolds canonical tenant Fresh db book) {db' : ConfigDb} {book' : Book}
    (htenants : db'.tenants = db.tenants) (hversions : SameVersions db.versions db'.versions)
    (hpublications : SameRows db.publications db'.publications) (hids : book'.ids = book.ids)
    (hactive : ∀ p ∈ db'.publications.rows, p.tenantId = tenant →
      (p.isActive = true ↔ book'.active.map Prod.fst = some p.id)) :
    DatabaseHolds canonical tenant Fresh db' book' := by
  constructor
  · rw [htenants]
    exact h.registered
  · intro k e hmem
    obtain ⟨v, hv, hholds⟩ := h.drafts k e (hids ▸ hmem)
    obtain ⟨v', hv', hsaid⟩ := hversions.find hv
    exact ⟨v', hv', hholds.of_said hsaid⟩
  · intro v' hv' hown
    obtain ⟨v, hv, hid, hsaid⟩ := hversions.mem v' hv'
    simp only [AgentConfigVersion.said, Prod.mk.injEq] at hsaid
    obtain ⟨e, hmem, he⟩ := h.draftsKnown v hv (hsaid.1.symm.trans hown)
    refine ⟨e, ?_, he.trans hsaid.2.1.symm⟩
    rw [hids, hid]
    exact hmem
  · intro k e hmem
    obtain ⟨p, v, hp, hown, hv, hholds⟩ := h.publications k e (hids ▸ hmem)
    obtain ⟨p', hp', htenant, hversion⟩ := hpublications.find hp
    obtain ⟨v', hv', hsaid⟩ := hversions.find hv
    refine ⟨p', v', hp', htenant.trans hown, ?_, hholds.of_said hsaid⟩
    rw [hversion]
    exact hv'
  · intro p hp hown
    obtain ⟨q, hq, hid, htenant⟩ := hpublications.mem p hp
    obtain ⟨e, hmem⟩ := h.known q hq (htenant.symm.trans hown)
    refine ⟨e, ?_⟩
    rw [hids, hid]
    exact hmem
  · exact hactive
  · intro k hk hhas
    rw [hversions.hasKey] at hhas
    rw [hids]
    exact h.versionKeys k hk hhas
  · intro k hk hhas
    rw [hpublications.hasKey] at hhas
    rw [hids]
    exact h.publicationKeys k hk hhas

/-- A new active row, where no other is. -/
theorem insertRow (h : DatabaseHolds canonical tenant Fresh db book) (hnone : book.active = none)
    {p : ConfigPublication} {v : AgentConfigVersion} {d : DraftEntry}
    (hkey : db.publications.hasKey p.id = false) (hown : p.tenantId = tenant)
    (hpActive : p.isActive = true) (hv : db.versions.find p.configVersionId = some v)
    (hd : VersionHolds canonical tenant v d) :
    DatabaseHolds canonical tenant Fresh
      { db with publications := db.publications.insertOrIgnore p } (book.publish p.id d) := by
  constructor
  · exact h.registered
  · intro k e hmem
    rcases List.mem_append.1 hmem with hold | hlast
    · exact h.drafts k e hold
    · cases List.mem_singleton.1 hlast
  · intro w hw hwOwn
    obtain ⟨e, hmem, he⟩ := h.draftsKnown w hw hwOwn
    exact ⟨e, List.mem_append_left _ hmem, he⟩
  · intro k e hmem
    rcases List.mem_append.1 hmem with hold | hlast
    · obtain ⟨q, w, hq, hqOwn, hw, hholds⟩ := h.publications k e hold
      refine ⟨q, w, ?_, hqOwn, hw, hholds⟩
      rw [Table.find_insertOrIgnore, hq, Option.some_or]
    · cases List.mem_singleton.1 hlast
      refine ⟨p, v, ?_, hown, hv, hd⟩
      rw [Table.hasKey_eq_isSome_find, Option.isSome_eq_false_iff, Option.isNone_iff_eq_none]
        at hkey
      rw [Table.find_insertOrIgnore, hkey, Option.none_or, if_pos rfl]
  · intro q hq hqOwn
    rcases Table.mem_insertOrIgnore hq with hold | ⟨rfl, -⟩
    · obtain ⟨e, hmem⟩ := h.known q hold hqOwn
      exact ⟨e, List.mem_append_left _ hmem⟩
    · exact ⟨d, List.mem_append_right _ List.mem_cons_self⟩
  · intro q hq hqOwn
    rcases Table.mem_insertOrIgnore hq with hold | ⟨rfl, -⟩
    · have hinactive := h.active q hold hqOwn
      rw [hnone] at hinactive
      refine iff_of_false (fun hqActive => ?_) ?_
      · cases hinactive.1 hqActive
      intro hid
      exact Table.hasKey_eq_false_iff.1 hkey q hold (Option.some.inj hid).symm
    · exact iff_of_true hpActive rfl
  · intro k hk hhas
    rw [Book.publish, List.map_append]
    exact List.mem_append_left _ (h.versionKeys k hk hhas)
  · intro k hk hhas
    rw [Table.hasKey_insertOrIgnore, Bool.or_eq_true, decide_eq_true_eq] at hhas
    rw [Book.publish, List.map_append, List.mem_append]
    rcases hhas with hold | rfl
    · exact .inl (h.publicationKeys k hk hold)
    · exact .inr List.mem_cons_self

theorem publishRows (h : DatabaseHolds canonical tenant Fresh db book) {r : PublishRequest}
    {draft : Uuid} {v : AgentConfigVersion} {d : DraftEntry}
    (hv : db.versions.find draft = some v) (hd : VersionHolds canonical tenant v d)
    (hkey : db.publications.hasKey r.publicationId = false) :
    DatabaseHolds canonical tenant Fresh (publishRows tenant draft r db)
      (book.publish r.publicationId d) := by
  have hversions : SameVersions db.versions (db.versions.update (fun v => v.id = draft)
      (fun v => { v with status := .published }) fun _ => rfl) := .update fun _ => rfl
  have hpublications : SameRows db.publications (db.publications.update
      (fun p => p.tenantId = tenant && p.isActive) deactivated fun _ => rfl) :=
    .update deactivated (fun _ => rfl) (fun _ => rfl) fun _ => rfl
  have hcleared : DatabaseHolds canonical tenant Fresh
      { db with
        versions := db.versions.update (fun v => v.id = draft)
          (fun v => { v with status := .published }) fun _ => rfl
        publications := db.publications.update (fun p => p.tenantId = tenant && p.isActive)
          deactivated fun _ => rfl } ⟨book.ids, none, by simp⟩ := by
    refine h.flags rfl hversions hpublications rfl ?_
    intro p hp hown
    obtain ⟨q, hq, rfl⟩ := List.mem_map.1 hp
    refine iff_of_false ?_ nofun
    have hqOwn : q.tenantId = tenant := by
      revert hown
      split <;> exact id
    cases hactive : q.isActive with
    | true => simp [hqOwn, hactive, deactivated]
    | false => simp [hactive]
  obtain ⟨v', hv', hsaid⟩ := hversions.find hv
  have hinsert := hcleared.insertRow rfl (p := publicationRow tenant draft r)
    ((hpublications.hasKey _).trans hkey) rfl rfl hv' (hd.of_said hsaid)
  exact hinsert

/-! ## `rollback` -/

theorem rollbackRows (h : DatabaseHolds canonical tenant Fresh db book) {id : Uuid}
    {d : DraftEntry} (hmem : (id, Entry.publication d) ∈ book.ids) (now : Nat) :
    DatabaseHolds canonical tenant Fresh (rollbackRows tenant id now db) (book.rollback hmem) := by
  have hcleared : SameRows db.publications (db.publications.update (fun p => p.tenantId = tenant)
      deactivated fun _ => rfl) :=
    .update deactivated (fun _ => rfl) (fun _ => rfl) fun _ => rfl
  have hpublications : SameRows db.publications
      (PublishService.rollbackRows tenant id now db).publications :=
    hcleared.trans (.update (reactivated now) (fun _ => rfl) (fun _ => rfl) fun _ => rfl)
  refine h.flags rfl (.refl _) hpublications rfl ?_
  intro p hp hown
  obtain ⟨q, hq, rfl⟩ := List.mem_map.1 hp
  obtain ⟨q', hq', rfl⟩ := List.mem_map.1 hq
  have hqOwn : q'.tenantId = tenant := by
    revert hown
    split
    · split <;> exact fun hown => hown
    · split <;> exact fun hown => hown
  simp only [hqOwn, decide_true, if_true, Book.rollback, Option.map_some, Option.some.injEq]
  by_cases hid : q'.id = id
  · simp [deactivated, reactivated, hid]
  · have hother : id ≠ q'.id := fun hsame => hid hsame.symm
    simp [deactivated, hid, hother]

/-! ## `get_active_publication` -/

theorem mem_activeRows {row : ConfigPublication × AgentConfigVersion} :
    row ∈ activeRows tenant db ↔ row.1 ∈ db.publications.rows ∧ row.1.tenantId = tenant ∧
      row.1.isActive = true ∧ db.versions.find row.1.configVersionId = some row.2 := by
  rw [activeRows, List.mem_insertionSort, List.mem_filterMap]
  constructor
  · rintro ⟨p, hp, hrow⟩
    obtain ⟨v, hv, rfl⟩ := Option.map_eq_some_iff.1 hrow
    rw [List.mem_filter, Bool.and_eq_true, decide_eq_true_eq] at hp
    exact ⟨hp.1, hp.2.1, hp.2.2, hv⟩
  · rintro ⟨hmem, hown, hactive, hv⟩
    refine ⟨row.1, ?_, by rw [hv]; rfl⟩
    rw [List.mem_filter, Bool.and_eq_true, decide_eq_true_eq]
    exact ⟨hmem, hown, hactive⟩

theorem head?_activeRows (h : DatabaseHolds canonical tenant Fresh db book) :
    ((activeRows tenant db).head?.map activeOfRow).map (activeSeen canonical) =
      book.active.map fun a => Ledger.seen canonical a.2 := by
  cases hactive : book.active with
  | none =>
      have hnone : activeRows tenant db = [] := by
        rw [List.eq_nil_iff_forall_not_mem]
        intro row hrow
        obtain ⟨hmem, hown, hrowActive, -⟩ := mem_activeRows.1 hrow
        have hsome := (h.active _ hmem hown).1 hrowActive
        rw [hactive] at hsome
        cases hsome
      rw [hnone]
      rfl
  | some a =>
      obtain ⟨id, d⟩ := a
      obtain ⟨p, v, hp, hown, hv, hd⟩ := h.publications id d (book.active_mem (id, d) hactive)
      obtain ⟨hmem, hid⟩ := Table.find_eq_some_iff.1 hp
      have hpActive : p.isActive = true := by
        rw [h.active p hmem hown, hactive, hid]
        rfl
      have hrow : (p, v) ∈ activeRows tenant db := mem_activeRows.2 ⟨hmem, hown, hpActive, hv⟩
      cases hhead : (activeRows tenant db).head? with
      | none =>
          rw [List.head?_eq_none_iff] at hhead
          rw [hhead] at hrow
          cases hrow
      | some row =>
          obtain ⟨hmem', hown', hrowActive, hv'⟩ :=
            mem_activeRows.1 (List.mem_of_mem_head? (by rw [hhead]; rfl))
          have hrowId := (h.active _ hmem' hown').1 hrowActive
          rw [hactive, Option.map_some, Option.some.injEq] at hrowId
          have hsame : row.1 = p :=
            db.publications.row_eq_of_key_eq hmem' hmem (hrowId.symm.trans hid.symm)
          rw [hsame, hv, Option.some.injEq] at hv'
          subst hv'
          simp only [Option.map_some, activeOfRow, activeSeen, Ledger.seen, hd.versionTag,
            hd.configHash, hd.same]

end DatabaseHolds

/-! ## The mode -/

variable {service : PublishService} {Fresh : Uuid → Prop}

theorem keepsBooks_database (hparsed : parseUuid service.tenantId = some tenant)
    (canonical : Parameters → Parameters) (Fresh : Uuid → Prop) :
    KeepsBooks service canonical (.session .commits) Fresh fun s book =>
      s.memory.drafts = (fun _ => none) ∧ s.memory.publications = [] ∧
        DatabaseHolds canonical tenant Fresh s.db book where
  createDraft := by
    rintro s book r tag ⟨hdrafts, hpublications, hholds⟩ htag hfresh hnew hvalid
    obtain ⟨stored, htaken, hsame⟩ := hvalid.stored
    have htag' := tag_of_some htag hvalid.nonempty
    have hinsertable := hholds.insertable hparsed htag' hfresh hnew hvalid.fits hvalid.new htaken
    have hcreate : (service.createDraft r (.session .commits) s).2 =
        { s with db := service.draftRows tenant r tag stored s.db } := by
      simp only [createDraft, hinsertable.insertDraft_eq]
      rfl
    rw [hcreate]
    exact ⟨hdrafts, hpublications, hholds.draftRows hinsertable.newId
      ⟨rfl, rfl, rfl, service.jsonb.isEmpty_take htaken, hsame⟩⟩
  publish := by
    rintro s book r id d ⟨hdrafts, hpublications, hholds⟩ hmem hnonempty hid hfresh hnew hfits
    obtain ⟨v, hversion, hd⟩ := hholds.publishableVersion hmem hnonempty
    have hkey : s.db.publications.hasKey r.publicationId = false := by
      by_contra hkey
      exact hnew (hholds.publicationKeys _ hfresh (by simpa using hkey))
    have hdraft : parseUuid r.draftId = some id := by rw [hid, parseUuid_formatUuid]
    have hok := hversion.publishInDb_eq hparsed hdraft hfits hkey
    refine ⟨{ s with db := publishRows tenant id r s.db }, ?_, hdrafts, hpublications,
      hholds.publishRows hversion.found hd hkey⟩
    simp only [publish, hok]
    rfl
  refuse := by
    rintro s book r ⟨hdrafts, hpublications, hholds⟩ hnone
    cases hdraft : parseUuid r.draftId with
    | none =>
        have hother : service.publishInDb r s.db = .error (.other "ValueError") := by
          simp only [publishInDb, hparsed, hdraft]
        have hempty : s.memory.drafts r.draftId = none := by rw [hdrafts]
        exact ⟨_, by
          simp only [publish, hother, Database.close_other, publishInMemory, hempty]
          rfl⟩
    | some draft =>
        have hmissing : ∀ v, ¬ PublishableVersion s.db tenant draft v := by
          intro v hv
          obtain ⟨hrow, hid⟩ := Table.find_eq_some_iff.1 hv.found
          obtain ⟨d, hmem, -⟩ := hholds.draftsKnown v hrow hv.own
          rw [hid] at hmem
          obtain ⟨v', hv', hd⟩ := hholds.drafts draft d hmem
          obtain rfl := Option.some.inj (hv.found.symm.trans hv')
          exact hnone draft d hmem (hd.isEmpty.symm.trans hv.nonempty) hdraft
        obtain ⟨message, herror⟩ := publishInDb_eq_publishError hparsed hdraft hmissing
        exact ⟨message, by simp only [publish, herror]; rfl⟩
  rollback := by
    rintro s book id d now ⟨hdrafts, hpublications, hholds⟩ hmem
    obtain ⟨p, v, hp, hown, hv, -⟩ := hholds.publications id d hmem
    have hok : service.rollbackInDb (formatUuid id) now s.db =
        .ok (rolledBackOfRow (p, v), rollbackRows tenant id now s.db) :=
      rollbackInDb_eq hparsed (parseUuid_formatUuid id) hp hown hv
    refine ⟨rolledBackOfRow (p, v), { s with db := rollbackRows tenant id now s.db }, ?_, hdrafts,
      hpublications, hholds.rollbackRows hmem now⟩
    simp only [rollback, hok]
    rfl
  refuseRollback := by
    rintro s book now text ⟨hdrafts, hpublications, hholds⟩ hnone
    cases hpublication : parseUuid text with
    | none =>
        have hother : service.rollbackInDb text now s.db = .error (.other "ValueError") := by
          simp only [rollbackInDb, hparsed, hpublication]
        have hempty : (s.memory.publications.find? fun p => p.publicationId = text) = none := by
          rw [hpublications, List.find?_nil]
        exact ⟨_, by
          simp only [rollback, hother, Database.close_other, rollbackInMemory, hempty]
          rfl⟩
    | some publication =>
        have hmissing : ((s.db.publications.find publication).filter
            fun p => p.tenantId = tenant) = none := by
          rw [Option.filter_eq_none_iff]
          intro p hp hown
          obtain ⟨hrow, hid⟩ := Table.find_eq_some_iff.1 hp
          obtain ⟨d, hmem⟩ := hholds.known p hrow (of_decide_eq_true hown)
          rw [hid] at hmem
          exact hnone publication d hmem hpublication
        refine ⟨"Publication " ++ service.text.repr text ++ " not found", ?_⟩
        have herror : service.rollbackInDb text now s.db = .error (.publishError
            ("Publication " ++ service.text.repr text ++ " not found")) := by
          simp only [rollbackInDb, hparsed, hpublication, hmissing, Option.bind_none]
        simp only [rollback, herror]
        rfl
  active := by
    rintro s book ⟨-, -, hholds⟩
    have hok : service.activeInDb s.db =
        .ok ((activeRows tenant s.db).head?.map activeOfRow, s.db) := by
      simp only [activeInDb, hparsed]
    simp only [getActivePublication, hok]
    exact hholds.head?_activeRows

end Iara.ConfigPublishing
