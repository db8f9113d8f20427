import Iara.ConfigPublishing.Ledger

/-!
# Modes that keep the ledger

What the operations of one mode have to do to a book for the mode to answer every
sequence as the ledger does.
-/

namespace Iara.ConfigPublishing

open Iara.Lib Iara.Persistence

/-- The tag is new and fits its column, and the column gives the configuration back. -/
structure DraftValid (service : PublishService) (canonical : Parameters → Parameters)
    (tags : List String) (configData : Parameters) (versionTag : String) : Prop where
  nonempty : versionTag ≠ ""
  fits : varchar 64 versionTag = some versionTag
  new : versionTag ∉ tags
  stored : ∃ stored, service.jsonb.take configData = some stored ∧
    canonical stored = canonical configData

/-- The mode keeps a book in its stores: `Holds` says which, and `Fresh` what is
known of the UUIDs that are drawn. -/
structure KeepsBooks (service : PublishService) (canonical : Parameters → Parameters)
    (database : Database) (Fresh : Uuid → Prop) (Holds : Stores → Book → Prop) : Prop where
  createDraft : ∀ {s book r} {tag : String}, Holds s book → r.versionTag = some tag →
    Fresh r.draftId → r.draftId ∉ book.ids.map Prod.fst →
    DraftValid service canonical book.tags r.configData tag →
    Holds (service.createDraft r database s).2
      (book.addDraft r.draftId ⟨r.configData, tag, service.configHash r.configData⟩)
  publish : ∀ {s book r id d}, Holds s book → (id, Entry.draft d) ∈ book.ids →
    d.configData.isEmpty = false → r.draftId = formatUuid id → Fresh r.publicationId →
    r.publicationId ∉ book.ids.map Prod.fst →
    (varchar 256 (PyStr.slice r.publishedBy 256)).isSome = true →
    ∃ s', service.publish r database s = (.ok (formatUuid r.publicationId), s') ∧
      Holds s' (book.publish r.publicationId d)
  refuse : ∀ {s book r}, Holds s book →
    (∀ id d, (id, Entry.draft d) ∈ book.ids → d.configData.isEmpty = false →
      parseUuid r.draftId ≠ some id) →
    ∃ message, service.publish r database s = (.error message, s)
  rollback : ∀ {s book id d} (now : Nat), Holds s book →
    ∀ h : (id, Entry.publication d) ∈ book.ids, ∃ record s',
      service.rollback (formatUuid id) now database s = (.ok record, s') ∧
        Holds s' (book.rollback h)
  refuseRollback : ∀ {s book now text}, Holds s book →
    (∀ id d, (id, Entry.publication d) ∈ book.ids → parseUuid text ≠ some id) →
    ∃ message, service.rollback text now database s = (.error message, s)
  active : ∀ {s book}, Holds s book →
    (service.getActivePublication database s).map (PublishService.activeSeen canonical) =
      book.active.map fun a => Ledger.seen canonical a.2

/-- The tag of a draft that is created. -/
def ServiceCall.draftTag (c : ServiceCall) : Option String :=
  match c.op with
  | .createDraft _ versionTag => some versionTag
  | _ => none

/-- What is assumed of a call after the ones before it. -/
structure CallValid (service : PublishService) (canonical : Parameters → Parameters)
    (draw : ServiceCall → Draw) (Fresh : Uuid → Prop) (before : List ServiceCall)
    (c : ServiceCall) : Prop where
  fresh : Fresh (draw c).id
  new : (draw c).id ∉ before.map fun c => (draw c).id
  op : match c.op with
    | .createDraft configData versionTag =>
        DraftValid service canonical (before.filterMap ServiceCall.draftTag) configData versionTag
    | .publish draft publishedBy =>
        draft.Valid (before.map fun c => (draw c).id) ∧
          (varchar 256 (PyStr.slice publishedBy 256)).isSome = true
    | .rollback publication => publication.Valid (before.map fun c => (draw c).id)

/-- The calls so far. -/
def calls : Component (List ServiceCall) ServiceCall Unit where
  act before c := ((), before ++ [c])

theorem calls_after (before cs : List ServiceCall) : calls.after before cs = before ++ cs := by
  induction cs generalizing before with
  | nil => rw [Component.after_nil, List.append_nil]
  | cons c cs ih => rw [Component.after_cons, ih, calls, List.append_assoc, List.singleton_append]

variable {service : PublishService} {canonical : Parameters → Parameters} {mode : Mode}
  {Fresh : Uuid → Prop} {Holds : Stores → Book → Prop}

theorem fst_createDraft {r : DraftRequest} {database : Database} {s : Stores} :
    (service.createDraft r database s).1 = formatUuid r.draftId := by
  unfold PublishService.createDraft
  split <;> rfl

/-- The client's stores hold a book of the ledger. -/
def Keeps (Holds : Stores → Book → Prop) (draw : ServiceCall → Draw) (before : List ServiceCall)
    (client : Client) (ledger : Ledger) : Prop :=
  ∃ book : Book, Holds client.stores book ∧
    book.Numbers (before.map fun c => (draw c).id) client.issued ledger ∧
    ∀ tag ∈ book.tags, tag ∈ before.filterMap ServiceCall.draftTag

theorem mem_draftTags {before : List ServiceCall} {tag : String} (c : ServiceCall)
    (h : tag ∈ before.filterMap ServiceCall.draftTag) :
    tag ∈ (before ++ [c]).filterMap ServiceCall.draftTag := by
  rw [List.filterMap_append]
  exact List.mem_append_left _ h

section Step

variable {before : List ServiceCall} {client : Client} {ledger : Ledger} {c : ServiceCall}

theorem KeepsBooks.seen_eq (h : KeepsBooks service canonical mode.database Fresh Holds)
    (hkeeps : Keeps Holds mode.draw before client ledger) :
    (service.getActivePublication mode.database client.stores).map
        (PublishService.activeSeen canonical) = ledger.active.map (Ledger.seen canonical) := by
  obtain ⟨book, hholds, hnumbers, -⟩ := hkeeps
  rw [h.active hholds, hnumbers.active, Option.map_map]
  rfl

/-- A call that hands out nothing has drawn all the same. -/
theorem Keeps.draw (hkeeps : Keeps Holds mode.draw before client ledger) (c : ServiceCall) :
    Keeps Holds mode.draw (before ++ [c]) client ledger := by
  obtain ⟨book, hholds, hnumbers, htags⟩ := hkeeps
  refine ⟨book, hholds, ?_, fun tag htag => mem_draftTags c (htags tag htag)⟩
  rw [List.map_append]
  exact hnumbers.draw _

theorem KeepsBooks.createDraft_eq (h : KeepsBooks service canonical mode.database Fresh Holds)
    {configData : Parameters} {versionTag : String} {memory database : Draw}
    (hkeeps : Keeps Holds mode.draw before client ledger)
    (hvalid : CallValid service canonical mode.draw Fresh before
      ⟨.createDraft configData versionTag, memory, database⟩) :
    Keeps Holds mode.draw (before ++ [⟨.createDraft configData versionTag, memory, database⟩])
      (service.call mode client ⟨.createDraft configData versionTag, memory, database⟩).2
      (ledger.addDraft ⟨configData, versionTag, service.configHash configData⟩) := by
  obtain ⟨book, hholds, hnumbers, htags⟩ := hkeeps
  have hop : DraftValid service canonical (before.filterMap ServiceCall.draftTag) configData
      versionTag := hvalid.op
  have hdraft : DraftValid service canonical book.tags configData versionTag :=
    { hop with new := fun hmem => hop.new (htags _ hmem) }
  refine ⟨_, h.createDraft hholds rfl hvalid.fresh (hnumbers.notMem_ids hvalid.new) hdraft, ?_, ?_⟩
  · rw [List.map_append]
    have hadd := hnumbers.addDraft hvalid.new
      ⟨configData, versionTag, service.configHash configData⟩
    simp only [PublishService.call, fst_createDraft]
    exact hadd
  · intro tag htag
    rw [Book.tags, Book.addDraft, Book.tags_append, List.mem_append] at htag
    rw [List.filterMap_append, List.mem_append]
    exact htag.imp_left (htags tag)

theorem KeepsBooks.publish_eq (h : KeepsBooks service canonical mode.database Fresh Holds)
    {draft : Ref} {publishedBy : String} {memory database : Draw}
    (hkeeps : Keeps Holds mode.draw before client ledger)
    (hvalid : CallValid service canonical mode.draw Fresh before
      ⟨.publish draft publishedBy, memory, database⟩) :
    (service.call mode client ⟨.publish draft publishedBy, memory, database⟩).1 =
        (ledger.act service.configHash (.publish draft publishedBy)).1 ∧
      Keeps Holds mode.draw (before ++ [⟨.publish draft publishedBy, memory, database⟩])
        (service.call mode client ⟨.publish draft publishedBy, memory, database⟩).2
        (ledger.act service.configHash (.publish draft publishedBy)).2 := by
  obtain ⟨book, hholds, hnumbers, htags⟩ := hkeeps
  have hop := hvalid.op
  simp only at hop
  obtain ⟨href, hfits⟩ := hop
  -- the refused cases: whatever the id means, it is no draft that can be published
  have hrefuse : (∀ id d, (id, Entry.draft d) ∈ book.ids → d.configData.isEmpty = false →
        parseUuid (client.resolve draft) ≠ some id) →
      (service.call mode client ⟨.publish draft publishedBy, memory, database⟩) =
        (false, client) := by
    intro hnone
    simp only [PublishService.call]
    obtain ⟨message, hpublish⟩ := h.refuse (r := ⟨client.resolve draft, publishedBy,
      (mode.draw ⟨.publish draft publishedBy, memory, database⟩).id,
      (mode.draw ⟨.publish draft publishedBy, memory, database⟩).now⟩) hholds hnone
    rw [hpublish]
  have hkept : Keeps Holds mode.draw
      (before ++ [⟨.publish draft publishedBy, memory, database⟩]) client ledger :=
    Keeps.draw ⟨book, hholds, hnumbers, htags⟩ _
  simp only [Ledger.act]
  cases hfind : ledger.find draft with
  | none =>
      rw [hrefuse fun id d hmem _ => hnumbers.resolve_of_find_eq_none href hfind _ hmem]
      exact ⟨rfl, hkept⟩
  | some e =>
      obtain ⟨id, hmem, hresolve⟩ := hnumbers.resolve_of_find hfind
      have hparse : parseUuid (client.resolve draft) = some id := by
        rw [hresolve, parseUuid_formatUuid]
      cases e with
      | publication d =>
          rw [hrefuse]
          · exact ⟨rfl, hkept⟩
          · intro id' d' hmem' _ hparse'
            obtain rfl := Option.some.inj (hparse.symm.trans hparse')
            cases hnumbers.entry_unique hmem hmem'
      | draft d =>
          simp only
          cases hempty : d.configData.isEmpty with
          | true =>
              rw [hrefuse]
              · exact ⟨rfl, hkept⟩
              · intro id' d' hmem' hnonempty hparse'
                obtain rfl := Option.some.inj (hparse.symm.trans hparse')
                cases hnumbers.entry_unique hmem hmem'
                rw [hempty] at hnonempty
                cases hnonempty
          | false =>
              obtain ⟨stores, hpublish, hholds'⟩ := h.publish (r := ⟨client.resolve draft,
                publishedBy, (mode.draw ⟨.publish draft publishedBy, memory, database⟩).id,
                (mode.draw ⟨.publish draft publishedBy, memory, database⟩).now⟩) hholds hmem
                hempty hresolve hvalid.fresh (hnumbers.notMem_ids hvalid.new) hfits
              have hcall : service.call mode client
                  ⟨.publish draft publishedBy, memory, database⟩ =
                    (true, ⟨stores, client.issued ++ [formatUuid
                      (mode.draw ⟨.publish draft publishedBy, memory, database⟩).id]⟩) := by
                simp only [PublishService.call]
                rw [hpublish]
              rw [hcall]
              refine ⟨rfl, _, hholds', ?_, ?_⟩
              · rw [List.map_append]
                exact hnumbers.publish hvalid.new d
              · intro tag htag
                rw [Book.tags, Book.publish, Book.tags_append, Entry.draftTag, Option.toList_none,
                  List.append_nil] at htag
                exact mem_draftTags _ (htags tag htag)

theorem KeepsBooks.rollback_eq (h : KeepsBooks service canonical mode.database Fresh Holds)
    {publication : Ref} {memory database : Draw}
    (hkeeps : Keeps Holds mode.draw before client ledger)
    (hvalid : CallValid service canonical mode.draw Fresh before
      ⟨.rollback publication, memory, database⟩) :
    (service.call mode client ⟨.rollback publication, memory, database⟩).1 =
        (ledger.act service.configHash (.rollback publication)).1 ∧
      Keeps Holds mode.draw (before ++ [⟨.rollback publication, memory, database⟩])
        (service.call mode client ⟨.rollback publication, memory, database⟩).2
        (ledger.act service.configHash (.rollback publication)).2 := by
  obtain ⟨book, hholds, hnumbers, htags⟩ := hkeeps
  have href := hvalid.op
  simp only at href
  have hrefuse : (∀ id d, (id, Entry.publication d) ∈ book.ids →
        parseUuid (client.resolve publication) ≠ some id) →
      (service.call mode client ⟨.rollback publication, memory, database⟩) = (false, client) := by
    intro hnone
    simp only [PublishService.call]
    obtain ⟨message, hrollback⟩ := h.refuseRollback hholds hnone
    rw [hrollback]
  have hkept : Keeps Holds mode.draw (before ++ [⟨.rollback publication, memory, database⟩])
      client ledger := Keeps.draw ⟨book, hholds, hnumbers, htags⟩ _
  simp only [Ledger.act]
  cases hfind : ledger.find publication with
  | none =>
      rw [hrefuse fun id d hmem => hnumbers.resolve_of_find_eq_none href hfind _ hmem]
      exact ⟨rfl, hkept⟩
  | some e =>
      obtain ⟨id, hmem, hresolve⟩ := hnumbers.resolve_of_find hfind
      cases e with
      | draft d =>
          rw [hrefuse]
          · exact ⟨rfl, hkept⟩
          · intro id' d' hmem' hparse'
            rw [hresolve, parseUuid_formatUuid] at hparse'
            obtain rfl := Option.some.inj hparse'
            cases hnumbers.entry_unique hmem hmem'
      | publication d =>
          obtain ⟨record, stores, hrollback, hholds'⟩ := h.rollback
            (mode.draw ⟨.rollback publication, memory, database⟩).now hholds hmem
          have hcall : service.call mode client ⟨.rollback publication, memory, database⟩ =
              (true, ⟨stores, client.issued⟩) := by
            simp only [PublishService.call]
            rw [hresolve, hrollback]
          rw [hcall]
          refine ⟨rfl, _, hholds', ?_, fun tag htag => mem_draftTags _ (htags tag htag)⟩
          rw [List.map_append]
          exact (hnumbers.rollback hmem).draw _

/-- One call returns exactly if the ledger's operation does, and keeps the book. -/
theorem KeepsBooks.call_eq (h : KeepsBooks service canonical mode.database Fresh Holds)
    (hkeeps : Keeps Holds mode.draw before client ledger)
    (hvalid : CallValid service canonical mode.draw Fresh before c) :
    (service.call mode client c).1 = (ledger.act service.configHash c.op).1 ∧
      Keeps Holds mode.draw (before ++ [c]) (service.call mode client c).2
        (ledger.act service.configHash c.op).2 := by
  obtain ⟨op, memory, database⟩ := c
  cases op with
  | createDraft configData versionTag => exact ⟨rfl, h.createDraft_eq hkeeps hvalid⟩
  | publish draft publishedBy => exact h.publish_eq hkeeps hvalid
  | rollback publication => exact h.rollback_eq hkeeps hvalid

end Step

/-- A mode that keeps books answers as the ledger does. -/
theorem KeepsBooks.answers_eq (h : KeepsBooks service canonical mode.database Fresh Holds)
    {stores : Stores} (hstart : Holds stores {}) {cs : List ServiceCall}
    (hvalid : ∀ before c rest, cs = before ++ c :: rest →
      CallValid service canonical mode.draw Fresh before c) :
    (service.component mode canonical).answers ⟨stores, []⟩ cs =
      (Ledger.component service.configHash canonical).answers {} cs := by
  have hstep : ∀ before client ledger c, Keeps Holds mode.draw before client ledger →
      CallValid service canonical mode.draw Fresh before c →
      ((service.component mode canonical).act client c).1 =
          ((Ledger.component service.configHash canonical).act ledger c).1 ∧
        Keeps Holds mode.draw (calls.act before c).2
          ((service.component mode canonical).act client c).2
          ((Ledger.component service.configHash canonical).act ledger c).2 := by
    intro before client ledger c hkeeps hcall
    obtain ⟨hreturned, hkept⟩ := h.call_eq hkeeps hcall
    have hseen := h.seen_eq hkept
    refine ⟨?_, hkept⟩
    simp only [PublishService.component, Ledger.component]
    rw [hreturned, hseen]
  refine Component.answers_eq (g := []) hstep ⟨{}, hstart, ?_, by simp [Book.tags]⟩ ?_
  · exact ⟨rfl, rfl, by simp, by simp, rfl⟩
  · intro before c rest hsplit
    rw [calls_after, List.nil_append]
    exact hvalid before c rest hsplit

end Iara.ConfigPublishing
