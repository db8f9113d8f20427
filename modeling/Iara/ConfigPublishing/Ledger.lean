import Iara.ConfigPublishing.ServiceSteps
import Iara.Lib.Agreement

/-!
# What publishing is for

A ledger of drafts and publications that remembers which draft is active, and the
operations of the service on it.  An operation refers to an earlier answer by its
number, so that one sequence can be put to the ledger and to either mode.

A `Book` is the ledger under the UUIDs that a mode draws for its entries.
-/

namespace Iara.ConfigPublishing

open Iara.Lib Iara.Persistence

/-! ## Operations -/

/-- The id that was returned as the `n`-th one, or another text. -/
inductive Ref where
  | issued (n : Nat)
  | unknown (text : String)
  deriving DecidableEq, Repr

inductive PublishOp where
  | createDraft (configData : Parameters) (versionTag : String)
  | publish (draft : Ref) (publishedBy : String)
  | rollback (publication : Ref)
  deriving DecidableEq, Repr

/-- What an operation draws: a UUID and the readings of the clock. -/
structure Draw where
  id : Uuid
  stamp : String := ""
  now : Nat := 0
  deriving DecidableEq, Repr

/-- An operation with the draws of the two modes. -/
structure ServiceCall where
  op : PublishOp
  memory : Draw
  database : Draw
  deriving DecidableEq, Repr

/-- What a caller sees of an operation: whether it returned, and then the tag, the hash
and the configuration of the active publication. -/
structure Seen where
  returned : Bool
  active : Option (String × String × Parameters)
  deriving DecidableEq, Repr

/-! ## The ledger -/

inductive Entry where
  | draft (d : DraftEntry)
  | publication (d : DraftEntry)
  deriving DecidableEq, Repr

/-- The tag of a draft. -/
def Entry.draftTag : Entry → Option String
  | .draft d => some d.versionTag
  | .publication _ => none

structure Ledger where
  entries : List Entry := []
  active : Option DraftEntry := none
  deriving DecidableEq, Repr

namespace Ledger

def find (ledger : Ledger) : Ref → Option Entry
  | .issued n => ledger.entries[n]?
  | .unknown _ => none

def addDraft (d : DraftEntry) (ledger : Ledger) : Ledger :=
  { ledger with entries := ledger.entries ++ [.draft d] }

def publish (d : DraftEntry) (ledger : Ledger) : Ledger where
  entries := ledger.entries ++ [.publication d]
  active := some d

def act (hash : Parameters → String) (ledger : Ledger) : PublishOp → Bool × Ledger
  | .createDraft configData versionTag =>
      (true, ledger.addDraft ⟨configData, versionTag, hash configData⟩)
  | .publish draft _ =>
      match ledger.find draft with
      | some (.draft d) =>
          if d.configData.isEmpty then (false, ledger) else (true, ledger.publish d)
      | _ => (false, ledger)
  | .rollback publication =>
      match ledger.find publication with
      | some (.publication d) => (true, { ledger with active := some d })
      | _ => (false, ledger)

/-- `canonical` is a form that two dicts share if `==` holds between them. -/
def seen (canonical : Parameters → Parameters) (d : DraftEntry) : String × String × Parameters :=
  (d.versionTag, d.configHash, canonical d.configData)

def component (hash : Parameters → String) (canonical : Parameters → Parameters) :
    Component Ledger ServiceCall Seen where
  act ledger call :=
    let (returned, after) := act hash ledger call.op
    (⟨returned, after.active.map (seen canonical)⟩, after)

end Ledger

/-! ## The two modes -/

/-- A caller of one instance, with the ids that it got. -/
structure Client where
  stores : Stores
  issued : List String := []

def Client.resolve (client : Client) : Ref → String
  | .issued n => client.issued[n]?.getD ""
  | .unknown text => text

structure Mode where
  database : Database
  draw : ServiceCall → Draw

def memoryMode : Mode where
  database := .absent
  draw := ServiceCall.memory

/-- No session fails. -/
def databaseMode : Mode where
  database := .session .commits
  draw := ServiceCall.database

namespace PublishService

variable (service : PublishService) (mode : Mode)

def call (client : Client) (c : ServiceCall) : Bool × Client :=
  let draw := mode.draw c
  match c.op with
  | .createDraft configData versionTag =>
      let (id, stores) := service.createDraft
        { configData := configData, versionTag := some versionTag, draftId := draw.id,
          stamp := draw.stamp } mode.database client.stores
      (true, ⟨stores, client.issued ++ [id]⟩)
  | .publish draft publishedBy =>
      match service.publish
        { draftId := client.resolve draft, publishedBy := publishedBy, publicationId := draw.id,
          now := draw.now } mode.database client.stores with
      | (.ok id, stores) => (true, ⟨stores, client.issued ++ [id]⟩)
      | (.error _, stores) => (false, ⟨stores, client.issued⟩)
  | .rollback publication =>
      match service.rollback (client.resolve publication) draw.now mode.database client.stores with
      | (.ok _, stores) => (true, ⟨stores, client.issued⟩)
      | (.error _, stores) => (false, ⟨stores, client.issued⟩)

def activeSeen (canonical : Parameters → Parameters) (publication : ActivePublication) :
    String × String × Parameters :=
  (publication.versionTag, publication.configHash, canonical publication.configData)

def component (canonical : Parameters → Parameters) : Component Client ServiceCall Seen where
  act client c :=
    let (returned, after) := service.call mode client c
    (⟨returned, (service.getActivePublication mode.database after.stores).map
      (activeSeen canonical)⟩, after)

end PublishService

/-! ## Books -/

/-- A returned id, or a text that is no id that was drawn. -/
def Ref.Valid (drawn : List Uuid) : Ref → Prop
  | .issued _ => True
  | .unknown text => ∀ id, parseUuid text = some id → id ∉ drawn

structure Book where
  ids : List (Uuid × Entry) := []
  active : Option (Uuid × DraftEntry) := none
  /-- The active publication is an entry. -/
  active_mem : ∀ a ∈ active, (a.1, Entry.publication a.2) ∈ ids := by simp

namespace Book

def tags (book : Book) : List String := (book.ids.map Prod.snd).filterMap Entry.draftTag

theorem tags_append (book : Book) (id : Uuid) (e : Entry) :
    ((book.ids ++ [(id, e)]).map Prod.snd).filterMap Entry.draftTag =
      book.tags ++ e.draftTag.toList := by
  rw [List.map_append, List.filterMap_append, tags]
  cases e <;> rfl

theorem mem_tags {book : Book} {id : Uuid} {d : DraftEntry} (h : (id, Entry.draft d) ∈ book.ids) :
    d.versionTag ∈ book.tags :=
  List.mem_filterMap.2 ⟨.draft d, List.mem_map.2 ⟨_, h, rfl⟩, rfl⟩

def addDraft (book : Book) (id : Uuid) (d : DraftEntry) : Book where
  ids := book.ids ++ [(id, .draft d)]
  active := book.active
  active_mem a ha := List.mem_append_left _ (book.active_mem a ha)

def publish (book : Book) (id : Uuid) (d : DraftEntry) : Book where
  ids := book.ids ++ [(id, .publication d)]
  active := some (id, d)
  active_mem := by simp

def rollback (book : Book) {id : Uuid} {d : DraftEntry} (h : (id, Entry.publication d) ∈ book.ids) :
    Book where
  ids := book.ids
  active := some (id, d)
  active_mem := by simpa using h

/-- The book is the ledger, under UUIDs that were drawn and handed out. -/
structure Numbers (book : Book) (drawn : List Uuid) (issued : List String) (ledger : Ledger) :
    Prop where
  entries : book.ids.map Prod.snd = ledger.entries
  issued : issued = book.ids.map fun e => formatUuid e.1
  drawn : ∀ e ∈ book.ids, e.1 ∈ drawn
  distinct : (book.ids.map Prod.fst).Nodup
  active : ledger.active = book.active.map Prod.snd

variable {book : Book} {drawn : List Uuid} {client : Client} {ledger : Ledger} {id : Uuid}

theorem Numbers.entry_unique {issued : List String} (h : book.Numbers drawn issued ledger)
    {e e' : Entry} (he : (id, e) ∈ book.ids) (he' : (id, e') ∈ book.ids) : e = e' := by
  have hpair := List.inj_on_of_nodup_map h.distinct he he' rfl
  exact congrArg Prod.snd hpair

/-- What a reference finds in the ledger stands in the book, under the id it means. -/
theorem Numbers.resolve_of_find (h : book.Numbers drawn client.issued ledger) {ref : Ref}
    {e : Entry} (hfind : ledger.find ref = some e) :
    ∃ id, (id, e) ∈ book.ids ∧ client.resolve ref = formatUuid id := by
  cases ref with
  | unknown text => cases hfind
  | issued n =>
      rw [Ledger.find, ← h.entries, List.getElem?_map] at hfind
      obtain ⟨⟨id, e'⟩, hget, rfl⟩ := Option.map_eq_some_iff.1 hfind
      refine ⟨id, List.mem_of_getElem? hget, ?_⟩
      rw [Client.resolve, h.issued, List.getElem?_map, hget]
      rfl

/-- What a reference does not find is no id of the book. -/
theorem Numbers.resolve_of_find_eq_none (h : book.Numbers drawn client.issued ledger) {ref : Ref}
    (hvalid : ref.Valid drawn) (hfind : ledger.find ref = none) :
    ∀ e ∈ book.ids, parseUuid (client.resolve ref) ≠ some e.1 := by
  cases ref with
  | issued n =>
      -- the number of no answer stands for the empty text
      have hnone : client.issued[n]? = none := by
        rw [Ledger.find, ← h.entries, List.getElem?_map, Option.map_eq_none_iff] at hfind
        rw [h.issued, List.getElem?_map, hfind, Option.map_none]
      have hempty : parseUuid "" = none := by decide
      intro e _
      rw [Client.resolve, hnone, Option.getD_none, hempty]
      exact nofun
  | unknown text =>
      intro e he hparse
      exact hvalid e.1 hparse (h.drawn e he)

theorem Numbers.notMem_ids {issued : List String} (h : book.Numbers drawn issued ledger)
    (hid : id ∉ drawn) : id ∉ book.ids.map Prod.fst := by
  intro hmem
  obtain ⟨e, he, rfl⟩ := List.mem_map.1 hmem
  exact hid (h.drawn e he)

/-- More is drawn than is handed out. -/
theorem Numbers.draw {issued : List String} (h : book.Numbers drawn issued ledger) (id : Uuid) :
    book.Numbers (drawn ++ [id]) issued ledger :=
  { h with drawn := fun e he => List.mem_append_left _ (h.drawn e he) }

theorem Numbers.append {issued : List String} (h : book.Numbers drawn issued ledger)
    (hid : id ∉ drawn) (e : Entry) :
    (book.ids ++ [(id, e)]).map Prod.snd = ledger.entries ++ [e] ∧
      issued ++ [formatUuid id] = (book.ids ++ [(id, e)]).map (fun e => formatUuid e.1) ∧
      (∀ e' ∈ book.ids ++ [(id, e)], e'.1 ∈ drawn ++ [id]) ∧
      ((book.ids ++ [(id, e)]).map Prod.fst).Nodup := by
  refine ⟨by rw [List.map_append, h.entries]; rfl, by rw [List.map_append, h.issued]; rfl, ?_, ?_⟩
  · intro e' he'
    rcases List.mem_append.1 he' with hold | hnew
    · exact List.mem_append_left _ (h.drawn e' hold)
    · rw [List.mem_singleton.1 hnew]
      exact List.mem_append_right _ List.mem_cons_self
  · rw [List.map_append, List.nodup_append]
    refine ⟨h.distinct, by simp, ?_⟩
    intro k hk k' hk'
    rw [List.map_singleton, List.mem_singleton] at hk'
    rintro rfl
    rw [hk'] at hk
    exact h.notMem_ids hid hk

theorem Numbers.addDraft {issued : List String} (h : book.Numbers drawn issued ledger)
    (hid : id ∉ drawn) (d : DraftEntry) :
    (book.addDraft id d).Numbers (drawn ++ [id]) (issued ++ [formatUuid id]) (ledger.addDraft d) :=
  have happend := h.append hid (.draft d)
  ⟨happend.1, happend.2.1, happend.2.2.1, happend.2.2.2, h.active⟩

theorem Numbers.publish {issued : List String} (h : book.Numbers drawn issued ledger)
    (hid : id ∉ drawn) (d : DraftEntry) :
    (book.publish id d).Numbers (drawn ++ [id]) (issued ++ [formatUuid id]) (ledger.publish d) :=
  have happend := h.append hid (.publication d)
  ⟨happend.1, happend.2.1, happend.2.2.1, happend.2.2.2, rfl⟩

theorem Numbers.rollback {issued : List String} (h : book.Numbers drawn issued ledger)
    {d : DraftEntry} (hmem : (id, Entry.publication d) ∈ book.ids) :
    (book.rollback hmem).Numbers drawn issued { ledger with active := some d } :=
  { h with active := rfl }

end Book

end Iara.ConfigPublishing
