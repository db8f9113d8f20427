import Iara.ConfigPublishing.ServiceSteps
import Iara.Lib.JsonRepr

/-!
# The hash of a configuration

`create_draft` hashes `str(sorted(config_data.items()))`.  The text is read back without
loss, so without collisions the hashes of two drafts agree exactly when the configurations
have the same entries: sorting takes the order of the outermost keys away, and no other.
-/

namespace Iara.ConfigPublishing

open Iara.Lib Iara.Persistence

/-- The hash under which a draft is stored: of its row, or of its entry in memory. -/
def Stores.draftHash (s : Stores) (draftId : Uuid) : Option String :=
  ((s.db.versions.find draftId).map fun v => v.configHash).or
    ((s.memory.drafts (formatUuid draftId)).map fun draft => draft.configHash)

namespace PublishService

variable {service : PublishService} {isPrintable : Char → Bool} {config other : Parameters}

/-! ## What is stored -/

theorem draftHash_kept {r : DraftRequest} {s : Stores} (db : ConfigDb)
    (hdb : ∀ v, db.versions.find r.draftId = some v →
      v.configHash = service.configHash r.configData) :
    ({ db := db, memory := service.keepDraft r s.memory } : Stores).draftHash r.draftId =
      some (service.configHash r.configData) := by
  have hmemory : (service.keepDraft r s.memory).drafts (formatUuid r.draftId) =
      some (service.draftEntry r) := Function.update_self ..
  unfold Stores.draftHash
  cases hfind : db.versions.find r.draftId with
  | none => rw [hmemory]; rfl
  | some v => exact congrArg some (hdb v hfind)

/-- A new draft is stored under the hash of its configuration, in the tables, in memory, or
in both. -/
theorem draftHash_createDraft {r : DraftRequest} {s : Stores} (database : Database)
    (hfresh : s.draftHash r.draftId = none) :
    (service.createDraft r database s).2.draftHash r.draftId =
      some (service.configHash r.configData) := by
  have hnew : s.db.versions.find r.draftId = none :=
    Option.map_eq_none_iff.1 (Option.or_eq_none_iff.1 hfresh).1
  have hkept : ({ db := s.db, memory := service.keepDraft r s.memory } : Stores).draftHash
      r.draftId = some (service.configHash r.configData) :=
    draftHash_kept s.db fun v hv => by rw [hnew] at hv; cases hv
  by_cases htaken : ∃ tenant storedTag stored, Insertable service s.db r tenant storedTag stored
  · obtain ⟨tenant, storedTag, stored, hinsertable⟩ := htaken
    have hrow : (service.draftRows tenant r storedTag stored s.db).versions.find r.draftId =
        some (service.version tenant r storedTag stored) := by
      change (s.db.versions.insertOrIgnore (service.version tenant r storedTag stored)).find
        r.draftId = _
      rw [Table.find_insertOrIgnore, hnew]
      exact if_pos rfl
    unfold createDraft
    rw [hinsertable.insertDraft_eq]
    cases database with
    | absent => exact hkept
    | session transaction =>
        cases transaction with
        | fails exception => exact hkept
        | commits =>
            change (((service.draftRows tenant r storedTag stored s.db).versions.find
              r.draftId).map _).or _ = _
            rw [hrow]
            rfl
        | commitsThenFails exception =>
            refine draftHash_kept (service.draftRows tenant r storedTag stored s.db) fun v hv => ?_
            rw [hrow] at hv
            obtain rfl := Option.some.inj hv
            rfl
  · obtain ⟨exception, hfailed⟩ :=
      insertDraft_eq_other fun tenant storedTag stored h => htaken ⟨tenant, storedTag, stored, h⟩
    unfold createDraft
    rw [hfailed, Database.close_other]
    exact hkept

/-! ## The text -/

/-- One of the pairs that are sorted. -/
def pairText (text : PyText) (entry : String × Json) : String :=
  "(" ++ text.repr entry.1 ++ ", " ++ text.reprJson entry.2 ++ ")"

/-- `sorted(config_data.items())` -/
def sortedItems (configData : Parameters) : Parameters :=
  configData.insertionSort fun p q => p.1 ≤ q.1

theorem configHash_eq (configData : Parameters) : service.configHash configData =
    service.sha256 ("[" ++
      PyStr.join ", " ((sortedItems configData).map (pairText service.text)) ++ "]") := rfl

theorem sortedItems_perm (configData : Parameters) : (sortedItems configData).Perm configData :=
  List.perm_insertionSort _ configData

theorem sortedItems_pairwise (configData : Parameters) :
    (sortedItems configData).Pairwise fun p q => p.1 ≤ q.1 := by
  have : Std.Total fun p q : String × Json => p.1 ≤ q.1 := ⟨fun p q => le_total p.1 q.1⟩
  have : IsTrans (String × Json) fun p q => p.1 ≤ q.1 := ⟨fun _ _ _ => le_trans⟩
  exact List.pairwise_insertionSort _ configData

/-- Where no key is there twice, the sorted pairs say which entries there are, and no more. -/
theorem sortedItems_eq_iff (hnodup : (config.map Prod.fst).Nodup) :
    sortedItems config = sortedItems other ↔ config.Perm other := by
  constructor
  · intro h
    exact (sortedItems_perm config).symm.trans (h ▸ sortedItems_perm other)
  · intro hperm
    have hsorted : (sortedItems config).Perm (sortedItems other) :=
      ((sortedItems_perm config).trans hperm).trans (sortedItems_perm other).symm
    refine hsorted.eq_of_pairwise ?_ (sortedItems_pairwise config) (sortedItems_pairwise other)
    intro p q hp hq hpq hqp
    have hp' : p ∈ config := (sortedItems_perm config).subset hp
    have hq' : q ∈ config := hperm.symm.subset ((sortedItems_perm other).subset hq)
    exact List.inj_on_of_nodup_map hnodup hp' hq' (le_antisymm hpq hqp)

theorem toList_pairText (text : PyText) (entry : String × Json) (u : List Char) :
    (pairText text entry).toList ++ u = '(' :: ((text.repr entry.1).toList ++
      (',' :: ' ' :: ((text.reprJson entry.2).toList ++ ')' :: u))) := by
  rw [pairText, String.toList_append, String.toList_append, String.toList_append,
    String.toList_append, List.append_assoc, List.append_assoc, List.append_assoc,
    List.append_assoc]
  rfl

section Readback

variable (hrepr : ∀ s, service.text.repr s = PyStr.reprStr isPrintable s)
include hrepr

theorem pair_delimits {entry : String × Json} (h : entry.2.WellFormed) :
    PyText.Delimits (fun entry => entry.2.WellFormed) (pairText service.text) entry := by
  intro other u v hother hu hv heq
  rw [toList_pairText, toList_pairText, hrepr, hrepr] at heq
  obtain ⟨hkey, hrest⟩ := PyStr.reprStr_delimits (List.cons.inj heq).2
  have hvalues := (List.cons.inj (List.cons.inj hrest).2).2
  obtain ⟨hvalue, hclose⟩ := PyText.reprJson_delimits hrepr entry.2 h other.2 _ _ hother
    (PyText.stops_cons rfl u) (PyText.stops_cons rfl v) hvalues
  exact ⟨Prod.ext hkey hvalue, (List.cons.inj hclose).2⟩

/-- The sorted pairs can be read off the text that is hashed. -/
theorem sortedItems_of_text (hconfig : (Json.obj config).WellFormed)
    (hother : (Json.obj other).WellFormed)
    (h : "[" ++ PyStr.join ", " ((sortedItems config).map (pairText service.text)) ++ "]" =
      "[" ++ PyStr.join ", " ((sortedItems other).map (pairText service.text)) ++ "]") :
    sortedItems config = sortedItems other := by
  have hlist := congrArg String.toList h
  rw [String.toList_append, String.toList_append, String.toList_append, String.toList_append,
    List.append_assoc, List.append_assoc] at hlist
  have htail : (PyStr.join ", " ((sortedItems config).map (pairText service.text))).toList ++
      ']' :: [] =
      (PyStr.join ", " ((sortedItems other).map (pairText service.text))).toList ++ ']' :: [] :=
    (List.cons.inj hlist).2
  refine (PyText.join_delimits (P := fun entry : String × Json => entry.2.WellFormed)
    rfl (by decide) ?_ ?_ ?_ htail).1
  · intro entry _ w w' heq
    rw [toList_pairText] at heq
    cases heq
  · intro entry hentry
    have hwf := hconfig.entry ((sortedItems_perm config).subset hentry)
    exact ⟨hwf, pair_delimits hrepr hwf⟩
  · intro entry hentry
    exact hother.entry ((sortedItems_perm other).subset hentry)

/-- Without collisions, the hashes of two configurations agree exactly when they have the
same entries. -/
theorem configHash_eq_iff (hsha : Function.Injective service.sha256)
    (hconfig : (Json.obj config).WellFormed) (hother : (Json.obj other).WellFormed) :
    service.configHash config = service.configHash other ↔ config.Perm other := by
  rw [← sortedItems_eq_iff hconfig.nodup]
  constructor
  · intro h
    rw [configHash_eq, configHash_eq] at h
    exact sortedItems_of_text hrepr hconfig hother (hsha h)
  · intro h
    rw [configHash_eq, configHash_eq, h]

/-- The hashes under which two drafts are stored agree exactly when the configurations are
equal as JSON, if and only if two equal ones differ at most in the order of their outermost
keys. -/
theorem draftHash_agrees_iff (read : String → Rat) (hsha : Function.Injective service.sha256)
    (r r' : DraftRequest) {s s' : Stores} (database database' : Database)
    (hfresh : s.draftHash r.draftId = none) (hfresh' : s'.draftHash r'.draftId = none)
    (hconfig : (Json.obj r.configData).WellFormed)
    (hother : (Json.obj r'.configData).WellFormed) :
    (((service.createDraft r database s).2.draftHash r.draftId =
        (service.createDraft r' database' s').2.draftHash r'.draftId ↔
      Json.Equal read (.obj r.configData) (.obj r'.configData)) ↔
    (Json.Equal read (.obj r.configData) (.obj r'.configData) →
      r.configData.Perm r'.configData)) := by
  rw [draftHash_createDraft database hfresh, draftHash_createDraft database' hfresh',
    Option.some_inj, configHash_eq_iff hrepr hsha hconfig hother]
  constructor
  · intro hagree
    exact hagree.2
  · intro horder
    exact ⟨Json.equal_of_perm hconfig.nodup, horder⟩

end Readback

section Example

def hashedService : PublishService where
  sha256 s := s
  text := { plainText with repr := PyStr.reprStr fun _ => false }
  jsonb := plainColumn
  tenantId := formatUuid 1

theorem repr_hashedService (s : String) :
    hashedService.text.repr s = PyStr.reprStr (fun _ => false) s := rfl

def extraDraft (configData : Parameters) : DraftRequest where
  configData := configData
  versionTag := some "v1"
  draftId := 7
  stamp := ""

def emptyStores : Stores where
  db := { tenants := [1] }

def extra : Parameters := [("region", .num 7), ("plan", .num 1)]

/-- As a JSONB column has it, the shorter key first. -/
def extraStored : Parameters := [("plan", .num 1), ("region", .num 7)]

def withExtra (extra : Parameters) : Parameters :=
  [("extra", .obj extra), ("version_tag", .str "v1")]

/-- With its outermost keys in the other order. -/
def tagFirst : Parameters := [("version_tag", .str "v1"), ("extra", .obj extra)]

theorem extra_perm : extra.Perm extraStored := List.Perm.swap ..

theorem tagFirst_perm : (withExtra extra).Perm tagFirst := List.Perm.swap ..

theorem wellFormed_extra : (Json.obj extra).WellFormed := by
  refine Json.wellFormed_obj (by decide) fun entry hentry => ?_
  rcases List.mem_pair.1 hentry with rfl | rfl <;> exact Json.wellFormed_num _

theorem wellFormed_withExtra {extra : Parameters} (h : (Json.obj extra).WellFormed) :
    (Json.obj (withExtra extra)).WellFormed := by
  have hnodup : ["extra", "version_tag"].Nodup := by decide
  refine Json.wellFormed_obj hnodup fun entry hentry => ?_
  rcases List.mem_pair.1 hentry with rfl | rfl
  · exact h
  · exact Json.wellFormed_str "v1"

theorem tagFirst_agrees_iff :
    ((hashedService.createDraft (extraDraft (withExtra extra)) .absent emptyStores).2.draftHash 7 =
        (hashedService.createDraft (extraDraft tagFirst) .absent emptyStores).2.draftHash 7 ↔
      Json.Equal (fun _ => 0) (.obj (withExtra extra)) (.obj tagFirst)) ↔
    (Json.Equal (fun _ => 0) (.obj (withExtra extra)) (.obj tagFirst) →
      (withExtra extra).Perm tagFirst) :=
  draftHash_agrees_iff repr_hashedService (fun _ => 0) (fun _ _ h => h)
    (extraDraft (withExtra extra)) (extraDraft tagFirst) .absent .absent rfl rfl
    (wellFormed_withExtra wellFormed_extra)
    ((wellFormed_withExtra wellFormed_extra).of_perm tagFirst_perm)

/-- The hash of what is read back is another one. -/
theorem stored_rehashed :
    Json.Equal (fun _ => 0) (.obj (withExtra extra)) (.obj (withExtra extraStored)) ∧
      (hashedService.createDraft (extraDraft (withExtra extra)) .absent emptyStores).2.draftHash 7 ≠
        (hashedService.createDraft (extraDraft (withExtra extraStored)) .absent
          emptyStores).2.draftHash 7 := by
  constructor
  · exact Json.equal_cons (Json.equal_of_perm (by decide) extra_perm) (Json.equal_refl _)
  · have hstored : ∀ configData, (hashedService.createDraft (extraDraft configData) .absent
        emptyStores).2.draftHash 7 = some (hashedService.configHash configData) :=
      fun configData =>
        draftHash_createDraft (r := extraDraft configData) (s := emptyStores) .absent rfl
    rw [hstored, hstored]
    intro hsame
    have hperm := (configHash_eq_iff repr_hashedService (fun _ _ h => h)
      (wellFormed_withExtra wellFormed_extra)
      (wellFormed_withExtra (wellFormed_extra.of_perm extra_perm))).1 (Option.some.inj hsame)
    exact absurd (hperm.subset List.mem_cons_self) (by decide)

end Example

end PublishService

end Iara.ConfigPublishing
