import Mathlib.Data.List.Nodup

/-!
# Tables under a uniqueness constraint

A relation as the list of its rows in insertion order, with a `UNIQUE`
constraint on a key of the row.  The constraint is a field, so every operation
proves that it keeps it and no later proof has to.

* `insertOrIgnore` is `INSERT ... ON CONFLICT DO NOTHING`, and `insertAll` a series of
  them;
* `update` is `UPDATE ... SET ... WHERE ...` for an assignment that leaves the
  key alone;
* `delete` is `DELETE ... WHERE ...`;
* `upsert` is `INSERT ... ON CONFLICT DO UPDATE SET ... WHERE ...`.

`find` is a `SELECT` by the key, and the rules `find_update`,
`find_insertOrIgnore` and `find_upsert` say what each statement does to it.
-/

namespace Iara.Lib

structure Table (ρ κ : Type*) (key : ρ → κ) where
  rows : List ρ
  unique : (rows.map key).Nodup

namespace Table

variable {ρ κ : Type*} {key : ρ → κ}

def empty : Table ρ κ key := ⟨[], by simp⟩

@[simp] theorem rows_empty : (empty : Table ρ κ key).rows = [] := rfl

/-- A key determines its row. -/
theorem row_eq_of_key_eq (t : Table ρ κ key) {r r' : ρ} (hr : r ∈ t.rows) (hr' : r' ∈ t.rows)
    (hkey : key r = key r') : r = r' :=
  List.inj_on_of_nodup_map t.unique hr hr' hkey

/-- `UPDATE ... SET f WHERE p`, where `f` leaves the key alone. -/
def update (t : Table ρ κ key) (p : ρ → Bool) (f : ρ → ρ) (hf : ∀ r, key (f r) = key r) :
    Table ρ κ key where
  rows := t.rows.map fun r => if p r then f r else r
  unique := by
    have hkeys : (t.rows.map fun r => if p r then f r else r).map key = t.rows.map key := by
      rw [List.map_map]
      apply List.map_congr_left
      intro r _
      simp only [Function.comp_apply]
      split
      · exact hf r
      · rfl
    rw [hkeys]
    exact t.unique

/-- `DELETE ... WHERE p`. -/
def delete (t : Table ρ κ key) (p : ρ → Bool) : Table ρ κ key where
  rows := t.rows.filter fun r => !p r
  unique := t.unique.sublist (List.filter_sublist.map key)

theorem mem_delete {t : Table ρ κ key} {p : ρ → Bool} {r : ρ} :
    r ∈ (t.delete p).rows ↔ r ∈ t.rows ∧ p r = false := by
  simp [delete]

theorem mem_update {t : Table ρ κ key} {p : ρ → Bool} {f : ρ → ρ} {hf : ∀ r, key (f r) = key r}
    {r : ρ} : r ∈ (t.update p f hf).rows ↔ ∃ r' ∈ t.rows, (if p r' then f r' else r') = r :=
  List.mem_map

/-! ### Part of a table -/

theorem filter_rows_delete (t : Table ρ κ key) (p q : ρ → Bool) :
    (t.delete p).rows.filter q = (t.rows.filter q).filter fun r => !p r := by
  simp [delete, List.filter_filter, Bool.and_comm]

/-- An update of a column that the part does not depend on. -/
theorem filter_rows_update (t : Table ρ κ key) (p q : ρ → Bool) (f : ρ → ρ)
    (hf : ∀ r, key (f r) = key r) (hq : ∀ r, q (f r) = q r) :
    (t.update p f hf).rows.filter q = (t.rows.filter q).map fun r => if p r then f r else r := by
  have hstable : ∀ r, q (if p r then f r else r) = q r := by
    intro r
    split
    · exact hq r
    · rfl
  unfold update
  rw [List.filter_map]
  congr 2
  funext r
  exact hstable r

variable [DecidableEq κ]

def hasKey (t : Table ρ κ key) (k : κ) : Bool := t.rows.any fun r => key r = k

def find (t : Table ρ κ key) (k : κ) : Option ρ := t.rows.find? fun r => key r = k

theorem hasKey_eq_false_iff {t : Table ρ κ key} {k : κ} :
    t.hasKey k = false ↔ ∀ r ∈ t.rows, key r ≠ k := by
  simp [hasKey]

theorem find_eq_some_iff {t : Table ρ κ key} {k : κ} {r : ρ} :
    t.find k = some r ↔ r ∈ t.rows ∧ key r = k := by
  constructor
  · intro h
    exact ⟨List.mem_of_find?_eq_some h, by simpa using List.find?_some h⟩
  · rintro ⟨hmem, hkey⟩
    cases h : t.find k with
    | none =>
        have := List.find?_eq_none.1 h r hmem
        simp [hkey] at this
    | some r' =>
        have hkey' : key r' = k := by simpa using List.find?_some h
        rw [t.row_eq_of_key_eq (List.mem_of_find?_eq_some h) hmem (hkey'.trans hkey.symm)]

theorem find_eq_none_iff {t : Table ρ κ key} {k : κ} :
    t.find k = none ↔ ∀ r ∈ t.rows, key r ≠ k := by
  simp [find]

/-- `INSERT ... ON CONFLICT DO NOTHING`. -/
def insertOrIgnore (t : Table ρ κ key) (r : ρ) : Table ρ κ key :=
  if h : t.hasKey (key r) then t
  else
    { rows := t.rows ++ [r]
      unique := by
        have hnew := hasKey_eq_false_iff.1 (Bool.not_eq_true _ ▸ h)
        rw [List.map_append, List.map_singleton, List.nodup_append]
        refine ⟨t.unique, by simp, ?_⟩
        intro k hk k' hk'
        obtain ⟨r', hr', rfl⟩ := List.mem_map.1 hk
        rw [List.mem_singleton.1 hk']
        exact hnew r' hr' }

theorem insertOrIgnore_of_hasKey {t : Table ρ κ key} {r : ρ} (h : t.hasKey (key r) = true) :
    t.insertOrIgnore r = t := by
  unfold insertOrIgnore
  rw [dif_pos h]

theorem rows_insertOrIgnore_of_new {t : Table ρ κ key} {r : ρ} (h : t.hasKey (key r) = false) :
    (t.insertOrIgnore r).rows = t.rows ++ [r] := by
  unfold insertOrIgnore
  rw [dif_neg (by simp [h])]

theorem rows_insertOrIgnore_ne_iff {t : Table ρ κ key} {r : ρ} :
    (t.insertOrIgnore r).rows ≠ t.rows ↔ t.hasKey (key r) = false := by
  cases h : t.hasKey (key r) with
  | true =>
      rw [insertOrIgnore_of_hasKey h]
      simp
  | false =>
      rw [rows_insertOrIgnore_of_new h]
      simp

theorem hasKey_insertOrIgnore {t : Table ρ κ key} {r : ρ} {k : κ} :
    (t.insertOrIgnore r).hasKey k = (t.hasKey k || decide (key r = k)) := by
  by_cases h : t.hasKey (key r) = true
  · rw [insertOrIgnore_of_hasKey h]
    by_cases hk : key r = k
    · rw [← hk, h, Bool.true_or]
    · simp [hk]
  · rw [hasKey, rows_insertOrIgnore_of_new (by simpa using h)]
    simp [hasKey]

theorem mem_insertOrIgnore {t : Table ρ κ key} {r r' : ρ} (h : r' ∈ (t.insertOrIgnore r).rows) :
    r' ∈ t.rows ∨ (r' = r ∧ t.hasKey (key r) = false) := by
  by_cases hk : t.hasKey (key r) = true
  · rw [insertOrIgnore_of_hasKey hk] at h
    exact Or.inl h
  · have hk' : t.hasKey (key r) = false := by simpa using hk
    rw [rows_insertOrIgnore_of_new hk', List.mem_append, List.mem_singleton] at h
    rcases h with h | h
    · exact Or.inl h
    · exact Or.inr ⟨h, hk'⟩

theorem mem_insertOrIgnore_self {t : Table ρ κ key} {r : ρ} (h : t.hasKey (key r) = false) :
    r ∈ (t.insertOrIgnore r).rows := by
  rw [rows_insertOrIgnore_of_new h]
  exact List.mem_append_right _ List.mem_cons_self

theorem mem_insertOrIgnore_of_mem {t : Table ρ κ key} {r r' : ρ} (h : r' ∈ t.rows) :
    r' ∈ (t.insertOrIgnore r).rows := by
  by_cases hk : t.hasKey (key r) = true
  · rw [insertOrIgnore_of_hasKey hk]
    exact h
  · rw [rows_insertOrIgnore_of_new (by simpa using hk)]
    exact List.mem_append_left _ h

/-- The rows are inserted in order; those whose key is taken are ignored. -/
def insertAll (t : Table ρ κ key) (rs : List ρ) : Table ρ κ key := rs.foldl insertOrIgnore t

@[simp] theorem insertAll_nil (t : Table ρ κ key) : t.insertAll [] = t := rfl

theorem insertAll_cons (t : Table ρ κ key) (r : ρ) (rs : List ρ) :
    t.insertAll (r :: rs) = (t.insertOrIgnore r).insertAll rs := rfl

theorem insertAll_append (t : Table ρ κ key) (rs rs' : List ρ) :
    t.insertAll (rs ++ rs') = (t.insertAll rs).insertAll rs' := List.foldl_append

theorem hasKey_insertAll {t : Table ρ κ key} {rs : List ρ} {k : κ} :
    (t.insertAll rs).hasKey k = true ↔ t.hasKey k = true ∨ ∃ r ∈ rs, key r = k := by
  induction rs generalizing t with
  | nil => simp
  | cons r rs ih =>
      rw [insertAll_cons, ih, hasKey_insertOrIgnore]
      simp [or_assoc]

theorem mem_insertAll_of_mem {t : Table ρ κ key} {rs : List ρ} {r : ρ} (h : r ∈ t.rows) :
    r ∈ (t.insertAll rs).rows := by
  induction rs generalizing t with
  | nil => exact h
  | cons r' rs ih => exact ih (mem_insertOrIgnore_of_mem h)

theorem mem_insertAll {t : Table ρ κ key} {rs : List ρ} {r : ρ} (h : r ∈ (t.insertAll rs).rows) :
    r ∈ t.rows ∨ r ∈ rs := by
  induction rs generalizing t with
  | nil => exact .inl h
  | cons r' rs ih =>
      rcases ih h with hfirst | hrest
      · rcases mem_insertOrIgnore hfirst with hold | ⟨rfl, -⟩
        · exact .inl hold
        · exact .inr List.mem_cons_self
      · exact .inr (List.mem_cons_of_mem _ hrest)

/-- A row that is inserted once is in the table afterwards exactly if its key was
free. -/
theorem mem_insertAll_iff {t : Table ρ κ key} {rs rs' : List ρ} {r : ρ} (ht : r ∉ t.rows)
    (hrs : r ∉ rs) (hrs' : r ∉ rs') :
    r ∈ (t.insertAll (rs ++ r :: rs')).rows ↔ (t.insertAll rs).hasKey (key r) = false := by
  have hbefore : r ∉ (t.insertAll rs).rows := fun h => (mem_insertAll h).elim ht hrs
  rw [insertAll_append, insertAll_cons]
  constructor
  · intro h
    rcases mem_insertOrIgnore ((mem_insertAll h).resolve_right hrs') with hold | ⟨-, hfree⟩
    · exact absurd hold hbefore
    · exact hfree
  · intro hfree
    apply mem_insertAll_of_mem
    rw [rows_insertOrIgnore_of_new hfree]
    exact List.mem_append_right _ (List.mem_singleton_self r)

theorem find_update {t : Table ρ κ key} {p : ρ → Bool} {f : ρ → ρ} {hf : ∀ r, key (f r) = key r}
    {k : κ} : (t.update p f hf).find k = (t.find k).map fun r => if p r then f r else r := by
  have hkey : ∀ r, key (if p r then f r else r) = key r := by
    intro r
    split
    · exact hf r
    · rfl
  unfold find update
  rw [List.find?_map]
  congr 2
  funext r
  simp [hkey]

theorem hasKey_eq_isSome_find {t : Table ρ κ key} {k : κ} : t.hasKey k = (t.find k).isSome := by
  rw [Bool.eq_iff_iff]
  simp [hasKey, find]

theorem hasKey_update {t : Table ρ κ key} {p : ρ → Bool} {f : ρ → ρ}
    {hf : ∀ r, key (f r) = key r} {k : κ} : (t.update p f hf).hasKey k = t.hasKey k := by
  rw [hasKey_eq_isSome_find, hasKey_eq_isSome_find, find_update, Option.isSome_map]

theorem find_insertOrIgnore {t : Table ρ κ key} {r : ρ} {k : κ} :
    (t.insertOrIgnore r).find k = (t.find k).or (if key r = k then some r else none) := by
  cases hkey : t.hasKey (key r) with
  | true =>
      rw [insertOrIgnore_of_hasKey hkey]
      by_cases hk : key r = k
      · subst hk
        rw [hasKey_eq_isSome_find] at hkey
        rw [Option.or_of_isSome hkey]
      · rw [if_neg hk, Option.or_none]
  | false =>
      unfold find
      rw [rows_insertOrIgnore_of_new hkey, List.find?_append]
      by_cases hk : key r = k
      · simp [hk]
      · simp [hk]

/-- A row is found in the part it belongs to. -/
theorem find_eq_find?_filter (t : Table ρ κ key) (q : ρ → Bool) {k : κ}
    (hq : ∀ r, key r = k → q r = true) :
    t.find k = (t.rows.filter q).find? fun r => key r = k := by
  unfold find
  rw [List.find?_filter]
  congr 1
  funext r
  by_cases hk : key r = k
  · simp [hk, hq r hk]
  · simp [hk]

theorem filter_rows_insertOrIgnore_of_new {t : Table ρ κ key} {r : ρ} (q : ρ → Bool)
    (h : t.hasKey (key r) = false) :
    (t.insertOrIgnore r).rows.filter q = t.rows.filter q ++ if q r then [r] else [] := by
  rw [rows_insertOrIgnore_of_new h, List.filter_append]
  congr 1
  cases hr : q r <;> simp [hr]

theorem find_delete {t : Table ρ κ key} {p : ρ → Bool} {k : κ} :
    (t.delete p).find k = (t.find k).filter fun r => !p r := by
  cases hfind : t.find k with
  | none =>
      rw [find_eq_none_iff] at hfind
      rw [Option.filter_none, find_eq_none_iff]
      exact fun r hr => hfind r (mem_delete.1 hr).1
  | some r =>
      obtain ⟨hr, hkey⟩ := find_eq_some_iff.1 hfind
      cases hp : p r with
      | true =>
          rw [Option.filter_some_neg (by simp [hp]), find_eq_none_iff]
          intro r' hr' hkey'
          obtain ⟨hmem, hp'⟩ := mem_delete.1 hr'
          rw [t.row_eq_of_key_eq hmem hr (hkey'.trans hkey.symm), hp] at hp'
          cases hp'
      | false =>
          rw [Option.filter_some_pos (by simp [hp]), find_eq_some_iff]
          exact ⟨mem_delete.2 ⟨hr, hp⟩, hkey⟩

/-- `INSERT ... ON CONFLICT DO UPDATE SET f WHERE p`; `none` where no row is
written. -/
def upsert (t : Table ρ κ key) (r : ρ) (p : ρ → Bool) (f : ρ → ρ) (hf : ∀ r, key (f r) = key r) :
    Option (Table ρ κ key) :=
  match t.find (key r) with
  | none => some (t.insertOrIgnore r)
  | some r' => if p r' then some (t.update (fun r' => key r' = key r) f hf) else none

/-- The row an upsert leaves under its key. -/
theorem find_upsert_self {t t' : Table ρ κ key} {r : ρ} {p : ρ → Bool} {f : ρ → ρ}
    {hf : ∀ r, key (f r) = key r} (h : t.upsert r p f hf = some t') :
    t'.find (key r) = some (((t.find (key r)).map f).getD r) := by
  unfold upsert at h
  cases hfind : t.find (key r) with
  | none =>
      rw [hfind, Option.some.injEq] at h
      rw [← h, find_insertOrIgnore, hfind]
      simp
  | some r' =>
      simp only [hfind] at h
      split at h
      · rw [Option.some.injEq] at h
        rw [← h, find_update, hfind]
        simp [(find_eq_some_iff.1 hfind).2]
      · cases h

theorem find_upsert_of_ne {t t' : Table ρ κ key} {r : ρ} {p : ρ → Bool} {f : ρ → ρ}
    {hf : ∀ r, key (f r) = key r} (h : t.upsert r p f hf = some t') {k : κ} (hk : k ≠ key r) :
    t'.find k = t.find k := by
  unfold upsert at h
  cases hfind : t.find (key r) with
  | none =>
      rw [hfind, Option.some.injEq] at h
      rw [← h, find_insertOrIgnore, if_neg hk.symm, Option.or_none]
  | some r' =>
      simp only [hfind] at h
      split at h
      · rw [Option.some.injEq] at h
        rw [← h, find_update]
        cases hother : t.find k with
        | none => rfl
        | some r'' =>
            have hkey := (find_eq_some_iff.1 hother).2
            simp [hkey, hk]
      · cases h

theorem upsert_eq_none_iff {t : Table ρ κ key} {r : ρ} {p : ρ → Bool} {f : ρ → ρ}
    {hf : ∀ r, key (f r) = key r} :
    t.upsert r p f hf = none ↔ ∃ r', t.find (key r) = some r' ∧ p r' = false := by
  unfold upsert
  cases hfind : t.find (key r) with
  | none => simp
  | some r' => cases hp : p r' <;> simp [hp]

end Table

end Iara.Lib
