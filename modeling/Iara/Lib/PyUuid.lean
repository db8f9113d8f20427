import Mathlib.Algebra.GroupWithZero.Nat
import Iara.Lib.PyStr

/-!
# UUIDs

`uuid.UUID(s)` as a parser of strings, and `str(uuid.uuid4())` as a supply of
strings that are pairwise distinct and have the canonical layout of a UUID.
-/

namespace Iara.Lib

abbrev Uuid := BitVec 128

def hexDigit (c : Char) : Option Nat :=
  let n := c.toNat
  if '0'.toNat ≤ n ∧ n ≤ '9'.toNat then some (n - '0'.toNat)
  else if 'a'.toNat ≤ n ∧ n ≤ 'f'.toNat then some (n - 'a'.toNat + 10)
  else if 'A'.toNat ≤ n ∧ n ≤ 'F'.toNat then some (n - 'A'.toNat + 10)
  else none

/-- `uuid.UUID(s)`: 32 hexadecimal digits, where hyphens, braces and the URN
lead are optional; `none` is the `ValueError`. -/
def parseUuid (s : String) : Option Uuid :=
  let hex := PyStr.removeAll "uuid:" (PyStr.removeAll "urn:" s.toList)
  let digits := (PyStr.trimEnds (fun c => c == '\x7b' || c == '\x7d') hex).filter (· != '-')
  if digits.length = 32 then
    (digits.mapM hexDigit).map fun ds => BitVec.ofNat 128 (ds.foldl (fun n d => 16 * n + d) 0)
  else none

def hexChar (n : Nat) : Char := ("0123456789abcdef".toList)[n]?.getD '0'

/-- `str(u)`: 32 hexadecimal digits in groups of 8, 4, 4, 4 and 12. -/
def formatUuid (u : Uuid) : String :=
  let digits := (List.range 32).map fun i => hexChar (u.toNat / 16 ^ (31 - i) % 16)
  let group (first count : Nat) : String := String.ofList ((digits.drop first).take count)
  PyStr.join "-" [group 0 8, group 8 4, group 12 4, group 16 4, group 20 12]

/-! ## Reading a formatted UUID -/

theorem hexDigit_hexChar {n : Nat} (h : n < 16) : hexDigit (hexChar n) = some n := by
  have hall : ∀ n < 16, hexDigit (hexChar n) = some n := by decide
  exact hall n h

/-- The digits of `n` from position `k` down. -/
def hexDigits (k n : Nat) : List Char :=
  (List.range k).map fun i => hexChar (n / 16 ^ (k - 1 - i) % 16)

theorem hexDigits_succ (k n : Nat) :
    hexDigits (k + 1) n = hexDigits k (n / 16) ++ [hexChar (n % 16)] := by
  unfold hexDigits
  rw [List.range_succ, List.map_append, List.map_singleton]
  congr 1
  · apply List.map_congr_left
    intro i hi
    have hlt := List.mem_range.1 hi
    rw [Nat.div_div_eq_div_mul, ← Nat.pow_succ',
      show k + 1 - 1 - i = k - 1 - i + 1 by omega]
  · simp

@[simp] theorem length_hexDigits (k n : Nat) : (hexDigits k n).length = k := by
  simp [hexDigits]

theorem isSome_hexDigit_of_mem {c : Char} {k n : Nat} (h : c ∈ hexDigits k n) :
    (hexDigit c).isSome = true := by
  obtain ⟨i, -, rfl⟩ := List.mem_map.1 h
  rw [hexDigit_hexChar (Nat.mod_lt _ (by decide))]
  rfl

/-- Reading the digits gives the number back, up to the positions there are. -/
theorem mapM_hexDigits (k n : Nat) :
    ((hexDigits k n).mapM hexDigit).map (fun ds => ds.foldl (fun n d => 16 * n + d) 0) =
      some (n % 16 ^ k) := by
  induction k generalizing n with
  | zero => simp [hexDigits, Nat.mod_one]
  | succ k ih =>
      obtain ⟨ds, hds, hvalue⟩ := Option.map_eq_some_iff.1 (ih (n / 16))
      have hlast : ([hexChar (n % 16)].mapM hexDigit : Option (List Nat)) = some [n % 16] := by
        rw [List.mapM_cons, hexDigit_hexChar (Nat.mod_lt n (by decide))]
        rfl
      have hread : (hexDigits (k + 1) n).mapM hexDigit = some (ds ++ [n % 16]) := by
        rw [hexDigits_succ, List.mapM_append, hds, hlast]
        rfl
      have hsplit : n % 16 ^ (k + 1) = n % 16 + 16 * (n / 16 % 16 ^ k) := by
        rw [Nat.pow_succ', Nat.mod_mul]
      rw [hread, Option.map_some, List.foldl_append, hvalue, List.foldl_cons, List.foldl_nil,
        hsplit, Nat.add_comm]

theorem take_append_drop_add (ds : List Char) (a b : Nat) :
    (ds.drop a).take b ++ ds.drop (a + b) = ds.drop a := by
  rw [← List.drop_drop, List.take_append_drop]

theorem toList_formatUuid (u : Uuid) :
    (formatUuid u).toList = (hexDigits 32 u.toNat).take 8 ++ '-' ::
      (((hexDigits 32 u.toNat).drop 8).take 4 ++ '-' ::
        (((hexDigits 32 u.toNat).drop 12).take 4 ++ '-' ::
          (((hexDigits 32 u.toNat).drop 16).take 4 ++ '-' ::
            ((hexDigits 32 u.toNat).drop 20).take 12))) := by
  have hdash : ("-" : String).toList = ['-'] := rfl
  simp only [formatUuid, PyStr.join, String.toList_append, String.toList_ofList, hdash,
    List.append_assoc, List.singleton_append, List.drop_zero]
  rfl

theorem filter_toList_formatUuid (u : Uuid) :
    (formatUuid u).toList.filter (· != '-') = hexDigits 32 u.toNat := by
  have hkeep : ∀ ds : List Char, (∀ c ∈ ds, c ∈ hexDigits 32 u.toNat) →
      ds.filter (· != '-') = ds := by
    intro ds hds
    rw [List.filter_eq_self]
    intro c hc
    have hdigit := isSome_hexDigit_of_mem (hds c hc)
    rw [bne_iff_ne]
    rintro rfl
    revert hdigit
    decide
  have htake : ∀ a b : Nat, (((hexDigits 32 u.toNat).drop a).take b).filter (· != '-') =
      ((hexDigits 32 u.toNat).drop a).take b := fun a b =>
    hkeep _ fun c hc => List.mem_of_mem_drop (List.mem_of_mem_take hc)
  have hfirst := htake 0 8
  rw [List.drop_zero] at hfirst
  have hdash : (('-' : Char) != '-') = false := rfl
  have hend : ((hexDigits 32 u.toNat).drop 20).take 12 = (hexDigits 32 u.toNat).drop 20 :=
    List.take_of_length_le (by simp)
  have hstart := take_append_drop_add (hexDigits 32 u.toNat) 0 8
  rw [List.drop_zero, Nat.zero_add] at hstart
  rw [toList_formatUuid]
  simp only [List.filter_append, List.filter_cons, hdash, Bool.false_eq_true, if_false, hfirst,
    htake]
  rw [hend, take_append_drop_add _ 16 4, take_append_drop_add _ 12 4, take_append_drop_add _ 8 4,
    hstart]

/-- A character that is neither a digit nor a hyphen is not in a formatted UUID. -/
theorem notMem_formatUuid {c : Char} (u : Uuid) (hdigit : hexDigit c = none) (hdash : c ≠ '-') :
    c ∉ (formatUuid u).toList := by
  intro hmem
  have hkept : c ∈ (formatUuid u).toList.filter (· != '-') :=
    List.mem_filter.2 ⟨hmem, by rwa [bne_iff_ne]⟩
  rw [filter_toList_formatUuid] at hkept
  have hsome := isSome_hexDigit_of_mem hkept
  rw [hdigit] at hsome
  cases hsome

/-- `uuid.UUID(str(u))` is `u`. -/
theorem parseUuid_formatUuid (u : Uuid) : parseUuid (formatUuid u) = some u := by
  have hu : 'u' ∉ (formatUuid u).toList := notMem_formatUuid u (by decide) (by decide)
  have hbraces : ∀ c ∈ (formatUuid u).toList, (c == '\x7b' || c == '\x7d') = false := by
    intro c hc
    rw [Bool.or_eq_false_iff, beq_eq_false_iff_ne, beq_eq_false_iff_ne]
    constructor
    · rintro rfl
      exact notMem_formatUuid u (by decide) (by decide) hc
    · rintro rfl
      exact notMem_formatUuid u (by decide) (by decide) hc
  have hread := mapM_hexDigits 32 u.toNat
  obtain ⟨ds, hds, hvalue⟩ := Option.map_eq_some_iff.1 hread
  have hlt : u.toNat % 16 ^ 32 = u.toNat := Nat.mod_eq_of_lt u.isLt
  have hurn : PyStr.removeAll "urn:" (formatUuid u).toList = (formatUuid u).toList :=
    PyStr.removeAll_of_notMem (by decide) hu
  have huuid : PyStr.removeAll "uuid:" (formatUuid u).toList = (formatUuid u).toList :=
    PyStr.removeAll_of_notMem (by decide) hu
  simp only [parseUuid, hurn, huuid, PyStr.trimEnds_of_forall hbraces, filter_toList_formatUuid,
    length_hexDigits, if_true, hds, Option.map_some, hvalue, hlt, BitVec.ofNat_toNat,
    BitVec.setWidth_eq]

theorem formatUuid_injective {u v : Uuid} (h : formatUuid u = formatUuid v) : u = v := by
  have hu := parseUuid_formatUuid u
  rw [h, parseUuid_formatUuid] at hu
  exact (Option.some.inj hu).symm

/-! ## Draws -/

/-- The strings `str(uuid.uuid4())` returns, by the number of the draw.  They
are pairwise distinct and free of colons, and have the 36 characters of a UUID;
as the draws are unbounded, more are allowed. -/
structure UuidSupply where
  gen : Nat → String
  gen_injective : ∀ {i j}, gen i = gen j → i = j
  le_length_gen : ∀ i, 36 ≤ (gen i).toList.length
  colon_notMem_gen : ∀ i, ':' ∉ (gen i).toList

namespace UuidSupply

/-- A key that starts with a fresh UUID and a colon is no key that starts with
another word and a colon: the UUID runs past that word. -/
theorem gen_append_colon_ne (u : UuidSupply) (i : Nat) (word rest rest' : String)
    (hword : word.toList.length < 36) :
    u.gen i ++ ":" ++ rest ≠ word ++ ":" ++ rest' := by
  intro h
  have hlist := congrArg String.toList h
  simp only [String.toList_append] at hlist
  have hat := congrArg (fun cs => cs[word.toList.length]?) hlist
  have hlen := u.le_length_gen i
  have hleft : word.toList.length < (u.gen i).toList.length := by omega
  simp only [List.append_assoc] at hat
  rw [List.getElem?_append_left hleft, List.getElem?_append_right (Nat.le_refl _),
    Nat.sub_self] at hat
  have hcolon : (":".toList ++ rest'.toList)[0]? = some ':' := rfl
  rw [hcolon] at hat
  exact u.colon_notMem_gen i (List.mem_of_getElem? hat)

/-- A supply that counts in unary. -/
def unary : UuidSupply where
  gen i := String.ofList (List.replicate (36 + i) '0')
  gen_injective := by
    intro i j h
    have hlength := congrArg (fun s => s.toList.length) h
    simp only [String.toList_ofList, List.length_replicate] at hlength
    omega
  le_length_gen := by
    intro i
    simp
  colon_notMem_gen := by
    intro i
    simp

end UuidSupply

end Iara.Lib
