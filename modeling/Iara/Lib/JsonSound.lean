import Iara.Lib.JsonLoads

/-!
# What a JSON text is read as

Every value that `json.loads` returns, of any text, can be written again and read back; a
value that has been loaded once survives any number of hops.  The fuel of the scanner is no
part of what it returns.
-/

namespace Iara.Lib

namespace JsonText

/-! ## Values that are read -/

theorem isDigit_of_mem_scanWhole {cs whole rest : List Char}
    (h : scanWhole cs = .ok (whole, rest)) : ∀ c ∈ whole, c.isDigit = true := by
  cases cs with
  | nil => cases h
  | cons c cs =>
      rw [scanWhole] at h
      split at h
      next =>
        cases h
        intro d hd
        rw [List.mem_singleton.1 hd]
        rfl
      next =>
        split at h
        next =>
          have hwhole : (scanDigits (c :: cs)).1 = whole := by rw [Except.ok.inj h]
          intro d hd
          rw [← hwhole] at hd
          exact List.mem_takeWhile_imp hd
        next => cases h

theorem ofDigitChars_lt {ds : List Char} (h : ∀ c ∈ ds, c.isDigit = true) :
    Nat.ofDigitChars 10 ds 0 < 10 ^ ds.length := by
  induction ds with
  | nil => decide
  | cons c ds ih =>
      have hvalue : c.toNat - '0'.toNat ≤ 9 := by
        have hdigit := h c List.mem_cons_self
        simp only [Char.isDigit, Bool.and_eq_true, decide_eq_true_eq] at hdigit
        have hle : c.toNat ≤ 57 := hdigit.2
        have hzero : '0'.toNat = 48 := rfl
        omega
      have htail := ih fun d hd => h d (List.mem_cons_of_mem c hd)
      have hhead : 10 ^ ds.length * (c.toNat - '0'.toNat) ≤ 10 ^ ds.length * 9 :=
        Nat.mul_le_mul_left _ hvalue
      rw [Nat.ofDigitChars_cons, Nat.mul_zero, Nat.zero_add, Nat.ofDigitChars_eq_ofDigitChars_zero,
        List.length_cons, Nat.pow_succ]
      omega

variable {floats : PyFloat}

theorem loadable_scanNumber {cs rest : List Char} {value : Json}
    (h : scanNumber floats cs = .ok (value, rest)) : Loadable floats value := by
  unfold scanNumber at h
  obtain ⟨⟨literal, rest'⟩, hscan, h⟩ := bind_eq_ok h
  obtain ⟨value', hvalue, h⟩ := bind_eq_ok h
  cases h
  obtain ⟨afterWhole, hwhole, -⟩ := scanLiteral_inv hscan
  unfold Literal.value at hvalue
  split at hvalue
  next =>
    cases hvalue
    exact loadable_real (floats.stable _)
  next =>
    split at hvalue
    next hlength =>
      cases hvalue
      apply loadable_num
      have hlt := ofDigitChars_lt (isDigit_of_mem_scanWhole hwhole)
      have hrepr : (Nat.ofDigitChars 10 literal.whole 0).repr.length ≤ maxStrDigits :=
        (Nat.length_repr_le_iff (by decide)).2
          (Nat.lt_of_lt_of_le hlt (Nat.pow_le_pow_right (by decide) hlength))
      split
      · rw [Int.natAbs_neg, Int.natAbs_natCast]
        exact hrepr
      · rw [Int.natAbs_natCast]
        exact hrepr
    next => cases hvalue

theorem loadable_names {name : String} {value : Json} (h : (name, value) ∈ names) :
    Loadable floats value := by
  simp only [names, List.mem_cons, Prod.mk.injEq, List.not_mem_nil, or_false] at h
  rcases h with ⟨-, rfl⟩ | ⟨-, rfl⟩ | ⟨-, rfl⟩ | ⟨-, rfl⟩ | ⟨-, rfl⟩ | ⟨-, rfl⟩
  · exact loadable_null
  · exact loadable_bool true
  · exact loadable_bool false
  · exact loadable_real (.inl (by decide))
  · exact loadable_real (.inl (by decide))
  · exact loadable_real (.inl (by decide))

section Members

variable {α : Type} {scan : List Char → Except String (α × List Char)} {close : Char}
  {fuel : Nat} {cs rest : List Char} {xs : List α}

theorem forall_scanMembers {P : α → Prop} (hscan : ∀ cs x rest, scan cs = .ok (x, rest) → P x)
    (h : scanMembers scan close fuel cs = .ok (xs, rest)) : ∀ x ∈ xs, P x := by
  induction fuel generalizing cs xs with
  | zero => cases h
  | succ fuel ih =>
      obtain ⟨x, afterFirst, hfirst, ⟨-, rfl⟩ | ⟨next, ys, -, hmore, rfl⟩⟩ := scanMembers_inv h
      · exact List.forall_mem_singleton.2 (hscan _ _ _ hfirst)
      · exact List.forall_mem_cons.2 ⟨hscan _ _ _ hfirst, ih hmore⟩

/-- How the members of a bracket come about. -/
theorem scanBracket_inv (h : scanBracket scan close fuel cs = .ok (xs, rest)) :
    (skipSpace cs = close :: rest ∧ xs = []) ∨
      scanMembers scan close fuel (skipSpace cs) = .ok (xs, rest) := by
  unfold scanBracket at h
  split at h
  next => cases h
  next c w hskip =>
    split at h
    next hclose =>
      cases h
      exact .inl ⟨by rw [hskip, hclose], rfl⟩
    next => exact .inr (hskip ▸ h)

theorem forall_scanBracket {P : α → Prop} (hscan : ∀ cs x rest, scan cs = .ok (x, rest) → P x)
    (h : scanBracket scan close fuel cs = .ok (xs, rest)) : ∀ x ∈ xs, P x := by
  rcases scanBracket_inv h with ⟨-, rfl⟩ | hmembers
  · exact List.forall_mem_nil P
  · exact forall_scanMembers hscan hmembers

/-- How an entry comes about. -/
theorem scanEntry_inv {entry : String × α} (h : scanEntry scan fuel cs = .ok (entry, rest)) :
    ∃ body key afterKey afterColon, cs = '\x22' :: body ∧
      scanString fuel body = .ok (key, afterKey) ∧ skipSpace afterKey = ':' :: afterColon ∧
      scan (skipSpace afterColon) = .ok (entry.2, rest) := by
  cases cs with
  | nil => cases h
  | cons c body =>
      rw [scanEntry] at h
      split at h
      next hquote =>
        obtain ⟨⟨key, afterKey⟩, hkey, h⟩ := bind_eq_ok h
        obtain ⟨⟨mark, afterColon⟩, hmark, h⟩ := bind_eq_ok h
        dsimp only at h
        split at h
        next hcolon =>
          obtain ⟨⟨value, afterValue⟩, hvalue, h⟩ := bind_eq_ok h
          cases h
          refine ⟨body, key, afterKey, afterColon, by rw [hquote], hkey, ?_, hvalue⟩
          unfold nextMark at hmark
          split at hmark
          next => cases hmark
          next heq =>
            cases hmark
            rw [heq, hcolon]
        next => cases h
      next => cases h

end Members

theorem scanAtom_inv {cs rest : List Char} {value : Json}
    (h : scanAtom floats cs = .ok (value, rest)) :
    (∃ name, (name, value) ∈ names ∧ rest = cs.drop name.toList.length) ∨
      scanNumber floats cs = .ok (value, rest) := by
  unfold scanAtom at h
  split at h
  next name found hfind =>
    cases h
    exact .inl ⟨name, List.mem_of_find?_eq_some hfind, rfl⟩
  next => exact .inr h

/-- How a value comes about, by the character it starts with. -/
theorem scanValue_inv {fuel : Nat} {cs rest : List Char} {value : Json}
    (h : scanValue floats fuel cs = .ok (value, rest)) :
    ∃ bound c body, fuel = bound + 1 ∧ cs = c :: body ∧
      ((∃ s, scanString bound body = .ok (s, rest) ∧ value = .str (String.ofList s)) ∨
        (∃ items, scanBracket (scanValue floats bound) ']' bound body = .ok (items, rest) ∧
          value = .arr items) ∨
        (∃ entries, scanBracket (scanEntry (scanValue floats bound) bound) '\x7d' bound body =
          .ok (entries, rest) ∧ value = .obj (toDict entries)) ∨
        scanAtom floats cs = .ok (value, rest)) := by
  cases cs with
  | nil => rw [scanValue] at h; cases h
  | cons c body =>
      cases fuel with
      | zero => cases h
      | succ bound =>
          refine ⟨bound, c, body, rfl, rfl, ?_⟩
          rw [scanValue] at h
          split at h
          next =>
            obtain ⟨⟨s, afterString⟩, hscan, h⟩ := bind_eq_ok h
            cases h
            exact .inl ⟨s, hscan, rfl⟩
          next =>
            split at h
            next =>
              obtain ⟨⟨items, afterItems⟩, hscan, h⟩ := bind_eq_ok h
              cases h
              exact .inr (.inl ⟨items, hscan, rfl⟩)
            next =>
              split at h
              next =>
                obtain ⟨⟨entries, afterEntries⟩, hscan, h⟩ := bind_eq_ok h
                cases h
                exact .inr (.inr (.inl ⟨entries, hscan, rfl⟩))
              next => exact .inr (.inr (.inr h))

theorem loadable_of_scanValue {fuel : Nat} {cs rest : List Char} {value : Json}
    (h : scanValue floats fuel cs = .ok (value, rest)) : Loadable floats value := by
  induction fuel generalizing cs value rest with
  | zero =>
      obtain ⟨bound, c, body, hfuel, -⟩ := scanValue_inv h
      cases hfuel
  | succ fuel ih =>
      obtain ⟨bound, c, body, hfuel, rfl, hcases⟩ := scanValue_inv h
      obtain rfl := Nat.succ.inj hfuel
      rcases hcases with ⟨s, -, rfl⟩ | ⟨items, hitems, rfl⟩ | ⟨entries, hentries, rfl⟩ | hatom
      · exact loadable_str _
      · exact loadable_arr (forall_scanBracket (fun cs x rest => ih) hitems)
      · have hmembers := forall_scanBracket (P := fun entry => Loadable floats entry.2)
          (fun cs entry rest hentry => by
            obtain ⟨_, _, _, _, -, -, -, hvalue⟩ := scanEntry_inv hentry
            exact ih hvalue) hentries
        obtain ⟨hnodup, hmem⟩ := toDict_spec entries
        exact loadable_obj hnodup fun entry hentry => hmembers entry (hmem entry hentry)
      · rcases scanAtom_inv hatom with ⟨name, hname, -⟩ | hnumber
        · exact loadable_names hname
        · exact loadable_scanNumber hnumber

/-- Whatever text it is read of, a value can be written and read back. -/
theorem loadable_of_loads {text : String} {value : Json} (h : loads floats text = .ok value) :
    Loadable floats value := by
  unfold loads at h
  obtain ⟨⟨found, rest⟩, hscan, h⟩ := bind_eq_ok h
  dsimp only at h
  split at h
  next =>
    cases h
    exact loadable_of_scanValue hscan
  next => cases h

/-! ## Fuel -/

/-- Every reading takes a character at least. -/
def Shrinks {α : Type} (scan : List Char → Except String (α × List Char)) : Prop :=
  ∀ cs x rest, scan cs = .ok (x, rest) → rest.length < cs.length

theorem length_skipSpace_le (cs : List Char) : (skipSpace cs).length ≤ cs.length :=
  List.length_dropWhile_le _ cs

theorem length_of_nextMark {cs rest : List Char} {mark : Char}
    (h : nextMark cs = .ok (mark, rest)) : rest.length < cs.length := by
  have hle := length_skipSpace_le cs
  unfold nextMark at h
  split at h
  next => cases h
  next heq =>
    cases h
    rw [heq, List.length_cons] at hle
    omega

theorem shrinks_readUnit : Shrinks readUnit := by
  intro cs n rest h
  unfold readUnit at h
  split at h
  next hlength =>
    split at h
    next =>
      cases h
      rw [List.length_drop]
      omega
    next => cases h
  next => cases h

theorem shrinks_readUnicode : Shrinks readUnicode := by
  intro cs c rest h
  unfold readUnicode at h
  obtain ⟨⟨unit, afterUnit⟩, hunit, h⟩ := bind_eq_ok h
  have hlt := shrinks_readUnit _ _ _ hunit
  dsimp only at h
  split at h
  next =>
    unfold readLow at h
    split at h
    next body =>
      obtain ⟨⟨low, afterLow⟩, hlow, h⟩ := bind_eq_ok h
      have hlow' := shrinks_readUnit _ _ _ hlow
      dsimp only at h
      split at h
      next =>
        obtain ⟨-, rfl⟩ := Prod.mk.inj (Except.ok.inj h)
        rw [List.length_cons, List.length_cons] at hlt
        omega
      next => cases h
    next => cases h
  next =>
    split at h
    next => cases h
    next =>
      cases h
      exact hlt

theorem shrinks_readEscape : Shrinks readEscape := by
  intro cs c rest h
  cases cs with
  | nil => cases h
  | cons mark cs =>
      have hcons : ∀ {d : Char}, Except.ok (d, cs) = (.ok (c, rest) : Except String _) →
          rest.length < (mark :: cs).length := by
        intro d heq
        cases heq
        exact Nat.lt_succ_self _
      rw [readEscape] at h
      split at h
      next => exact hcons h
      next =>
        split at h
        next => exact hcons h
        next =>
          split at h
          next => exact hcons h
          next =>
            split at h
            next => exact hcons h
            next =>
              split at h
              next => exact hcons h
              next =>
                split at h
                next => exact hcons h
                next =>
                  split at h
                  next => exact Nat.lt_succ_of_lt (shrinks_readUnicode _ _ _ h)
                  next => cases h

theorem shrinks_scanString (fuel : Nat) : Shrinks (scanString fuel) := by
  induction fuel with
  | zero =>
      intro cs s rest h
      cases cs <;> cases h
  | succ fuel ih =>
      intro cs s rest h
      cases cs with
      | nil => cases h
      | cons c cs =>
          rw [scanString] at h
          rw [List.length_cons]
          split at h
          next =>
            cases h
            exact Nat.lt_succ_self _
          next =>
            split at h
            next =>
              obtain ⟨⟨d, afterEscape⟩, hescape, h⟩ := bind_eq_ok h
              obtain ⟨⟨ds, afterRest⟩, hrest, h⟩ := bind_eq_ok h
              cases h
              have hlt := shrinks_readEscape _ _ _ hescape
              have hlt' := ih _ _ _ hrest
              omega
            next =>
              split at h
              next => cases h
              next =>
                obtain ⟨⟨ds, afterRest⟩, hrest, h⟩ := bind_eq_ok h
                cases h
                exact Nat.lt_succ_of_lt (ih _ _ _ hrest)

theorem shrinks_scanNumber : Shrinks (scanNumber floats) := by
  intro cs value rest h
  unfold scanNumber at h
  obtain ⟨⟨literal, rest'⟩, hscan, h⟩ := bind_eq_ok h
  obtain ⟨value', -, h⟩ := bind_eq_ok h
  cases h
  obtain ⟨afterWhole, hwhole, -⟩ := scanLiteral_inv hscan
  have htext := congrArg List.length (text_append hscan)
  have hpos : 0 < literal.whole.length := by
    rw [List.length_pos_iff]
    intro hnil
    rw [hnil] at hwhole
    unfold scanWhole at hwhole
    split at hwhole
    next => cases hwhole
    next =>
      split at hwhole
      next => cases hwhole
      next =>
        split at hwhole
        next hdigit =>
          have hempty := congrArg Prod.fst (Except.ok.inj hwhole)
          unfold scanDigits at hempty
          rw [List.takeWhile_cons, if_pos hdigit] at hempty
          cases hempty
        next => cases hwhole
  rw [Literal.text, String.toList_ofList, List.length_append, List.length_append,
    List.length_append] at htext
  omega

theorem shrinks_scanAtom : Shrinks (scanAtom floats) := by
  intro cs value rest h
  cases cs with
  | nil => cases h
  | cons c cs =>
      rcases scanAtom_inv h with ⟨name, hname, rfl⟩ | hnumber
      · have hpos : 0 < name.toList.length := by
          simp only [names, List.mem_cons, Prod.mk.injEq, List.not_mem_nil, or_false] at hname
          rcases hname with ⟨rfl, -⟩ | ⟨rfl, -⟩ | ⟨rfl, -⟩ | ⟨rfl, -⟩ | ⟨rfl, -⟩ | ⟨rfl, -⟩ <;>
            decide
        rw [List.length_drop, List.length_cons]
        omega
      · exact shrinks_scanNumber _ _ _ hnumber

section Members

variable {α : Type} {scan scan' : List Char → Except String (α × List Char)} {close : Char}

theorem shrinks_scanMembers (hscan : Shrinks scan) (fuel : Nat) :
    Shrinks (scanMembers scan close fuel) := by
  induction fuel with
  | zero =>
      intro cs xs rest h
      cases h
  | succ fuel ih =>
      intro cs xs rest h
      obtain ⟨x, afterFirst, hfirst, ⟨hmark, rfl⟩ | ⟨next, ys, hmark, hmore, rfl⟩⟩ :=
        scanMembers_inv h
      · have hlt := hscan _ _ _ hfirst
        have hle := length_skipSpace_le afterFirst
        rw [hmark, List.length_cons] at hle
        omega
      · have hlt := hscan _ _ _ hfirst
        have hle := length_skipSpace_le afterFirst
        rw [hmark, List.length_cons] at hle
        have hle' := length_skipSpace_le next
        have hlt' := ih _ _ _ hmore
        omega

theorem shrinks_scanBracket (hscan : Shrinks scan) (fuel : Nat) :
    Shrinks (scanBracket scan close fuel) := by
  intro cs xs rest h
  have hle := length_skipSpace_le cs
  rcases scanBracket_inv h with ⟨hmark, rfl⟩ | hmembers
  · rw [hmark, List.length_cons] at hle
    omega
  · have hlt := shrinks_scanMembers hscan fuel _ _ _ hmembers
    omega

theorem shrinks_scanEntry (hscan : Shrinks scan) (fuel : Nat) :
    Shrinks (scanEntry scan fuel) := by
  intro cs entry rest h
  obtain ⟨body, key, afterKey, afterColon, rfl, hkey, hmark, hvalue⟩ := scanEntry_inv h
  have hlt := shrinks_scanString fuel _ _ _ hkey
  have hle := length_skipSpace_le afterKey
  rw [hmark, List.length_cons] at hle
  have hle' := length_skipSpace_le afterColon
  have hlt' := hscan _ _ _ hvalue
  rw [List.length_cons]
  omega

/-- The readers agree on every text of no more than `bound` characters. -/
def AgreeUpTo (bound : Nat) (scan scan' : List Char → Except String (α × List Char)) : Prop :=
  ∀ cs : List Char, cs.length ≤ bound → scan cs = scan' cs

theorem bind_ok_congr {β γ ε : Type} {x : Except ε β} {f g : β → Except ε γ}
    (h : ∀ b, x = .ok b → f b = g b) : x >>= f = x >>= g := by
  cases x with
  | error e => rfl
  | ok b => exact h b rfl

theorem scanMembers_fuel {bound fuel fuel' : Nat} {cs : List Char} (hscan : Shrinks scan)
    (hagree : AgreeUpTo bound scan scan') (hbound : cs.length ≤ bound)
    (hfuel : 0 < fuel ∧ cs.length ≤ fuel) (hfuel' : 0 < fuel' ∧ cs.length ≤ fuel') :
    scanMembers scan close fuel cs = scanMembers scan' close fuel' cs := by
  induction fuel generalizing fuel' cs with
  | zero => omega
  | succ fuel ih =>
      cases fuel' with
      | zero => omega
      | succ fuel' =>
          rw [scanMembers, scanMembers, ← hagree cs hbound]
          apply bind_ok_congr
          rintro ⟨x, rest⟩ hfirst
          apply bind_ok_congr
          rintro ⟨mark, afterMark⟩ hmark
          have hlt := hscan _ _ _ hfirst
          have hlt' := length_of_nextMark hmark
          have hle := length_skipSpace_le afterMark
          have hmore : scanMembers scan close fuel (skipSpace afterMark) =
              scanMembers scan' close fuel' (skipSpace afterMark) :=
            ih (by omega) (by omega) (by omega)
          dsimp only
          rw [hmore]

theorem scanBracket_fuel {bound fuel fuel' : Nat} {cs : List Char} (hscan : Shrinks scan)
    (hagree : AgreeUpTo bound scan scan') (hbound : cs.length ≤ bound) (hfuel : cs.length ≤ fuel)
    (hfuel' : cs.length ≤ fuel') :
    scanBracket scan close fuel cs = scanBracket scan' close fuel' cs := by
  have hle := length_skipSpace_le cs
  unfold scanBracket
  split
  next => rfl
  next c rest hskip =>
    rw [hskip] at hle
    have hpos : 0 < (c :: rest).length := Nat.succ_pos _
    have hmembers : scanMembers scan close fuel (c :: rest) =
        scanMembers scan' close fuel' (c :: rest) :=
      scanMembers_fuel hscan hagree (hle.trans hbound) (by omega) (by omega)
    rw [hmembers]

theorem scanString_fuel {fuel fuel' : Nat} {cs : List Char} (hfuel : cs.length ≤ fuel)
    (hfuel' : cs.length ≤ fuel') : scanString fuel cs = scanString fuel' cs := by
  induction fuel generalizing fuel' cs with
  | zero =>
      obtain rfl := List.length_eq_zero_iff.1 (Nat.le_zero.1 hfuel)
      cases fuel' <;> rfl
  | succ fuel ih =>
      cases cs with
      | nil => cases fuel' <;> rfl
      | cons c cs =>
          cases fuel' with
          | zero => cases hfuel'
          | succ fuel' =>
              rw [List.length_cons] at hfuel hfuel'
              have hescape : ∀ d rest, readEscape cs = .ok (d, rest) →
                  scanString fuel rest = scanString fuel' rest := by
                intro d rest hread
                have hlt := shrinks_readEscape _ _ _ hread
                exact ih (by omega) (by omega)
              have hplain : scanString fuel cs = scanString fuel' cs := ih (by omega) (by omega)
              rw [scanString, scanString, hplain]
              split
              next => rfl
              next =>
                split
                next =>
                  apply bind_ok_congr
                  rintro ⟨d, rest⟩ hread
                  dsimp only
                  rw [hescape d rest hread]
                next => rfl

theorem scanEntry_fuel {bound fuel fuel' : Nat} {cs : List Char}
    (hagree : AgreeUpTo bound scan scan') (hbound : cs.length ≤ bound) (hfuel : cs.length ≤ fuel)
    (hfuel' : cs.length ≤ fuel') :
    scanEntry scan fuel cs = scanEntry scan' fuel' cs := by
  cases cs with
  | nil => rfl
  | cons c cs =>
      rw [List.length_cons] at hbound hfuel hfuel'
      have hstring : scanString fuel cs = scanString fuel' cs :=
        scanString_fuel (by omega) (by omega)
      rw [scanEntry, scanEntry, hstring]
      split
      next =>
        apply bind_ok_congr
        rintro ⟨key, afterKey⟩ hkey
        apply bind_ok_congr
        rintro ⟨mark, afterMark⟩ hmark
        have hlt := shrinks_scanString _ _ _ _ hkey
        have hlt' := length_of_nextMark hmark
        have hle := length_skipSpace_le afterMark
        dsimp only
        rw [hagree (skipSpace afterMark) (by omega)]
      next => rfl

end Members

theorem shrinks_scanValue (fuel : Nat) : Shrinks (scanValue floats fuel) := by
  induction fuel with
  | zero =>
      intro cs value rest h
      obtain ⟨bound, c, body, hfuel, -⟩ := scanValue_inv h
      cases hfuel
  | succ fuel ih =>
      intro cs value rest h
      obtain ⟨bound, c, body, hfuel, rfl, hcases⟩ := scanValue_inv h
      obtain rfl := Nat.succ.inj hfuel
      rw [List.length_cons]
      rcases hcases with ⟨s, hscan, -⟩ | ⟨items, hscan, -⟩ | ⟨entries, hscan, -⟩ | hatom
      · exact Nat.lt_succ_of_lt (shrinks_scanString _ _ _ _ hscan)
      · exact Nat.lt_succ_of_lt (shrinks_scanBracket ih _ _ _ _ hscan)
      · exact Nat.lt_succ_of_lt (shrinks_scanBracket (shrinks_scanEntry ih _) _ _ _ _ hscan)
      · exact shrinks_scanAtom _ _ _ hatom

/-- As much fuel as there are characters is enough: more of it changes nothing. -/
theorem scanValue_fuel {fuel fuel' : Nat} {cs : List Char} (hfuel : cs.length ≤ fuel)
    (hfuel' : cs.length ≤ fuel') : scanValue floats fuel cs = scanValue floats fuel' cs := by
  induction fuel generalizing fuel' cs with
  | zero =>
      obtain rfl := List.length_eq_zero_iff.1 (Nat.le_zero.1 hfuel)
      cases fuel' <;> rfl
  | succ fuel ih =>
      cases cs with
      | nil => cases fuel' <;> rfl
      | cons c cs =>
          cases fuel' with
          | zero => cases hfuel'
          | succ fuel' =>
              rw [List.length_cons] at hfuel hfuel'
              have hle : cs.length ≤ fuel := by omega
              have hle' : cs.length ≤ fuel' := by omega
              have hagree : AgreeUpTo cs.length (scanValue floats fuel) (scanValue floats fuel') :=
                fun ds hds => ih (hds.trans hle) (hds.trans hle')
              have hentry : AgreeUpTo cs.length (scanEntry (scanValue floats fuel) fuel)
                  (scanEntry (scanValue floats fuel') fuel') :=
                fun ds hds => scanEntry_fuel hagree hds (hds.trans hle) (hds.trans hle')
              rw [scanValue, scanValue, scanString_fuel hle hle',
                scanBracket_fuel (shrinks_scanValue fuel) hagree le_rfl hle hle',
                scanBracket_fuel (shrinks_scanEntry (shrinks_scanValue fuel) fuel) hentry le_rfl
                  hle hle']

end JsonText

end Iara.Lib
