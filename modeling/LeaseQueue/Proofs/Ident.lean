import LeaseQueue.Ident
import LeaseQueue.Proofs.Text.Digits

/-!
# Identifiers that are read back

An identifier is read back from its written form (`Ident.ofText?_text`): cutting digits into groups
loses none of them, and thirty-two hexadecimal digits hold every number of 128 bits.  Numbers of that
size name distinct identifiers (`Ident.ofNat_inj`).
-/

namespace LeaseQueue.Ident

/-- Digits that were cut into groups are put together again. -/
lemma ungroup?_hyphenated {ns : List ℕ} {ds : List Char} (h : ds.length = ns.sum) :
    ungroup? ns (hyphenated ns ds) = some ds := by
  induction ns generalizing ds with
  | nil =>
    obtain rfl : ds = [] := List.length_eq_zero_iff.1 h
    rfl
  | cons n ns ih =>
    rw [List.sum_cons] at h
    have hlength : (ds.take n).length = n := by
      rw [List.length_take]
      omega
    have hrest : ungroup? ns (hyphenated ns (ds.drop n)) = some (ds.drop n) := by
      refine ih ?_
      rw [List.length_drop]
      omega
    show (let cs := ds.take n ++ hyphenated ns (ds.drop n)
      if (cs.take n).length = n then (ungroup? ns (cs.drop n)).map (cs.take n ++ ·) else none) = _
    dsimp only
    rw [List.take_left' hlength, List.drop_left' hlength, if_pos hlength, hrest]
    exact congrArg some (List.take_append_drop n ds)

/-- Each group has a hyphen before it. -/
lemma length_hyphenated {ns : List ℕ} {ds : List Char} (h : ds.length = ns.sum) :
    (hyphenated ns ds).length = ns.length + ns.sum := by
  induction ns generalizing ds with
  | nil => rfl
  | cons n ns ih =>
    rw [List.sum_cons] at h
    have hrest : (hyphenated ns (ds.drop n)).length = ns.length + ns.sum := by
      refine ih ?_
      rw [List.length_drop]
      omega
    rw [hyphenated, List.length_append, List.length_cons, hrest, List.length_take, List.length_cons,
      List.sum_cons]
    omega

/-- Identifiers of small numbers are distinct. -/
lemma ofNat_inj {m n : ℕ} (hm : m < Nat.pow 2 128) (hn : n < Nat.pow 2 128)
    (h : ofNat m = ofNat n) : m = n := by
  have hvalue : m % Nat.pow 2 128 = n % Nat.pow 2 128 := congrArg value h
  rwa [Nat.mod_eq_of_lt hm, Nat.mod_eq_of_lt hn] at hvalue

/-- The digits of an identifier stand for it. -/
lemma ofDigits?_hexFixed (i : Ident) : ofDigits? (Digits.hexFixed 32 i.value) = some i := by
  have hfits : i.value < Nat.pow 16 32 := i.value_lt
  unfold ofDigits?
  rw [if_pos (Digits.length_hexFixed 32 i.value), Digits.hexToNat?_hexFixed hfits]
  exact congrArg some (Ident.ext (Nat.mod_eq_of_lt i.value_lt))

/-- An identifier is read back. -/
theorem ofText?_text (i : Ident) : ofText? i.text = some i := by
  have hsum : (Digits.hexFixed 32 i.value).length = groups.sum := Digits.length_hexFixed 32 i.value
  have hwrite : '-' :: i.write = hyphenated groups (Digits.hexFixed 32 i.value) := rfl
  have hlength : i.write.length = 36 := by
    have hhyphenated := length_hyphenated hsum
    rw [← hwrite] at hhyphenated
    exact Nat.succ.inj hhyphenated
  unfold ofText? text read? readGrouped?
  rw [String.toList_ofList, hlength, if_neg (by decide), if_pos rfl, hwrite,
    ungroup?_hyphenated hsum, Option.bind_some, ofDigits?_hexFixed]

end LeaseQueue.Ident
