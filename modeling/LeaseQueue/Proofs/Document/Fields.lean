import LeaseQueue.Document.Decode
import LeaseQueue.Proofs.Document.Reading
import LeaseQueue.Proofs.Ident
import LeaseQueue.Proofs.Time.Written

/-!
# Fields that are read back

A record is encoded field by field and decoded field by field.  Here are the decoders beside what
they decode: words, names, identifiers, instants and optional fields.  Apart from its documents a
record holds values that are read back whatever they are (`Value.Recovered`): strings, words, and
what is put together from these.
-/

namespace LeaseQueue

namespace Value

/-! ### Decoders -/

/-- An integer between the limits is decoded. -/
lemma asInteger?_ofInt {least greatest n : Int} (h : least ≤ n ∧ n ≤ greatest) :
    (ofInt n).asInteger? least greatest = some n := if_pos h

/-- A signed 32-bit word is decoded. -/
lemma asInt32?_ofInt (n : Int32) : (ofInt n.toInt).asInt32? = some n := by
  have hleast := n.le_toInt
  have hgreatest := n.toInt_lt
  unfold asInt32?
  rw [asInteger?_ofInt (by omega), Option.map_some, Int32.ofInt_toInt]

/-- An unsigned 32-bit word is decoded. -/
lemma asUInt32?_ofInt (n : UInt32) : (ofInt n.toNat).asUInt32? = some n := by
  have hlt := n.toNat_lt
  unfold asUInt32?
  rw [asInteger?_ofInt (by omega), Option.map_some, Int.toNat_natCast, UInt32.ofNat_toNat]

/-- A signed 64-bit word is decoded. -/
lemma asInt64?_ofInt (n : Int64) : (ofInt n.toInt).asInt64? = some n := by
  have hleast := n.le_toInt
  have hgreatest := n.toInt_lt
  unfold asInt64?
  rw [asInteger?_ofInt (by omega), Option.map_some, Int64.ofInt_toInt]

/-- An unsigned 64-bit word is decoded. -/
lemma asUInt64?_ofInt (n : UInt64) : (ofInt n.toNat).asUInt64? = some n := by
  have hlt := n.toNat_lt
  unfold asUInt64?
  rw [asInteger?_ofInt (by omega), Option.map_some, Int.toNat_natCast, UInt64.ofNat_toNat]

/-- An identifier is decoded. -/
lemma asIdent?_text (i : Ident) : (string i.text).asIdent? = some i := by
  unfold asIdent? asString?
  rw [Option.bind_some, Ident.ofText?_text]

/-- An instant outside of leap seconds is decoded. -/
lemma asInstant?_text {t : Instant} (ht : t.isLeap = false) :
    (string t.text).asInstant? = some t := by
  unfold asInstant? asString?
  rw [Option.bind_some, Instant.ofText?_text ht]

/-- Strings are decoded. -/
lemma asStrings?_map_string (xs : List String) : (array (xs.map string)).asStrings? = some xs := by
  induction xs with
  | nil => rfl
  | cons x xs ih =>
    unfold asStrings? asList? at ih ⊢
    dsimp only at ih ⊢
    rw [List.map_cons, List.mapM_cons, ih]
    rfl

end Value

namespace Document

/-- A field that has to be there is decoded. -/
lemma required_of_get? {α : Type} {d : Document} {name : String} {v : Value}
    {decode : Value → Option α} {a : α} (hdecode : decode v = some a)
    (hget : d.get? name = some v) : d.required name decode = some a := by
  unfold required
  rw [hget, Option.bind_some, hdecode]

/-- An optional field is decoded, if what it holds is not null. -/
lemma optional_ofOption {α : Type} {d : Document} {name : String} {f : α → Value}
    {decode : Value → Option α} {a : Option α} (hnull : ∀ x, f x ≠ .null)
    (hdecode : ∀ x ∈ a, decode (f x) = some x) (hget : d.get? name = some (.ofOption f a)) :
    d.optional name decode = some a := by
  unfold optional
  rw [hget]
  cases a with
  | none => rfl
  | some x =>
    dsimp only [Value.ofOption]
    split
    · rename_i hnone
      cases hnone
    · rename_i hsome
      exact absurd (Option.some.inj hsome) (hnull x)
    · rename_i hsome
      rw [← Option.some.inj hsome, hdecode x rfl, Option.map_some]

/-- A field that is kept is found, one that is left out is not. -/
lemma get?_filter (d : Document) (keep : String → Bool) (key : String) :
    get? (d.filter fun f => keep f.1) key = if keep key then d.get? key else none := by
  induction d with
  | nil =>
    rw [List.filter_nil]
    exact (ite_self none).symm
  | cons f rest ih =>
    obtain ⟨k, v⟩ := f
    rw [List.filter_cons, get?]
    by_cases hkey : k = key
    · rw [hkey, if_pos rfl]
      split_ifs with hkeep
      · rw [get?, if_pos rfl]
      · rw [ih, if_neg hkeep]
    · rw [if_neg hkey, ← ih]
      split_ifs
      · rw [get?, if_neg hkey]
      · rfl

end Document

/-! ### Values that are always read back -/

namespace Value

/-- A value that is read back as it is: it has no key twice, no number in it is misread, and there
are at most so many arrays and objects inside one another. -/
structure Recovered (depth : ℕ) (v : Value) : Prop where
  keyed : v.Keyed
  nested : v.Nested depth
  faithful : v.Faithful

/-- Such a value is read back. -/
lemma Recovered.ofText?_text {v : Value} (h : v.Recovered Reader.nestingLimit) :
    ofText? v.text = some v := by
  rw [Value.ofText?_text h.keyed h.nested]
  exact reread?_eq_self_iff.2 h.faithful

variable {depth : ℕ}

lemma recovered_null : Recovered depth .null := ⟨.null, .null depth, .null⟩

lemma recovered_string (s : String) : Recovered depth (.string s) :=
  ⟨.string s, .string depth s, .string s⟩

/-- An integer between limits is, if these are within the limits of integers in documents. -/
lemma recovered_ofInt {least bound n : Int} (hleast : least ≤ n) (hbound : n < bound)
    (hlow : Number.leastInteger ≤ least := by decide)
    (hhigh : bound ≤ Number.greatestInteger + 1 := by decide) : Recovered depth (ofInt n) := by
  have hreads : (Number.integer n).ReadsBack :=
    Number.readsBack_integer (Int.le_trans hlow hleast) (Int.le_of_lt_add_one (by omega))
  exact ⟨.number _, .number depth _, .number hreads⟩

/-- So is a natural number below a limit. -/
lemma recovered_ofNat {n bound : ℕ} (hbound : n < bound)
    (hhigh : (bound : Int) ≤ Number.greatestInteger + 1 := by decide) :
    Recovered depth (ofInt n) :=
  recovered_ofInt (Int.natCast_nonneg n) (Int.ofNat_lt.2 hbound) (by decide) hhigh

lemma recovered_ofOption {α : Type} {f : α → Value} (hf : ∀ x, Recovered depth (f x))
    (a : Option α) : Recovered depth (ofOption f a) := by
  cases a with
  | none => exact recovered_null
  | some x => exact hf x

lemma recovered_array {items : List Value} (h : ∀ v ∈ items, Recovered depth v) :
    Recovered (depth + 1) (.array items) :=
  ⟨.array fun v hv => (h v hv).keyed, .array fun v hv => (h v hv).nested,
    .array fun v hv => (h v hv).faithful⟩

lemma recovered_object {fields : Document} (hkeys : (fields.map Prod.fst).Nodup)
    (h : ∀ f ∈ fields, Recovered depth f.2) : Recovered (depth + 1) (.object fields) :=
  ⟨.object hkeys fun f hf => (h f hf).keyed, .object fun f hf => (h f hf).nested,
    .object fun f hf => (h f hf).faithful⟩

/-- Fields that are left out do no harm. -/
lemma recovered_filter {fields : Document} (h : Recovered (depth + 1) (.object fields))
    (keep : String × Value → Bool) : Recovered (depth + 1) (.object (fields.filter keep)) := by
  obtain ⟨hkeys, -⟩ := h.keyed.fields
  have hfields : ∀ f ∈ fields, Recovered depth f.2 := by
    obtain ⟨hkeyed, hnested, hfaithful⟩ := h
    cases hkeyed with
    | object _ hkeyed =>
      cases hnested with
      | object hnested =>
        cases hfaithful with
        | object hfaithful => exact fun f hf => ⟨hkeyed f hf, hnested f hf, hfaithful f hf⟩
  exact recovered_object (hkeys.sublist (List.filter_sublist.map _)) fun f hf =>
    hfields f (List.mem_filter.1 hf).1

end Value

end LeaseQueue
