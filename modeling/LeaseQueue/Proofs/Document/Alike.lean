import LeaseQueue.Document.Value
import Mathlib.Data.List.Forall2
import Mathlib.Data.List.Nodup
import Mathlib.Data.List.Perm.Subperm

/-!
# Values that are equal up to the order of keys

`Value.same` compares objects by looking up the keys of one in the other.  `Value.Alike` says what
this is meant to be: two objects are alike when the fields of one can be put in an order in which
they have the keys of the other and values alike to its values.  The two agree on values in which no
object has a key twice (`Value.same_iff_alike`); a document never has one, since it is put together
key by key (`Document.nodup_keys_ofList`).
-/

namespace LeaseQueue

namespace Value

/-- A value in a list of fields is smaller than the list. -/
lemma sizeOf_snd_lt {fields : Document} {f : String × Value} (hf : f ∈ fields) :
    sizeOf f.2 < 1 + sizeOf fields := by
  have hlt := List.sizeOf_lt_of_mem hf
  obtain ⟨key, v⟩ := f
  rw [Prod.mk.sizeOf_spec] at hlt
  dsimp only
  omega

/-- What holds of plain values and is handed on by arrays and objects holds of all values. -/
@[elab_as_elim]
theorem induction {P : Value → Prop} (null : P .null) (bool : ∀ b, P (.bool b))
    (number : ∀ n, P (.number n)) (string : ∀ s, P (.string s))
    (array : ∀ items, (∀ v ∈ items, P v) → P (.array items))
    (object : ∀ fields, (∀ f ∈ fields, P f.2) → P (.object fields)) : ∀ v, P v
  | .null => null
  | .bool b => bool b
  | .number n => number n
  | .string s => string s
  | .array items => array items fun v _ => induction null bool number string array object v
  | .object fields => object fields fun f hf =>
    have := sizeOf_snd_lt hf
    induction null bool number string array object f.2

/-- Whether two values are equal when the order of keys does not count. -/
inductive Alike : Value → Value → Prop
  | null : Alike .null .null
  | bool (b : Bool) : Alike (.bool b) (.bool b)
  | number {m n : Number} (h : m.same n = true) : Alike (.number m) (.number n)
  | string (s : String) : Alike (.string s) (.string s)
  | array {xs ys : List Value} (h : List.Forall₂ Alike xs ys) : Alike (.array xs) (.array ys)
  | object {fs gs hs : Document} (hkeys : fs.map Prod.fst = gs.map Prod.fst)
      (hvalues : List.Forall₂ Alike (fs.map Prod.snd) (gs.map Prod.snd)) (hperm : gs.Perm hs) :
      Alike (.object fs) (.object hs)

/-- Whether no object in a value has a key twice. -/
inductive Keyed : Value → Prop
  | null : Keyed .null
  | bool (b : Bool) : Keyed (.bool b)
  | number (n : Number) : Keyed (.number n)
  | string (s : String) : Keyed (.string s)
  | array {items : List Value} (h : ∀ v ∈ items, Keyed v) : Keyed (.array items)
  | object {fields : Document} (hkeys : (fields.map Prod.fst).Nodup)
      (hvalues : ∀ f ∈ fields, Keyed f.2) : Keyed (.object fields)

/-- In an array without repeated keys no item has any. -/
lemma Keyed.items {xs : List Value} (h : Keyed (.array xs)) : ∀ v ∈ xs, v.Keyed := by
  cases h with
  | array hxs => exact hxs

/-- In an object without repeated keys no value has any, and neither has the object itself. -/
lemma Keyed.fields {fs : Document} (h : Keyed (.object fs)) :
    (fs.map Prod.fst).Nodup ∧ ∀ f ∈ fs, f.2.Keyed := by
  cases h with
  | object hkeys hvalues => exact ⟨hkeys, hvalues⟩

end Value

namespace Document

/-- Where no key occurs twice, the value of a key is that of its field. -/
lemma get?_eq_some_iff {d : Document} (hd : (d.map Prod.fst).Nodup) {key : String} {v : Value} :
    d.get? key = some v ↔ (key, v) ∈ d := by
  induction d with
  | nil => simp [get?]
  | cons f rest ih =>
    obtain ⟨k, w⟩ := f
    rw [List.map_cons, List.nodup_cons] at hd
    rw [get?, List.mem_cons]
    by_cases hkey : k = key
    · subst hkey
      have hnot : (k, v) ∉ rest := fun hmem => hd.1 (List.mem_map.2 ⟨_, hmem, rfl⟩)
      simp [hnot, eq_comm]
    · simp [hkey, Ne.symm hkey, ih hd.2]

/-- A document that is given a value has the key of the value in addition, unless it had it. -/
lemma keys_insert (d : Document) (key : String) (v : Value) :
    (d.insert key v).map Prod.fst =
      if key ∈ d.map Prod.fst then d.map Prod.fst else d.map Prod.fst ++ [key] := by
  induction d with
  | nil => rfl
  | cons f rest ih =>
    obtain ⟨k, w⟩ := f
    rw [insert]
    by_cases hkey : k = key
    · simp [hkey]
    · rw [if_neg hkey, List.map_cons, ih]
      by_cases hmem : key ∈ rest.map Prod.fst
      · simp [hmem]
      · simp [hmem, Ne.symm hkey]

/-- In the document of a list of named values no key occurs twice, though one may in the list. -/
theorem nodup_keys_ofList (fields : List (String × Value)) :
    ((ofList fields).map Prod.fst).Nodup := by
  have hfold : ∀ d : Document, (d.map Prod.fst).Nodup →
      ((fields.foldl (fun d f => d.insert f.1 f.2) d).map Prod.fst).Nodup := by
    induction fields with
    | nil => exact fun _ hd => hd
    | cons f rest ih =>
      refine fun d hd => ih _ ?_
      rw [keys_insert]
      split
      · exact hd
      · rename_i hnew
        exact List.nodup_append.2 ⟨hd, List.nodup_singleton _, fun k hk l hl hkl =>
          hnew (List.mem_singleton.1 hl ▸ hkl ▸ hk)⟩
  exact hfold [] List.nodup_nil

end Document

namespace Value

/-- Two lists hold equal values when they do so place by place. -/
lemma sameItems_iff {xs ys : List Value} :
    sameItems xs ys = true ↔ List.Forall₂ (fun x y => x.same y = true) xs ys := by
  induction xs generalizing ys with
  | nil => cases ys <;> simp [sameItems]
  | cons x xs ih => cases ys <;> simp [sameItems, ih]

/-- All fields have equal values under their keys when each has. -/
lemma sameFields_iff {fs gs : Document} : sameFields fs gs = true ↔
    ∀ f ∈ fs, ∃ w, gs.get? f.1 = some w ∧ f.2.same w = true := by
  induction fs with
  | nil => simp [sameFields]
  | cons f rest ih =>
    obtain ⟨key, v⟩ := f
    rw [sameFields, Bool.and_eq_true, ih, List.forall_mem_cons]
    refine and_congr_left fun _ => ?_
    cases gs.get? key <;> simp

/-- A relation between values is one between fields with the same keys. -/
lemma forall₂_fields_iff {R : Value → Value → Prop} {fs gs : Document} :
    fs.map Prod.fst = gs.map Prod.fst ∧ List.Forall₂ R (fs.map Prod.snd) (gs.map Prod.snd) ↔
      List.Forall₂ (fun f g => f.1 = g.1 ∧ R f.2 g.2) fs gs := by
  induction fs generalizing gs with
  | nil => cases gs <;> simp
  | cons f rest ih =>
    cases gs with
    | nil => simp
    | cons g gs =>
      rw [List.forall₂_cons, ← ih]
      simp only [List.map_cons, List.cons.injEq, List.forall₂_cons]
      tauto

/-- In a list that is related to another one place by place, each item of that has its partner. -/
lemma exists_of_forall₂ {α β : Type} {R : α → β → Prop} {xs : List α} {ys : List β}
    (h : List.Forall₂ R xs ys) : ∀ x ∈ xs, ∃ y ∈ ys, R x y := by
  induction h with
  | nil => simp
  | @cons x y xs ys hfirst _ ih =>
    rw [List.forall_mem_cons]
    refine ⟨⟨y, List.mem_cons_self, hfirst⟩, fun z hz => ?_⟩
    obtain ⟨w, hw, hrest⟩ := ih z hz
    exact ⟨w, List.mem_cons_of_mem y hw, hrest⟩

/-- Relations that agree on the items of two lists relate the lists alike. -/
lemma forall₂_congr_of_mem {α β : Type} {R S : α → β → Prop} {xs : List α} {ys : List β}
    (h : ∀ x ∈ xs, ∀ y ∈ ys, (R x y ↔ S x y)) : List.Forall₂ R xs ys ↔ List.Forall₂ S xs ys := by
  induction xs generalizing ys with
  | nil => rw [List.forall₂_nil_left_iff, List.forall₂_nil_left_iff]
  | cons x xs ih =>
    cases ys with
    | nil => simp
    | cons y ys =>
      rw [List.forall₂_cons, List.forall₂_cons, h x List.mem_cons_self y List.mem_cons_self,
        ih fun z hz w hw => h z (List.mem_cons_of_mem x hz) w (List.mem_cons_of_mem y hw)]

/-- Two objects without repeated keys are alike exactly when they have as many fields, and each key
of one has a value in the other that is alike. -/
lemma alike_object_iff {fs hs : Document} (hfs : (fs.map Prod.fst).Nodup)
    (hhs : (hs.map Prod.fst).Nodup) :
    Alike (.object fs) (.object hs) ↔
      fs.length = hs.length ∧ ∀ f ∈ fs, ∃ w, hs.get? f.1 = some w ∧ f.2.Alike w := by
  constructor
  · rintro (_ | _ | _ | _ | _ | @⟨_, gs, _, hkeys, hvalues, hperm⟩)
    refine ⟨?_, fun f hf => ?_⟩
    · have hlength := congrArg List.length hkeys
      rw [List.length_map, List.length_map] at hlength
      exact hlength.trans hperm.length_eq
    · obtain ⟨g, hg, hkey, halike⟩ := exists_of_forall₂ (forall₂_fields_iff.1 ⟨hkeys, hvalues⟩) f hf
      exact ⟨g.2, (Document.get?_eq_some_iff hhs).2 (hkey ▸ hperm.subset hg), halike⟩
  · rintro ⟨hlength, h⟩
    -- The fields of the second object, in the order of the first one.
    let gs : Document := fs.map fun f => (f.1, (hs.get? f.1).getD .null)
    have hkeys : fs.map Prod.fst = gs.map Prod.fst := by
      rw [List.map_map]
      rfl
    have hvalues : List.Forall₂ Alike (fs.map Prod.snd) (gs.map Prod.snd) := by
      rw [List.map_map, List.forall₂_map_left_iff, List.forall₂_map_right_iff, List.forall₂_same]
      intro f hf
      obtain ⟨w, hget, halike⟩ := h f hf
      simpa [hget] using halike
    have hsubset : gs ⊆ hs := by
      intro g hg
      obtain ⟨f, hf, rfl⟩ := List.mem_map.1 hg
      obtain ⟨w, hget, -⟩ := h f hf
      rw [hget]
      exact (Document.get?_eq_some_iff hhs).1 hget
    have hnodup : gs.Nodup := List.Nodup.of_map Prod.fst (hkeys ▸ hfs)
    have hle : hs.length ≤ gs.length := by
      rw [List.length_map]
      exact Nat.le_of_eq hlength.symm
    exact .object hkeys hvalues ((List.subperm_of_subset hnodup hsubset).perm_of_length_le hle)

/-- Two values without repeated keys are found equal exactly when they are equal up to the order of
keys. -/
theorem same_iff_alike {v w : Value} (hv : v.Keyed) (hw : w.Keyed) :
    v.same w = true ↔ v.Alike w := by
  induction v using Value.induction generalizing w with
  | null =>
    cases w with
    | null => exact iff_of_true rfl .null
    | bool | number | string | array | object =>
      exact iff_of_false Bool.false_ne_true fun h => by cases h
  | bool b =>
    cases w with
    | bool c =>
      refine decide_eq_true_iff.trans ⟨fun h => h ▸ .bool b, fun h => ?_⟩
      cases h
      rfl
    | null | number | string | array | object =>
      exact iff_of_false Bool.false_ne_true fun h => by cases h
  | number m =>
    cases w with
    | number n =>
      refine ⟨fun h => .number h, fun h => ?_⟩
      cases h with
      | number h => exact h
    | null | bool | string | array | object =>
      exact iff_of_false Bool.false_ne_true fun h => by cases h
  | string s =>
    cases w with
    | string t =>
      refine decide_eq_true_iff.trans ⟨fun h => h ▸ .string s, fun h => ?_⟩
      cases h
      rfl
    | null | bool | number | array | object =>
      exact iff_of_false Bool.false_ne_true fun h => by cases h
  | array xs ih =>
    cases w with
    | array ys =>
      have hitems : (Value.array xs).same (.array ys) = true ↔
          List.Forall₂ (fun x y => x.same y = true) xs ys := sameItems_iff
      rw [hitems, forall₂_congr_of_mem fun x hx y hy => ih x hx (hv.items x hx) (hw.items y hy)]
      refine ⟨.array, fun h => ?_⟩
      cases h with
      | array h => exact h
    | null | bool | number | string | object =>
      exact iff_of_false Bool.false_ne_true fun h => by cases h
  | object fs ih =>
    cases w with
    | object hs =>
      obtain ⟨hfs, hfields⟩ := hv.fields
      obtain ⟨hhs, hfields'⟩ := hw.fields
      have hsame : (Value.object fs).same (.object hs) = true ↔
          fs.length = hs.length ∧ sameFields fs hs = true := by
        rw [same, Bool.and_eq_true, decide_eq_true_eq]
      rw [hsame, alike_object_iff hfs hhs, sameFields_iff]
      refine and_congr_right fun _ => forall₂_congr fun f hf => exists_congr fun w =>
        and_congr_right fun hget => ?_
      have hmem := (Document.get?_eq_some_iff hhs).1 hget
      exact ih f hf (hfields f hf) (hfields' _ hmem)
    | null | bool | number | string | array =>
      exact iff_of_false Bool.false_ne_true fun h => by cases h

end Value

end LeaseQueue
