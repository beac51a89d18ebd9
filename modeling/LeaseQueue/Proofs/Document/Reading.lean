import LeaseQueue.Proofs.Document.Alike
import LeaseQueue.Proofs.Document.Lexemes

/-!
# Documents that are read back

A written value is read as the value with its numbers replaced by what they are read as
(`Value.reread?`), provided no object has a key twice and the reader admits as many arrays and
objects inside one another as there are (`Value.Nested`); the order of keys is kept
(`Value.ofText?_text`).  The proof goes along the value; behind it the text may go on as it does in
a document (`Reader.readValue?_write`).  So a value is read back exactly when each of its numbers
is (`Value.Faithful`, `Value.reread?_eq_self_iff`).
-/

namespace LeaseQueue

namespace Value

/-! ### What a value is read as -/

mutual

/-- What a value is read as when it was written. -/
def reread? : Value → Option Value
  | .null => some .null
  | .bool b => some (.bool b)
  | .number n => n.reread?.map .number
  | .string s => some (.string s)
  | .array xs => (rereadItems? xs).map .array
  | .object fs => (rereadFields? fs).map .object
termination_by structural v => v

/-- What the items of an array are read as. -/
def rereadItems? : List Value → Option (List Value)
  | [] => some []
  | v :: rest => v.reread?.bind fun w => (rereadItems? rest).map (w :: ·)
termination_by structural xs => xs

/-- What the fields of an object are read as; they keep their keys. -/
def rereadFields? : List (String × Value) → Option (List (String × Value))
  | [] => some []
  | (key, v) :: rest => v.reread?.bind fun w => (rereadFields? rest).map ((key, w) :: ·)
termination_by structural fs => fs

end

/-- Whether all numbers in a value are read back. -/
inductive Faithful : Value → Prop
  | null : Faithful .null
  | bool (b : Bool) : Faithful (.bool b)
  | number {n : Number} (h : n.ReadsBack) : Faithful (.number n)
  | string (s : String) : Faithful (.string s)
  | array {items : List Value} (h : ∀ v ∈ items, Faithful v) : Faithful (.array items)
  | object {fields : Document} (h : ∀ f ∈ fields, Faithful f.2) : Faithful (.object fields)

/-- Whether at most a number of arrays and objects of a value stand inside one another. -/
inductive Nested : ℕ → Value → Prop
  | null (depth : ℕ) : Nested depth .null
  | bool (depth : ℕ) (b : Bool) : Nested depth (.bool b)
  | number (depth : ℕ) (n : Number) : Nested depth (.number n)
  | string (depth : ℕ) (s : String) : Nested depth (.string s)
  | array {depth : ℕ} {items : List Value} (h : ∀ v ∈ items, Nested depth v) :
      Nested (depth + 1) (.array items)
  | object {depth : ℕ} {fields : Document} (h : ∀ f ∈ fields, Nested depth f.2) :
      Nested (depth + 1) (.object fields)

/-- Items are read as themselves when each of them is. -/
lemma rereadItems?_eq_self_iff {xs : List Value} :
    rereadItems? xs = some xs ↔ ∀ v ∈ xs, v.reread? = some v := by
  induction xs with
  | nil => simp [rereadItems?]
  | cons v rest ih =>
    rw [rereadItems?, List.forall_mem_cons, ← ih]
    cases v.reread? with
    | none => simp
    | some w => simp [Option.map_eq_some_iff, and_comm]

/-- Fields are read as themselves when the value of each of them is. -/
lemma rereadFields?_eq_self_iff {fs : List (String × Value)} :
    rereadFields? fs = some fs ↔ ∀ f ∈ fs, f.2.reread? = some f.2 := by
  induction fs with
  | nil => simp [rereadFields?]
  | cons f rest ih =>
    obtain ⟨key, v⟩ := f
    rw [rereadFields?, List.forall_mem_cons, ← ih]
    cases v.reread? with
    | none => simp
    | some w => simp [Option.map_eq_some_iff, and_comm]

/-- An object is read back exactly when its fields are. -/
lemma reread?_object_eq_self_iff {fs : Document} :
    (Value.object fs).reread? = some (.object fs) ↔ rereadFields? fs = some fs := by
  rw [reread?, Option.map_eq_some_iff]
  simp

/-- A value is read back exactly when all of its numbers are. -/
theorem reread?_eq_self_iff {v : Value} : v.reread? = some v ↔ v.Faithful := by
  induction v using Value.induction with
  | null => exact iff_of_true rfl .null
  | bool b => exact iff_of_true rfl (.bool b)
  | number n =>
    have hnumber : (Value.number n).reread? = some (.number n) ↔ n.ReadsBack := by
      rw [reread?, Option.map_eq_some_iff]
      simp [Number.ReadsBack]
    rw [hnumber]
    exact ⟨.number, fun h => by cases h with | number h => exact h⟩
  | string s => exact iff_of_true rfl (.string s)
  | array xs ih =>
    have hitems : (Value.array xs).reread? = some (.array xs) ↔ rereadItems? xs = some xs := by
      rw [reread?, Option.map_eq_some_iff]
      simp
    rw [hitems, rereadItems?_eq_self_iff]
    refine ⟨fun h => .array fun v hv => (ih v hv).1 (h v hv), fun h v hv => (ih v hv).2 ?_⟩
    cases h with
    | array h => exact h v hv
  | object fs ih =>
    rw [reread?_object_eq_self_iff, rereadFields?_eq_self_iff]
    refine ⟨fun h => .object fun f hf => (ih f hf).1 (h f hf), fun h f hf => (ih f hf).2 ?_⟩
    cases h with
    | object h => exact h f hf

/-- Fields keep their keys. -/
lemma keys_rereadFields? {fs gs : List (String × Value)} (h : rereadFields? fs = some gs) :
    gs.map Prod.fst = fs.map Prod.fst := by
  induction fs generalizing gs with
  | nil =>
    obtain rfl : [] = gs := Option.some.inj h
    rfl
  | cons f rest ih =>
    obtain ⟨key, v⟩ := f
    obtain ⟨w, -, hmap⟩ := Option.bind_eq_some_iff.1 h
    obtain ⟨gs, hrest, rfl⟩ := Option.map_eq_some_iff.1 hmap
    rw [List.map_cons, List.map_cons, ih hrest]

end Value

namespace Document

/-- A document that is put together from its own fields is the same again. -/
lemma ofList_of_nodup {fields : Document} (h : (fields.map Prod.fst).Nodup) :
    ofList fields = fields := by
  have hinsert : ∀ (d : Document) (key : String) (v : Value), key ∉ d.map Prod.fst →
      d.insert key v = d ++ [(key, v)] := by
    intro d key v hkey
    induction d with
    | nil => rfl
    | cons f rest ih =>
      obtain ⟨k, w⟩ := f
      rw [List.map_cons, List.mem_cons, not_or] at hkey
      rw [insert, if_neg (Ne.symm hkey.1), ih hkey.2]
      rfl
  have hfold : ∀ (fs d : Document), ((d ++ fs).map Prod.fst).Nodup →
      fs.foldl (fun d f => d.insert f.1 f.2) d = d ++ fs := by
    intro fs
    induction fs with
    | nil => exact fun d _ => (List.append_nil d).symm
    | cons f rest ih =>
      intro d hnodup
      obtain ⟨key, v⟩ := f
      have hkey : key ∉ d.map Prod.fst := by
        intro hmem
        rw [List.map_append, List.nodup_append] at hnodup
        exact hnodup.2.2 key hmem key List.mem_cons_self rfl
      have hnext : ((d ++ [(key, v)] ++ rest).map Prod.fst).Nodup := by
        rwa [List.append_assoc]
      rw [List.foldl_cons, hinsert d key v hkey, ih _ hnext, List.append_assoc]
      rfl
  exact hfold fields [] h

end Document

/-! ### Reading what was written -/

namespace Reader

open Value

/-- A character that is no blank is not skipped. -/
lemma skipSpace_cons {c : Char} (hc : (c = ' ' || c = '\n' || c = '\r' || c = '\t') = false)
    (rest : List Char) : skipSpace (c :: rest) = c :: rest := by
  unfold skipSpace
  rw [List.dropWhile_cons_of_neg]
  rw [hc]
  exact Bool.false_ne_true

/-- Whether a character is neither blank nor closes an array, as the first one of every value. -/
def Opens (c : Char) : Prop :=
  (c = ' ' || c = '\n' || c = '\r' || c = '\t') = false ∧ c ≠ ']'

/-- A number begins with its sign or with a digit. -/
lemma exists_write_number (n : Number) :
    ∃ c cs, n.write = c :: cs ∧ (c = '-' ∨ c.isDigit = true) := by
  rw [n.write_eq]
  split_ifs
  · exact ⟨_, _, rfl, .inl rfl⟩
  · cases hwhole : n.parts.whole with
    | nil => exact absurd hwhole n.proper_parts.whole_ne
    | cons c cs =>
      refine ⟨c, _, by rw [Number.Parts.write, hwhole]; rfl, .inr ?_⟩
      exact n.proper_parts.whole_digits c (hwhole ▸ List.mem_cons_self)

/-- No blank, letter, quote or bracket begins a number. -/
lemma not_mem_of_number {c : Char} (hc : c = '-' ∨ c.isDigit = true) :
    c ∉ [' ', '\n', '\r', '\t', 'n', 't', 'f', '"', '[', ']', '\x7b'] := by
  intro hmem
  rcases hc with rfl | hdigit
  · exact absurd hmem (by decide)
  · rw [Digits.isDigit_iff] at hdigit
    simp only [List.mem_cons, List.not_mem_nil, or_false] at hmem
    rcases hmem with rfl | rfl | rfl | rfl | rfl | rfl | rfl | rfl | rfl | rfl | rfl <;>
      exact absurd hdigit (by decide)

/-- A written value is not empty. -/
lemma exists_write (v : Value) : ∃ c cs, v.write = c :: cs ∧ Opens c := by
  cases v with
  | null => exact ⟨_, _, rfl, rfl, by decide⟩
  | bool b => cases b <;> exact ⟨_, _, rfl, rfl, by decide⟩
  | number n =>
    obtain ⟨c, cs, hwrite, hc⟩ := exists_write_number n
    have hnot := not_mem_of_number hc
    simp only [List.mem_cons, List.not_mem_nil, or_false, not_or] at hnot
    exact ⟨c, cs, hwrite, by simp [hnot], hnot.2.2.2.2.2.2.2.2.2.1⟩
  | string s => exact ⟨_, _, rfl, rfl, by decide⟩
  | array xs => exact ⟨_, _, rfl, rfl, by decide⟩
  | object fs => exact ⟨_, _, rfl, rfl, by decide⟩

/-! ### One step of the reader -/

/-- What begins like a number is read as one. -/
lemma readValue?_number {c : Char} (hc : c = '-' ∨ c.isDigit = true) (fuel depth : ℕ)
    (cs : List Char) :
    readValue? (fuel + 1) depth (c :: cs) =
      (readNumber? (c :: cs)).map fun r => (.number r.1, r.2) := by
  have hnot := not_mem_of_number hc
  simp only [List.mem_cons, List.not_mem_nil, or_false, not_or] at hnot
  rw [readValue?, skipSpace_cons (by simp [hnot])]
  split
  case h_7 => rfl
  all_goals
    rename_i heq
    exact absurd (List.cons.inj heq).1 (by simp [hnot])

/-- What begins like an array that is not empty is read as one. -/
lemma readValue?_array {cs : List Char} (hcs : skipSpace cs = cs) (hhead : cs.head? ≠ some ']')
    (fuel depth : ℕ) :
    readValue? (fuel + 1) (depth + 1) ('[' :: cs) =
      (readItems? fuel depth cs).map fun r => (.array r.1, r.2) := by
  rw [readValue?, skipSpace_cons rfl]
  split
  case h_5 heq =>
    rw [← (List.cons.inj heq).2, hcs]
    split
    · rename_i hdepth
      exact absurd hdepth (Nat.succ_ne_zero depth)
    · exact absurd rfl hhead
    · rename_i hdepth _
      rw [Nat.succ.inj hdepth]
  case h_7 =>
    rename_i hother _
    exact absurd rfl (hother cs)
  all_goals
    rename_i heq
    exact absurd (List.cons.inj heq).1 (by decide)

/-- What begins like an object that is not empty is read as one. -/
lemma readValue?_object {cs : List Char} (hcs : skipSpace cs = cs)
    (hhead : cs.head? ≠ some '\x7d') (fuel depth : ℕ) :
    readValue? (fuel + 1) (depth + 1) ('\x7b' :: cs) =
      (readFields? fuel depth cs).map fun r => (.object (Document.ofList r.1), r.2) := by
  rw [readValue?, skipSpace_cons rfl]
  split
  case h_6 heq =>
    rw [← (List.cons.inj heq).2, hcs]
    split
    · rename_i hdepth
      exact absurd hdepth (Nat.succ_ne_zero depth)
    · exact absurd rfl hhead
    · rename_i hdepth _
      rw [Nat.succ.inj hdepth]
  case h_7 =>
    rename_i hother
    exact absurd rfl (hother cs)
  all_goals
    rename_i heq
    exact absurd (List.cons.inj heq).1 (by decide)

/-- After an item comes the end of its array or the next item. -/
lemma readItems?_of_read {fuel depth : ℕ} {cs rest : List Char} {v : Option Value}
    (h : readValue? fuel depth cs = v.map fun w => (w, rest)) :
    readItems? (fuel + 1) depth cs = v.bind fun w =>
      match skipSpace rest with
      | ',' :: rest => (readItems? fuel depth rest).map fun r => (w :: r.1, r.2)
      | ']' :: rest => some ([w], rest)
      | _ => none := by
  rw [readItems?, h]
  cases v with
  | none => rfl
  | some w =>
    show (match skipSpace rest with
      | ',' :: rest => (readItems? fuel depth rest).bind fun r => some (w :: r.1, r.2)
      | ']' :: rest => some ([w], rest)
      | _ => none) = _
    simp only [Option.map_eq_bind]
    rfl

/-- After a key and its value comes the end of their object or the next field. -/
lemma readFields?_of_read {fuel depth : ℕ} (key : String) {cs rest : List Char} {v : Option Value}
    (h : readValue? fuel depth cs = v.map fun w => (w, rest)) :
    readFields? (fuel + 1) depth (writeString key ++ ':' :: cs) = v.bind fun w =>
      match skipSpace rest with
      | ',' :: rest => (readFields? fuel depth rest).map fun r => ((key, w) :: r.1, r.2)
      | '\x7d' :: rest => some ([(key, w)], rest)
      | _ => none := by
  have htext : writeString key ++ ':' :: cs =
      '"' :: (key.toList.flatMap writeChar ++ '"' :: ':' :: cs) := by
    unfold writeString
    rw [List.append_assoc, List.cons_append]
    rfl
  rw [htext, readFields?, skipSpace_cons rfl]
  show (readString? (key.toList.flatMap writeChar ++ '"' :: ':' :: cs)).bind _ = _
  rw [readString?_write, Option.bind_some]
  dsimp only
  rw [skipSpace_cons rfl]
  show (readValue? fuel depth cs).bind _ = _
  rw [h]
  cases v with
  | none => rfl
  | some w =>
    show (match skipSpace rest with
      | ',' :: rest => (readFields? fuel depth rest).bind fun r => some ((key, w) :: r.1, r.2)
      | '\x7d' :: rest => some ([(key, w)], rest)
      | _ => none) = _
    simp only [Option.map_eq_bind]
    rfl

/-! ### Values -/

/-- Whether a value is read as it should be, however the text goes on behind it. -/
def Reads (v : Value) : Prop :=
  ∀ (fuel depth : ℕ) (rest : List Char), v.Nested depth → 2 * v.write.length ≤ fuel → Stops rest →
    readValue? fuel depth (v.write ++ rest) = v.reread?.map fun w => (w, rest)

/-- The items of an array that is not empty are read as they should be if each of them is. -/
lemma readItems?_write {xs : List Value} (hxs : xs ≠ []) (hread : ∀ v ∈ xs, Reads v)
    {fuel depth : ℕ} (hdepth : ∀ v ∈ xs, v.Nested depth)
    (hfuel : 2 * (writeItems xs).length + 1 ≤ fuel) (rest : List Char) :
    readItems? fuel depth (writeItems xs ++ ']' :: rest) =
      (rereadItems? xs).map fun ws => (ws, rest) := by
  induction xs generalizing fuel with
  | nil => exact absurd rfl hxs
  | cons v vs ih =>
    obtain ⟨fuel, rfl⟩ := Nat.exists_eq_add_of_le' (Nat.one_le_of_lt (Nat.lt_of_succ_le hfuel))
    have hv := hread v List.mem_cons_self
    have hnested := hdepth v List.mem_cons_self
    cases vs with
    | nil =>
      have hvalue := hv fuel depth (']' :: rest) hnested (by rw [writeItems] at hfuel; omega)
        (stops_bracket rest)
      rw [writeItems, readItems?_of_read hvalue, rereadItems?]
      cases v.reread? <;> rfl
    | cons w vs =>
      rw [writeItems, List.length_append, List.length_cons] at hfuel
      have hvalue := hv fuel depth (',' :: (writeItems (w :: vs) ++ ']' :: rest)) hnested
        (by omega) (stops_comma _)
      have hrest : readItems? fuel depth (writeItems (w :: vs) ++ ']' :: rest) =
          (rereadItems? (w :: vs)).map fun ws => (ws, rest) :=
        ih (List.cons_ne_nil _ _) (fun u hu => hread u (List.mem_cons_of_mem v hu))
          (fun u hu => hdepth u (List.mem_cons_of_mem v hu)) (by omega)
      rw [writeItems, List.append_assoc, List.cons_append, readItems?_of_read hvalue, rereadItems?]
      cases v.reread? with
      | none => rfl
      | some u =>
        show (readItems? fuel depth (writeItems (w :: vs) ++ ']' :: rest)).map _ = _
        rw [hrest]
        cases rereadItems? (w :: vs) <;> rfl

/-- The fields of an object that is not empty are read as they should be if the value of each of
them is. -/
lemma readFields?_write {fs : Document} (hfs : fs ≠ []) (hread : ∀ f ∈ fs, Reads f.2)
    {fuel depth : ℕ} (hdepth : ∀ f ∈ fs, f.2.Nested depth)
    (hfuel : 2 * (writeFields fs).length + 1 ≤ fuel) (rest : List Char) :
    readFields? fuel depth (writeFields fs ++ '\x7d' :: rest) =
      (rereadFields? fs).map fun gs => (gs, rest) := by
  induction fs generalizing fuel with
  | nil => exact absurd rfl hfs
  | cons f fs ih =>
    obtain ⟨fuel, rfl⟩ := Nat.exists_eq_add_of_le' (Nat.one_le_of_lt (Nat.lt_of_succ_le hfuel))
    have hf := hread f List.mem_cons_self
    have hnested := hdepth f List.mem_cons_self
    obtain ⟨key, v⟩ := f
    cases fs with
    | nil =>
      rw [writeFields, List.length_append, List.length_cons] at hfuel
      have hvalue := hf fuel depth ('\x7d' :: rest) hnested (by dsimp only; omega)
        (stops_brace rest)
      rw [writeFields, List.append_assoc, List.cons_append, readFields?_of_read key hvalue,
        rereadFields?]
      cases v.reread? <;> rfl
    | cons g fs =>
      rw [writeFields, List.length_append, List.length_append, List.length_cons,
        List.length_cons] at hfuel
      have hvalue := hf fuel depth (',' :: (writeFields (g :: fs) ++ '\x7d' :: rest)) hnested
        (by dsimp only; omega) (stops_comma _)
      have hrest : readFields? fuel depth (writeFields (g :: fs) ++ '\x7d' :: rest) =
          (rereadFields? (g :: fs)).map fun gs => (gs, rest) :=
        ih (List.cons_ne_nil _ _) (fun h hh => hread h (List.mem_cons_of_mem _ hh))
          (fun h hh => hdepth h (List.mem_cons_of_mem _ hh)) (by omega)
      rw [writeFields, List.append_assoc, List.append_assoc, List.cons_append, List.cons_append,
        readFields?_of_read key hvalue, rereadFields?]
      cases v.reread? with
      | none => rfl
      | some w =>
        show (readFields? fuel depth (writeFields (g :: fs) ++ '\x7d' :: rest)).map _ = _
        rw [hrest]
        cases rereadFields? (g :: fs) <;> rfl

/-- The items of an array begin like its first item. -/
lemma exists_writeItems {xs : List Value} (hxs : xs ≠ []) :
    ∃ c cs, writeItems xs = c :: cs ∧ Opens c := by
  cases xs with
  | nil => exact absurd rfl hxs
  | cons v vs =>
    obtain ⟨c, cs, hwrite, hc⟩ := exists_write v
    cases vs with
    | nil => exact ⟨c, cs, hwrite, hc⟩
    | cons w vs =>
      rw [writeItems, hwrite]
      exact ⟨c, _, rfl, hc⟩

/-- The fields of an object begin with the quote of their first key. -/
lemma exists_writeFields {fs : Document} (hfs : fs ≠ []) : ∃ cs, writeFields fs = '"' :: cs := by
  cases fs with
  | nil => exact absurd rfl hfs
  | cons f fs =>
    obtain ⟨key, v⟩ := f
    cases fs <;> exact ⟨_, rfl⟩

/-- A number is read as it should be. -/
lemma reads_number (n : Number) : Reads (.number n) := by
  intro fuel depth rest _ hfuel hrest
  have hread := readNumber?_write n hrest
  obtain ⟨c, cs, hwrite, hc⟩ := exists_write_number n
  have htext : (Value.number n).write = c :: cs := hwrite
  rw [hwrite] at hread
  rw [htext] at hfuel ⊢
  obtain ⟨fuel, rfl⟩ := Nat.exists_eq_add_of_le' (Nat.one_le_of_lt hfuel)
  rw [List.cons_append] at hread ⊢
  rw [readValue?_number hc, hread, reread?]
  cases n.reread? <;> rfl

/-- A string is read as it should be. -/
lemma reads_string (s : String) : Reads (.string s) := by
  intro fuel depth rest _ hfuel _
  obtain ⟨fuel, rfl⟩ := Nat.exists_eq_add_of_le' (Nat.one_le_of_lt hfuel)
  have htext : (Value.string s).write ++ rest =
      '"' :: (s.toList.flatMap writeChar ++ '"' :: rest) := by
    show writeString s ++ rest = _
    unfold writeString
    rw [List.append_assoc, List.cons_append]
    rfl
  rw [htext, readValue?, skipSpace_cons rfl]
  show (readString? (s.toList.flatMap writeChar ++ '"' :: rest)).map _ = _
  rw [readString?_write]
  rfl

/-- An array is read as it should be if its items are. -/
lemma reads_array {xs : List Value} (hread : ∀ v ∈ xs, Reads v) : Reads (.array xs) := by
  intro fuel depth rest hdepth hfuel _
  obtain ⟨depth, rfl, hitems⟩ : ∃ n, depth = n + 1 ∧ ∀ v ∈ xs, v.Nested n := by
    cases hdepth with
    | array h => exact ⟨_, rfl, h⟩
  have htext : (Value.array xs).write ++ rest = '[' :: (writeItems xs ++ ']' :: rest) := by
    rw [write, List.append_assoc, List.cons_append]
    rfl
  have hlength : (Value.array xs).write.length = (writeItems xs).length + 2 := by
    rw [write, List.length_append, List.length_cons]
    rfl
  rw [hlength] at hfuel
  obtain ⟨fuel, rfl⟩ := Nat.exists_eq_add_of_le' (Nat.one_le_of_lt hfuel)
  rw [htext]
  by_cases hxs : xs = []
  · rw [hxs]
    rfl
  · obtain ⟨c, cs, hwrite, hblank, hbracket⟩ := exists_writeItems hxs
    have hskip : skipSpace (writeItems xs ++ ']' :: rest) = writeItems xs ++ ']' :: rest := by
      rw [hwrite]
      exact skipSpace_cons hblank _
    have hhead : (writeItems xs ++ ']' :: rest).head? ≠ some ']' := by
      rw [hwrite]
      exact fun h => hbracket (Option.some.inj h)
    rw [readValue?_array hskip hhead, readItems?_write hxs hread hitems (by omega), reread?]
    cases rereadItems? xs <;> rfl

/-- An object without repeated keys is read as it should be if the values in it are. -/
lemma reads_object {fs : Document} (hkeys : (fs.map Prod.fst).Nodup)
    (hread : ∀ f ∈ fs, Reads f.2) : Reads (.object fs) := by
  intro fuel depth rest hdepth hfuel _
  obtain ⟨depth, rfl, hfields⟩ : ∃ n, depth = n + 1 ∧ ∀ f ∈ fs, f.2.Nested n := by
    cases hdepth with
    | object h => exact ⟨_, rfl, h⟩
  have htext : (Value.object fs).write ++ rest =
      '\x7b' :: (writeFields fs ++ '\x7d' :: rest) := by
    rw [write, List.append_assoc, List.cons_append]
    rfl
  have hlength : (Value.object fs).write.length = (writeFields fs).length + 2 := by
    rw [write, List.length_append, List.length_cons]
    rfl
  rw [hlength] at hfuel
  obtain ⟨fuel, rfl⟩ := Nat.exists_eq_add_of_le' (Nat.one_le_of_lt hfuel)
  rw [htext]
  by_cases hfs : fs = []
  · rw [hfs]
    rfl
  · obtain ⟨cs, hwrite⟩ := exists_writeFields hfs
    have hskip : skipSpace (writeFields fs ++ '\x7d' :: rest) =
        writeFields fs ++ '\x7d' :: rest := by
      rw [hwrite]
      exact skipSpace_cons rfl _
    have hhead : (writeFields fs ++ '\x7d' :: rest).head? ≠ some '\x7d' := by
      rw [hwrite]
      exact fun h => absurd (Option.some.inj h) (by decide)
    rw [readValue?_object hskip hhead, readFields?_write hfs hread hfields (by omega), reread?]
    cases hreread : rereadFields? fs with
    | none => rfl
    | some gs =>
      have hnodup : (gs.map Prod.fst).Nodup := by rwa [keys_rereadFields? hreread]
      show some (Value.object (Document.ofList gs), rest) = some (Value.object gs, rest)
      rw [Document.ofList_of_nodup hnodup]

/-- Every value without repeated keys is read as it should be. -/
theorem readValue?_write {v : Value} (hv : v.Keyed) : Reads v := by
  induction v using Value.induction with
  | null =>
    intro fuel depth rest _ hfuel _
    obtain ⟨fuel, rfl⟩ := Nat.exists_eq_add_of_le' (Nat.one_le_of_lt hfuel)
    rfl
  | bool b =>
    intro fuel depth rest _ hfuel _
    cases b <;>
    · obtain ⟨fuel, rfl⟩ := Nat.exists_eq_add_of_le' (Nat.one_le_of_lt hfuel)
      rfl
  | number n => exact reads_number n
  | string s => exact reads_string s
  | array xs ih => exact reads_array fun v hmem => ih v hmem (hv.items v hmem)
  | object fs ih =>
    obtain ⟨hkeys, hvalues⟩ := hv.fields
    exact reads_object hkeys fun f hf => ih f hf (hvalues f hf)

end Reader

/-- A written value is read as the value with its numbers replaced by what these are read as. -/
theorem Value.ofText?_text {v : Value} (hv : v.Keyed) (hdepth : v.Nested Reader.nestingLimit) :
    Value.ofText? v.text = v.reread? := by
  have hread := Reader.readValue?_write hv (2 * v.write.length + 2) Reader.nestingLimit [] hdepth
    (Nat.le_add_right _ _) Reader.stops_nil
  rw [List.append_nil] at hread
  unfold ofText? text read?
  rw [String.toList_ofList, hread]
  cases v.reread? <;> rfl

end LeaseQueue
