import StreamLint.Proofs.Json.Reading
/-!
# How deep a value may nest

A reader is told how many brackets may still be opened inside one another. A value without
floating-point numbers is read back if it nests no deeper than that
(`StreamLint.Json.takes_readValue`), and its text counts as no JSON if it nests deeper
(`StreamLint.Json.refuses_readValue`). So the bound is exact, and what makes a text unreadable is
its depth alone.

Both are said of values as they are held, whose whole numbers have 64 bits and whose keys are in
ascending order (`StreamLint.Json.IsProper`). What is built in another way is written all the same,
but it would come back in the form in which values are held.
-/

namespace StreamLint

namespace Json

variable {α σ : Type}

/-! ### The depth of a value -/

mutual

/-- How many brackets are open at once where the value is deepest. -/
def nesting : Json → Nat
  | array items => nestingOfItems items + 1
  | object fields => nestingOfFields fields + 1
  | _ => 0

/-- How deep the deepest of the items is. -/
def nestingOfItems : List Json → Nat
  | [] => 0
  | item :: rest => max item.nesting (nestingOfItems rest)

/-- How deep the deepest of the fields is. -/
def nestingOfFields : List (String × Json) → Nat
  | [] => 0
  | (_, value) :: rest => max value.nesting (nestingOfFields rest)

end

theorem nestingOfItems_le {items : List Json} {n : Nat} :
    nestingOfItems items ≤ n ↔ ∀ item ∈ items, item.nesting ≤ n := by
  induction items with
  | nil => simp [nestingOfItems]
  | cons item items ih => rw [nestingOfItems, Nat.max_le, ih, List.forall_mem_cons]

theorem nestingOfFields_le {fields : List (String × Json)} {n : Nat} :
    nestingOfFields fields ≤ n ↔ ∀ field ∈ fields, field.2.nesting ≤ n := by
  induction fields with
  | nil => simp [nestingOfFields]
  | cons field fields ih => rw [nestingOfFields, Nat.max_le, ih, List.forall_mem_cons]

theorem nesting_array_le {items : List Json} {n : Nat} :
    nesting (.array items) ≤ n + 1 ↔ ∀ item ∈ items, item.nesting ≤ n := by
  rw [nesting, Nat.add_le_add_iff_right, nestingOfItems_le]

theorem nesting_object_le {fields : List (String × Json)} {n : Nat} :
    nesting (.object fields) ≤ n + 1 ↔ ∀ field ∈ fields, field.2.nesting ≤ n := by
  rw [nesting, Nat.add_le_add_iff_right, nestingOfFields_le]

/-! ### Values as they are held -/

/-- **A value as it is held**: whole numbers have 64 bits, and the keys of objects are in ascending
order. -/
def IsProper : Json → Prop :=
  Throughout fun
    | .number (.integer n) => -9223372036854775808 ≤ n ∧ n ≤ maxWhole
    | .object fields => fields.Pairwise (·.1 < ·.1)
    | _ => True

theorem isProper_integer {n : Int} :
    IsProper (.number (.integer n)) ↔ -9223372036854775808 ≤ n ∧ n ≤ maxWhole := by
  simp [IsProper, Throughout, parts]

theorem isProper_ofNat {n : Nat} (h : n ≤ maxWhole) : IsProper (ofNat n) := by
  rw [ofNat, ofInt, isProper_integer]
  omega

@[simp] theorem isProper_string (s : String) : IsProper (.string s) := by
  simp [IsProper, Throughout, parts]

theorem isProper_array {items : List Json} :
    IsProper (.array items) ↔ ∀ item ∈ items, item.IsProper := by
  simp [IsProper, throughout_array]

theorem isProper_object {fields : List (String × Json)} :
    IsProper (.object fields) ↔
      fields.Pairwise (·.1 < ·.1) ∧ ∀ field ∈ fields, field.2.IsProper := by
  simp [IsProper, throughout_object]

/-! ### Values that are not too deep -/

/-- Whole numbers of 64 bits are taken at any depth. -/
theorem takes_readValue_integer (levels : Nat) {n : Int} (h : IsProper (.number (.integer n))) :
    Takes (readValue levels) (.number (.integer n)) (.number (.integer n)) := by
  obtain ⟨hlow, hhigh⟩ := isProper_integer.mp h
  have hmax : (maxWhole : Int) = 18446744073709551615 := rfl
  intro blanks text after hblanks htext hafter
  have hskip := htext.skipBlanks_append hblanks after
  cases htext
  rw [toList_text_integer] at hskip ⊢
  by_cases hneg : n < 0
  · have hread := readNumber_toDigits true hafter (n := n.natAbs) (by omega) (by omega)
    have habs : -(n.natAbs : Int) = n := by omega
    rw [if_pos rfl, habs] at hread
    rw [if_pos hneg, List.cons_append] at hskip ⊢
    unfold readValue
    rw [hskip]
    simp [hread, Except.map]
  · have hread := readNumber_toDigits false hafter (n := n.natAbs) (by omega) (by simp)
    have habs : (n.natAbs : Int) = n := by omega
    rw [if_neg Bool.false_ne_true, habs] at hread
    rw [if_neg hneg] at hskip ⊢
    obtain ⟨first, digits, hdigits, hfirst⟩ := exists_toDigits_eq_cons n.natAbs
    rw [hdigits, List.cons_append] at hskip hread ⊢
    unfold readValue
    rw [hskip]
    -- a digit begins none of the other values
    split <;> simp_all [Except.map]

/-- The reader of any value at an opening bracket. -/
theorem readValue_of_bracket (levels : Nat) {text rest : List Char}
    (h : skipBlanks text = '[' :: rest) :
    readValue (levels + 1) text = do
      let (items, rest) ← readItems (readValue levels) rest true [] rest
      let rest ← closeWith ']' rest
      return (.array items, rest) := by
  rw [readValue]
  rw [h]
  rfl

/-- The reader of any value at an opening brace. -/
theorem readValue_of_brace (levels : Nat) {text rest : List Char}
    (h : skipBlanks text = '\x7b' :: rest) :
    readValue (levels + 1) text = do
      let (fields, rest) ← readFields (readEntry (readValue levels)) rest true [] rest
      let rest ← closeWith '\x7d' rest
      return (.object fields, rest) := by
  rw [readValue]
  rw [h]
  rfl

theorem takes_readValue_array {levels : Nat} {items : List Json}
    (h : ∀ item ∈ items, Takes (readValue levels) item item) :
    Takes (readValue (levels + 1)) (.array items) (.array items) := by
  intro blanks text after hblanks htext hafter
  obtain ⟨inner, hitems, hskip⟩ := htext.exists_items hblanks after
  have hread := readItems_of_takes (List.forall₂_same.mpr h) hitems []
    (hitems.length_lt ']' after) after
  rw [readValue_of_bracket levels hskip]
  simp [hread, closeWith_bracket, bind, Except.bind, pure, Except.pure]

theorem takes_readValue_object {levels : Nat} {fields : List (String × Json)}
    (h : ∀ field ∈ fields, Takes (readValue levels) field.2 field.2)
    (hascending : fields.Pairwise (·.1 < ·.1)) :
    Takes (readValue (levels + 1)) (.object fields) (.object fields) := by
  intro blanks text after hblanks htext hafter
  obtain ⟨inner, hfields, hskip⟩ := htext.exists_fields hblanks after
  have htaken : TakesFields (readEntry (readValue levels)) fields [] fields :=
    takesFields_entries (List.forall₂_same.mpr fun field hfield => ⟨rfl, h field hfield⟩)
      hascending
  have hread := readFields_of_takes htaken hfields (hfields.length_lt '\x7d' after) after
  rw [readValue_of_brace levels hskip]
  simp [hread, closeWith_brace, bind, Except.bind, pure, Except.pure]

mutual

/-- **A value that is not too deep is read back.** -/
theorem takes_readValue : (value : Json) → value.IsFloatFree → value.IsProper → {levels : Nat} →
    value.nesting ≤ levels → Takes (readValue levels) value value
  | .null, _, _, _, _ => fun blanks text after hblanks htext _ => by
    have hskip := htext.skipBlanks_append hblanks after
    cases htext
    unfold readValue
    rw [hskip]
    rfl
  | .bool b, _, _, _, _ => fun blanks text after hblanks htext _ => by
    have hskip := htext.skipBlanks_append hblanks after
    unfold readValue
    rw [hskip]
    cases htext <;> rfl
  | .number (.integer n), _, h, levels, _ => takes_readValue_integer levels h
  | .number (.float x), h, _, _, _ => absurd h (not_isFloatFree_float x)
  | .string s, _, _, _, _ => fun blanks text after hblanks htext _ => by
    have hskip := htext.skipBlanks_append hblanks after
    cases htext
    unfold readValue
    rw [hskip]
    simp [readChars_escapes, Except.map]
  | .array items, hfree, hproper, 0, h => absurd h (by simp [nesting])
  | .object fields, hfree, hproper, 0, h => absurd h (by simp [nesting])
  | .array items, hfree, hproper, levels + 1, h =>
    takes_readValue_array <| takes_readValue_items items (isFloatFree_array.mp hfree)
      (isProper_array.mp hproper) (nesting_array_le.mp h)
  | .object fields, hfree, hproper, levels + 1, h =>
    takes_readValue_object
      (takes_readValue_fields fields (isFloatFree_object.mp hfree) (isProper_object.mp hproper).2
        (nesting_object_le.mp h))
      (isProper_object.mp hproper).1

theorem takes_readValue_items : (items : List Json) → (∀ item ∈ items, item.IsFloatFree) →
    (∀ item ∈ items, item.IsProper) → {levels : Nat} → (∀ item ∈ items, item.nesting ≤ levels) →
    ∀ item ∈ items, Takes (readValue levels) item item
  | [], _, _, _, _ => by simp
  | item :: rest, hfree, hproper, levels, h => by
    rw [List.forall_mem_cons] at hfree hproper h ⊢
    exact ⟨takes_readValue item hfree.1 hproper.1 h.1,
      takes_readValue_items rest hfree.2 hproper.2 h.2⟩

theorem takes_readValue_fields : (fields : List (String × Json)) →
    (∀ field ∈ fields, field.2.IsFloatFree) → (∀ field ∈ fields, field.2.IsProper) →
    {levels : Nat} → (∀ field ∈ fields, field.2.nesting ≤ levels) →
    ∀ field ∈ fields, Takes (readValue levels) field.2 field.2
  | [], _, _, _, _ => by simp
  | (key, value) :: rest, hfree, hproper, levels, h => by
    rw [List.forall_mem_cons] at hfree hproper h ⊢
    exact ⟨takes_readValue value hfree.1 hproper.1 h.1,
      takes_readValue_fields rest hfree.2 hproper.2 h.2⟩

end

/-! ### Values that are too deep -/

/-- **The reader refuses the value**: it finds that no spelling of it is JSON. -/
def Refuses (read : List Char → Except ReadError (α × List Char)) (value : Json) : Prop :=
  ∀ ⦃blanks text : List Char⦄ (after : List Char), AreBlanks blanks → Spells value text →
    read (blanks ++ (text ++ after)) = .error .malformed

/-- The reader of fields refuses a field: it finds that no spelling of its value is JSON. -/
def RefusesField (read : String → σ → List Char → Except ReadError (σ × List Char)) (key : String)
    (value : Json) (state : σ) : Prop :=
  ∀ ⦃colon text : List Char⦄ (after : List Char), IsBetween [':'] colon → Spells value text →
    read key state (colon ++ (text ++ after)) = .error .malformed

theorem Refuses.map {β : Type} {read : List Char → Except ReadError (α × List Char)} {value : Json}
    (h : Refuses read value) (f : α × List Char → β × List Char) :
    Refuses (fun text => (read text).map f) value := by
  intro blanks text after hblanks htext
  simp only [h after hblanks htext]
  rfl

theorem Refuses.returned {β : Type} {read : List Char → Except ReadError (α × List Char)}
    {value : Json} (h : Refuses read value) (f : α → β) :
    Refuses (fun text => do let (a, rest) ← read text; return (f a, rest)) value := by
  intro blanks text after hblanks htext
  simp only [h after hblanks htext]
  rfl

/-- A whole text is no JSON if its value is refused. -/
theorem Refuses.run {reader : Reader α} {value : Json} (h : Refuses (reader nestingLimit) value)
    {text : String} (htext : Spells value text.toList) :
    reader.run text = .error .malformed := by
  have hread := h [] areBlanks_nil htext
  simp only [List.nil_append, List.append_nil] at hread
  simp only [Reader.run, hread]
  rfl

/-- An item that is refused after others that are taken makes the whole array refused. -/
theorem readItems_of_refuses {read : List Char → Except ReadError (α × List Char)}
    {front behind : List Json} {item : Json} {as : List α}
    (hfront : List.Forall₂ (Takes read) front as) (hitem : Refuses read item) {first : Bool} {text : List Char}
    (htext : SpellsItems first (front ++ item :: behind) text) (taken : List α) {bound : List Char}
    (hbound : (front ++ item :: behind).length < bound.length) (after : List Char) :
    readItems read bound first taken (text ++ ']' :: after) = .error .malformed := by
  induction hfront generalizing first text taken bound with
  | nil =>
    obtain ⟨c, bound, rfl⟩ := List.exists_cons_of_length_pos (Nat.zero_lt_of_lt hbound)
    cases htext with
    | @cons _ _ _ gap text rest hgap hspells hrest =>
      have hrefused := hitem (rest ++ ']' :: after) areBlanks_nil hspells
      rw [List.nil_append] at hrefused
      rw [List.append_assoc, List.append_assoc, readItems_cons read hgap hspells, hrefused]
      rfl
  | cons htake _ ih =>
    obtain ⟨c, bound, rfl⟩ := List.exists_cons_of_length_pos (Nat.zero_lt_of_lt hbound)
    cases htext with
    | @cons _ _ _ gap text rest hgap hspells hrest =>
      have htaken := htake areBlanks_nil hspells (hrest.ends after)
      rw [List.nil_append] at htaken
      rw [List.append_assoc, List.append_assoc, readItems_cons read hgap hspells, htaken]
      exact ih hrest _ (Nat.lt_of_succ_lt_succ hbound)

/-- A field that is refused after others that are taken makes the whole object refused. -/
theorem readFields_of_refuses {read : String → σ → List Char → Except ReadError (σ × List Char)}
    {front behind : List (String × Json)} {key : String} {value : Json} {state mid : σ}
    (hfront : TakesFields read front state mid) (hfield : RefusesField read key value mid)
    {first : Bool} {text : List Char}
    (htext : SpellsFields first (front ++ (key, value) :: behind) text) {bound : List Char}
    (hbound : (front ++ (key, value) :: behind).length < bound.length) (after : List Char) :
    readFields read bound first state (text ++ '\x7d' :: after) = .error .malformed := by
  induction hfront generalizing first text bound with
  | nil state =>
    obtain ⟨c, bound, rfl⟩ := List.exists_cons_of_length_pos (Nat.zero_lt_of_lt hbound)
    cases htext with
    | @cons _ _ _ _ gap colon text rest hgap hcolon hspells hrest =>
      have hrefused := hfield (rest ++ '\x7d' :: after) hcolon hspells
      simp only [List.append_assoc, List.cons_append]
      rw [readFields_cons read hgap, hrefused]
      rfl
  | cons htake _ ih =>
    obtain ⟨c, bound, rfl⟩ := List.exists_cons_of_length_pos (Nat.zero_lt_of_lt hbound)
    cases htext with
    | @cons _ _ _ _ gap colon text rest hgap hcolon hspells hrest =>
      have htaken := htake hcolon hspells (hrest.ends after)
      simp only [List.append_assoc, List.cons_append]
      rw [readFields_cons read hgap, htaken]
      exact ih hfield hrest (Nat.lt_of_succ_lt_succ hbound)

/-- A field whose value is refused is refused past its colon. -/
theorem Refuses.pastColon {β : Type} {read : List Char → Except ReadError (α × List Char)}
    {value : Json} (h : Refuses read value) (f : α → β) {colon text : List Char}
    (after : List Char) (hcolon : IsBetween [':'] colon) (htext : Spells value text) :
    (do let text ← pastColon (colon ++ (text ++ after))
        let (a, text) ← read text
        return (f a, text)) = Except.error .malformed := by
  obtain ⟨behind, hbehind, hpast⟩ := hcolon.exists_pastColon (text ++ after)
  simp only [hpast, bind, Except.bind, h after hbehind htext]

theorem refusesField_readEntry {item : List Char → Except ReadError (α × List Char)} {key : String}
    {value : Json} (h : Refuses item value) (entries : List (String × α)) :
    RefusesField (readEntry item) key value entries :=
  fun _ _ after hcolon htext => h.pastColon (insertField key · entries) after hcolon htext

theorem refusesField_into (strict : Bool) {fields : List (Reader.Field σ)} {levels : Nat}
    {key name : String} {inner : Reader α} {set : α → σ → σ} {isSet : σ → Bool} {required : Bool}
    {value : Json} {draft : σ}
    (hfield : fields.find? (·.name == key) = some ⟨name, into inner set, isSet, required⟩)
    (hunset : isSet draft = false) (hread : Refuses (inner levels) value) :
    RefusesField (readField strict fields levels) key value draft := by
  intro colon text after hcolon htext
  simp only [readField, hfield, hunset, Bool.false_eq_true, if_false]
  have hchange : Refuses (into inner set levels) value := hread.map _
  exact hchange.pastColon (· draft) after hcolon htext

/-- The reader of maps refuses an object with ascending keys if it refuses an entry after others
that it takes. -/
theorem refuses_map {item : Reader α} {levels : Nat} {front behind : List (String × Json)}
    {key : String} {value : Json} {entries : List (String × α)}
    (hfront : List.Forall₂ (TakesEntry (item levels)) front entries)
    (hascending : entries.Pairwise (·.1 < ·.1)) (hvalue : Refuses (item levels) value) :
    Refuses (Reader.map item (levels + 1)) (.object (front ++ (key, value) :: behind)) := by
  intro blanks text after hblanks htext
  obtain ⟨inner, hfields, hskip⟩ := htext.exists_fields hblanks after
  have hread := readFields_of_refuses (takesFields_entries hfront hascending)
    (refusesField_readEntry hvalue _) hfields (hfields.length_lt '\x7d' after) after
  rw [map_of_skipBlanks item levels hskip, hread]
  rfl

/-- The reader of records refuses an object if it refuses the value of a field after others that it
takes. -/
theorem refuses_record (name : String) {strict : Bool} {fields : List (Reader.Field σ)}
    {empty draft : σ} {levels : Nat} {front behind : List (String × Json)} {key label : String}
    {inner : Reader α} {set : α → σ → σ} {isSet : σ → Bool} {required : Bool} {value : Json}
    (hfront : TakesFields (readField strict fields levels) front empty draft)
    (hfield : fields.find? (·.name == key) = some ⟨label, into inner set, isSet, required⟩)
    (hunset : isSet draft = false) (hvalue : Refuses (inner levels) value) :
    Refuses (Reader.record name strict fields empty (levels + 1))
      (.object (front ++ (key, value) :: behind)) := by
  intro blanks text after hblanks htext
  obtain ⟨inner, hvalues, hskip⟩ := htext.exists_fields hblanks after
  have hread := readFields_of_refuses hfront (refusesField_into strict hfield hunset hvalue) hvalues
    (hvalues.length_lt '\x7d' after) after
  rw [record_of_skipBlanks name strict fields empty levels hskip, hread]
  rfl

/-- Where no bracket may be opened any more, arrays and objects are refused. -/
theorem refuses_readValue_zero {value : Json} (h : 0 < value.nesting) :
    Refuses (readValue 0) value := by
  intro blanks text after hblanks htext
  have hskip := htext.skipBlanks_append hblanks after
  unfold readValue
  rw [hskip]
  cases htext <;> simp [nesting] at h ⊢

/-- The first of the members of a list that do not have a property. -/
theorem exists_first_not {γ : Type} {p : γ → Prop} {l : List γ} (h : ¬∀ x ∈ l, p x) :
    ∃ front x behind, l = front ++ x :: behind ∧ (∀ y ∈ front, p y) ∧ ¬p x := by
  induction l with
  | nil => exact absurd (List.forall_mem_nil p) h
  | cons x l ih =>
    by_cases hx : p x
    · obtain ⟨front, y, behind, rfl, hfront, hy⟩ :=
        ih fun hl => h (List.forall_mem_cons.mpr ⟨hx, hl⟩)
      exact ⟨x :: front, y, behind, rfl, List.forall_mem_cons.mpr ⟨hx, hfront⟩, hy⟩
    · exact ⟨[], x, l, rfl, List.forall_mem_nil p, hx⟩

theorem refuses_readValue_array {levels : Nat} {items : List Json}
    (hfree : ∀ item ∈ items, item.IsFloatFree) (hproper : ∀ item ∈ items, item.IsProper)
    (hrefuses : ∀ item ∈ items, levels < item.nesting → Refuses (readValue levels) item)
    (hdeep : levels + 1 < nesting (.array items)) :
    Refuses (readValue (levels + 1)) (.array items) := by
  obtain ⟨front, item, behind, rfl, hfront, hitem⟩ :=
    exists_first_not fun h => absurd (nesting_array_le.mpr h) (Nat.not_le.mpr hdeep)
  have htaken : List.Forall₂ (Takes (readValue levels)) front front :=
    List.forall₂_same.mpr <| takes_readValue_items front
      (fun item h => hfree item (List.mem_append_left _ h))
      (fun item h => hproper item (List.mem_append_left _ h)) hfront
  have hrefused := hrefuses item (by simp) (Nat.not_le.mp hitem)
  intro blanks text after hblanks htext
  obtain ⟨inner, hitems, hskip⟩ := htext.exists_items hblanks after
  have hread := readItems_of_refuses htaken hrefused hitems [] (hitems.length_lt ']' after) after
  rw [readValue_of_bracket levels hskip, hread]
  rfl

theorem refuses_readValue_object {levels : Nat} {fields : List (String × Json)}
    (hfree : ∀ field ∈ fields, field.2.IsFloatFree) (hproper : ∀ field ∈ fields, field.2.IsProper)
    (hascending : fields.Pairwise (·.1 < ·.1))
    (hrefuses : ∀ field ∈ fields, levels < field.2.nesting → Refuses (readValue levels) field.2)
    (hdeep : levels + 1 < nesting (.object fields)) :
    Refuses (readValue (levels + 1)) (.object fields) := by
  obtain ⟨front, ⟨key, value⟩, behind, rfl, hfront, hfield⟩ :=
    exists_first_not fun h => absurd (nesting_object_le.mpr h) (Nat.not_le.mpr hdeep)
  have htakes := takes_readValue_fields front
    (fun field h => hfree field (List.mem_append_left _ h))
    (fun field h => hproper field (List.mem_append_left _ h)) hfront
  have htaken : TakesFields (readEntry (readValue levels)) front [] front :=
    takesFields_entries (List.forall₂_same.mpr fun field h => ⟨rfl, htakes field h⟩)
      (List.pairwise_append.mp hascending).1
  have hrefused := hrefuses (key, value) (by simp) (Nat.not_le.mp hfield)
  intro blanks text after hblanks htext
  obtain ⟨inner, hfields, hskip⟩ := htext.exists_fields hblanks after
  have hread := readFields_of_refuses htaken (refusesField_readEntry hrefused _) hfields
    (hfields.length_lt '\x7d' after) after
  rw [readValue_of_brace levels hskip, hread]
  rfl

mutual

/-- **A value that is too deep is refused.** -/
theorem refuses_readValue : (value : Json) → value.IsFloatFree → value.IsProper → {levels : Nat} →
    levels < value.nesting → Refuses (readValue levels) value
  | .null, _, _, _, h | .bool _, _, _, _, h | .number _, _, _, _, h | .string _, _, _, _, h =>
    absurd h (by simp [nesting])
  | .array _, _, _, 0, h | .object _, _, _, 0, h => refuses_readValue_zero h
  | .array items, hfree, hproper, levels + 1, h =>
    have hfree := isFloatFree_array.mp hfree
    have hproper := isProper_array.mp hproper
    refuses_readValue_array hfree hproper (refuses_readValue_items items hfree hproper) h
  | .object fields, hfree, hproper, levels + 1, h =>
    have hfree := isFloatFree_object.mp hfree
    have hproper := isProper_object.mp hproper
    refuses_readValue_object hfree hproper.2 hproper.1
      (refuses_readValue_fields fields hfree hproper.2) h

theorem refuses_readValue_items : (items : List Json) → (∀ item ∈ items, item.IsFloatFree) →
    (∀ item ∈ items, item.IsProper) → {levels : Nat} →
    ∀ item ∈ items, levels < item.nesting → Refuses (readValue levels) item
  | [], _, _, _ => by simp
  | item :: rest, hfree, hproper, levels => by
    rw [List.forall_mem_cons] at hfree hproper ⊢
    exact ⟨refuses_readValue item hfree.1 hproper.1,
      refuses_readValue_items rest hfree.2 hproper.2⟩

theorem refuses_readValue_fields : (fields : List (String × Json)) →
    (∀ field ∈ fields, field.2.IsFloatFree) → (∀ field ∈ fields, field.2.IsProper) →
    {levels : Nat} → ∀ field ∈ fields, levels < field.2.nesting → Refuses (readValue levels) field.2
  | [], _, _, _ => by simp
  | (key, value) :: rest, hfree, hproper, levels => by
    rw [List.forall_mem_cons] at hfree hproper ⊢
    exact ⟨refuses_readValue value hfree.1 hproper.1,
      refuses_readValue_fields rest hfree.2 hproper.2⟩

end

end Json

end StreamLint
