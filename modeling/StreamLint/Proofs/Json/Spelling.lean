import StreamLint.Proofs.Json.Words
/-!
# Texts that spell a value

A value can be written in many ways: blanks may stand between any two of its words.
`StreamLint.Json.Spells` says by rules which texts spell a value, and leaves the blanks open. Both
printers spell values without floating-point numbers, one without blanks and one with a line for
every item and field (`StreamLint.Json.spells_compress`, `StreamLint.Json.spells_prettyAt`). So a
reader that reads every spelling of a value reads what either of them writes
(`StreamLint.Json.IsWritten`).
-/

namespace StreamLint

namespace Json

/-! ### The rules -/

/-- The text is the mark, with any blanks around it. -/
def IsBetween (mark text : List Char) : Prop :=
  ∃ before after, AreBlanks before ∧ AreBlanks after ∧ text = before ++ (mark ++ after)

/-- What stands before an item or a field: a comma unless it is the first one. -/
def IsGap (first : Bool) : List Char → Prop :=
  IsBetween (if first then [] else [','])

mutual

/-- **The text spells the value**, without blanks around it. -/
inductive Spells : Json → List Char → Prop where
  /-- The word `null`. -/
  | nullWord : Spells .null ['n', 'u', 'l', 'l']
  /-- The word `true`. -/
  | trueWord : Spells (.bool true) ['t', 'r', 'u', 'e']
  /-- The word `false`. -/
  | falseWord : Spells (.bool false) ['f', 'a', 'l', 's', 'e']
  /-- A whole number. -/
  | integer (n : Int) : Spells (.number (.integer n)) (Number.integer n).text.toList
  /-- A string in its quotes. -/
  | string (s : String) : Spells (.string s) ('"' :: (escapes s ++ ['"']))
  /-- Items in brackets. -/
  | array {items : List Json} {text : List Char} (h : SpellsItems true items text) :
    Spells (.array items) ('[' :: (text ++ [']']))
  /-- Fields in braces. -/
  | object {fields : List (String × Json)} {text : List Char} (h : SpellsFields true fields text) :
    Spells (.object fields) ('\x7b' :: (text ++ ['\x7d']))

/-- The text spells the items of an array up to its closing bracket; a comma stands before all but
the first. -/
inductive SpellsItems : Bool → List Json → List Char → Prop where
  /-- No more items. -/
  | nil {first : Bool} {blanks : List Char} (h : AreBlanks blanks) : SpellsItems first [] blanks
  /-- An item, and those after it. -/
  | cons {first : Bool} {item : Json} {items : List Json} {gap text rest : List Char}
    (hgap : IsGap first gap) (hitem : Spells item text) (hrest : SpellsItems false items rest) :
    SpellsItems first (item :: items) (gap ++ (text ++ rest))

/-- The text spells the fields of an object up to its closing brace; a comma stands before all but
the first. -/
inductive SpellsFields : Bool → List (String × Json) → List Char → Prop where
  /-- No more fields. -/
  | nil {first : Bool} {blanks : List Char} (h : AreBlanks blanks) : SpellsFields first [] blanks
  /-- A field, and those after it. -/
  | cons {first : Bool} {key : String} {value : Json} {fields : List (String × Json)}
    {gap colon text rest : List Char} (hgap : IsGap first gap) (hcolon : IsBetween [':'] colon)
    (hvalue : Spells value text) (hrest : SpellsFields false fields rest) :
    SpellsFields first ((key, value) :: fields)
      (gap ++ ('"' :: (escapes key ++ '"' :: (colon ++ (text ++ rest)))))

end

/-! ### Where a spelling begins and ends -/

/-- The digits of a number begin with a digit. -/
theorem exists_toDigits_eq_cons (n : Nat) :
    ∃ first digits, Nat.toDigits 10 n = first :: digits ∧ first.isDigit = true := by
  cases h : Nat.toDigits 10 n with
  | nil => exact absurd h Nat.toDigits_ne_nil
  | cons first digits =>
    have hmem : first ∈ Nat.toDigits 10 n := h ▸ List.mem_cons_self
    exact ⟨first, digits, rfl, Nat.isDigit_of_mem_toDigits (by decide) (by decide) hmem⟩

theorem isJsonBlank_of_isDigit {c : Char} (h : c.isDigit = true) : isJsonBlank c = false := by
  by_contra hblank
  simp only [isJsonBlank, Bool.not_eq_false, Bool.or_eq_true, beq_iff_eq] at hblank
  rcases hblank with ((rfl | rfl) | rfl) | rfl <;> exact absurd h (by decide)

/-- A spelling begins with a character that is no blank and no closing bracket; only that of `null`
begins as that word does. -/
theorem Spells.exists_cons {value : Json} {text : List Char} (h : Spells value text) :
    ∃ c rest, text = c :: rest ∧ isJsonBlank c = false ∧ c ≠ ']' ∧ (c = 'n' → value = .null) := by
  cases h with
  | nullWord => exact ⟨_, _, rfl, rfl, by decide, fun _ => rfl⟩
  | integer n =>
    obtain ⟨first, digits, hdigits, hfirst⟩ := exists_toDigits_eq_cons n.natAbs
    rw [toList_text_integer, hdigits]
    split
    next => exact ⟨'-', _, rfl, rfl, by decide, by simp⟩
    next =>
      refine ⟨first, digits, rfl, isJsonBlank_of_isDigit hfirst, ?_, ?_⟩ <;>
        · rintro rfl
          exact absurd hfirst (by decide)
  | _ => exact ⟨_, _, rfl, rfl, by decide, by simp⟩

/-- Blanks before a spelling are passed over, and the spelling is not touched. -/
theorem Spells.skipBlanks_append {value : Json} {text : List Char} (h : Spells value text)
    {blanks : List Char} (hblanks : AreBlanks blanks) (after : List Char) :
    skipBlanks (blanks ++ (text ++ after)) = text ++ after := by
  obtain ⟨c, rest, rfl, hc, -, -⟩ := h.exists_cons
  rw [hblanks.skipBlanks_append, List.cons_append, skipBlanks_cons hc]

/-- Past the blanks before an array and its bracket, its items are spelled. -/
theorem Spells.exists_items {items : List Json} {text : List Char} (h : Spells (.array items) text)
    {blanks : List Char} (hblanks : AreBlanks blanks) (after : List Char) :
    ∃ inner, SpellsItems true items inner ∧
      skipBlanks (blanks ++ (text ++ after)) = '[' :: (inner ++ ']' :: after) := by
  have hskip := h.skipBlanks_append hblanks after
  cases h with
  | @array _ inner hitems => exact ⟨inner, hitems, by simpa using hskip⟩

/-- Past the blanks before an object and its brace, its fields are spelled. -/
theorem Spells.exists_fields {fields : List (String × Json)} {text : List Char}
    (h : Spells (.object fields) text) {blanks : List Char} (hblanks : AreBlanks blanks)
    (after : List Char) :
    ∃ inner, SpellsFields true fields inner ∧
      skipBlanks (blanks ++ (text ++ after)) = '\x7b' :: (inner ++ '\x7d' :: after) := by
  have hskip := h.skipBlanks_append hblanks after
  cases h with
  | @object _ inner hfields => exact ⟨inner, hfields, by simpa using hskip⟩

/-- What follows an item does not go on with it. -/
theorem SpellsItems.ends {items : List Json} {text : List Char} (h : SpellsItems false items text)
    (after : List Char) : Ends (text ++ ']' :: after) := by
  have hbracket : Ends (']' :: after) := ends_cons.mpr (by decide)
  cases h with
  | nil hblanks => exact hblanks.ends_append hbracket
  | cons hgap _ _ =>
    obtain ⟨before, behind, hbefore, -, rfl⟩ := hgap
    simp only [Bool.false_eq_true, if_false, List.append_assoc]
    exact hbefore.ends_append (ends_cons.mpr (by decide))

/-- What follows a field does not go on with it. -/
theorem SpellsFields.ends {fields : List (String × Json)} {text : List Char}
    (h : SpellsFields false fields text) (after : List Char) : Ends (text ++ '\x7d' :: after) := by
  have hbracket : Ends ('\x7d' :: after) := ends_cons.mpr (by decide)
  cases h with
  | nil hblanks => exact hblanks.ends_append hbracket
  | cons hgap _ _ _ =>
    obtain ⟨before, behind, hbefore, -, rfl⟩ := hgap
    simp only [Bool.false_eq_true, if_false, List.append_assoc]
    exact hbefore.ends_append (ends_cons.mpr (by decide))

/-- Every item takes a character at least, so the text is bound enough for a reader of items. -/
theorem SpellsItems.length_lt {first : Bool} {items : List Json} {text : List Char}
    (h : SpellsItems first items text) (c : Char) (after : List Char) :
    items.length < (text ++ c :: after).length := by
  induction items generalizing first text with
  | nil => exact List.length_pos_of_mem (List.mem_append_right text List.mem_cons_self)
  | cons item items ih =>
    cases h with
    | cons _ hitem hrest =>
      obtain ⟨d, rest, rfl, -⟩ := hitem.exists_cons
      have hlt := ih hrest
      simp only [List.length_append, List.length_cons] at hlt ⊢
      omega

/-- Every field takes a character at least, so the text is bound enough for a reader of fields. -/
theorem SpellsFields.length_lt {first : Bool} {fields : List (String × Json)} {text : List Char}
    (h : SpellsFields first fields text) (c : Char) (after : List Char) :
    fields.length < (text ++ c :: after).length := by
  induction fields generalizing first text with
  | nil => exact List.length_pos_of_mem (List.mem_append_right text List.mem_cons_self)
  | cons field fields ih =>
    cases h with
    | cons _ _ _ hrest =>
      have hlt := ih hrest
      simp only [List.length_append, List.length_cons] at hlt ⊢
      omega

/-! ### What is in a value -/

mutual

/-- The value, and the values in it. -/
def parts : Json → List Json
  | array items => .array items :: partsOfItems items
  | object fields => .object fields :: partsOfFields fields
  | value => [value]

/-- Items, and the values in them. -/
def partsOfItems : List Json → List Json
  | [] => []
  | item :: rest => item.parts ++ partsOfItems rest

/-- The values of fields, and the values in them. -/
def partsOfFields : List (String × Json) → List Json
  | [] => []
  | (_, value) :: rest => value.parts ++ partsOfFields rest

end

/-- Every value in the value has the property, the value itself included. -/
def Throughout (p : Json → Prop) (value : Json) : Prop :=
  ∀ part ∈ value.parts, p part

theorem throughout_array {p : Json → Prop} {items : List Json} :
    Throughout p (.array items) ↔ p (.array items) ∧ ∀ item ∈ items, Throughout p item := by
  have hitems : (∀ part ∈ partsOfItems items, p part) ↔ ∀ item ∈ items, Throughout p item := by
    induction items with
    | nil => simp [partsOfItems]
    | cons item items ih =>
      rw [partsOfItems, List.forall_mem_append, ih, List.forall_mem_cons, Throughout]
  rw [Throughout, parts, List.forall_mem_cons, hitems]

theorem throughout_object {p : Json → Prop} {fields : List (String × Json)} :
    Throughout p (.object fields) ↔
      p (.object fields) ∧ ∀ field ∈ fields, Throughout p field.2 := by
  have hfields : (∀ part ∈ partsOfFields fields, p part) ↔
      ∀ field ∈ fields, Throughout p field.2 := by
    induction fields with
    | nil => simp [partsOfFields]
    | cons field fields ih =>
      rw [partsOfFields, List.forall_mem_append, ih, List.forall_mem_cons, Throughout]
  rw [Throughout, parts, List.forall_mem_cons, hfields]

/-- There is no floating-point number in the value. -/
def IsFloatFree : Json → Prop :=
  Throughout fun part => ∀ x, part ≠ .number (.float x)

theorem isFloatFree_array {items : List Json} :
    IsFloatFree (.array items) ↔ ∀ item ∈ items, item.IsFloatFree := by
  simp [IsFloatFree, throughout_array]

theorem isFloatFree_object {fields : List (String × Json)} :
    IsFloatFree (.object fields) ↔ ∀ field ∈ fields, field.2.IsFloatFree := by
  simp [IsFloatFree, throughout_object]

@[simp] theorem isFloatFree_string (s : String) : IsFloatFree (.string s) := by
  simp [IsFloatFree, Throughout, parts]

@[simp] theorem isFloatFree_bool (b : Bool) : IsFloatFree (.bool b) := by
  simp [IsFloatFree, Throughout, parts]

@[simp] theorem isFloatFree_ofNat (n : Nat) : IsFloatFree (ofNat n) := by
  simp [ofNat, ofInt, IsFloatFree, Throughout, parts]

theorem not_isFloatFree_float (x : Float) : ¬IsFloatFree (.number (.float x)) :=
  fun h => h (.number (.float x)) (by simp [parts]) x rfl

/-! ### What the printers write -/

/-- Blanks may stand after a mark. -/
theorem isBetween_append {blanks : List Char} (mark : List Char) (h : AreBlanks blanks) :
    IsBetween mark (mark ++ blanks) :=
  ⟨[], blanks, areBlanks_nil, h, rfl⟩

/-- The first item or field may stand after blanks. -/
theorem isGap_first {blanks : List Char} (h : AreBlanks blanks) : IsGap true blanks :=
  isBetween_append [] h

/-- The other ones may stand after a comma and blanks. -/
theorem isGap_comma {blanks : List Char} (h : AreBlanks blanks) : IsGap false (',' :: blanks) :=
  isBetween_append [','] h

theorem IsGap.comma_cons {gap : List Char} (h : IsGap true gap) : IsGap false (',' :: gap) := by
  obtain ⟨before, behind, hbefore, hbehind, rfl⟩ := h
  exact isGap_comma fun c hc => (List.mem_append.mp hc).elim (hbefore c) (hbehind c)

/-- The first items may come later, past a comma. -/
theorem SpellsItems.comma_cons {item : Json} {items : List Json} {text : List Char}
    (h : SpellsItems true (item :: items) text) :
    SpellsItems false (item :: items) (',' :: text) := by
  cases h with
  | cons hgap hitem hrest => exact .cons hgap.comma_cons hitem hrest

/-- The first fields may come later, past a comma. -/
theorem SpellsFields.comma_cons {field : String × Json} {fields : List (String × Json)}
    {text : List Char} (h : SpellsFields true (field :: fields) text) :
    SpellsFields false (field :: fields) (',' :: text) := by
  cases h with
  | cons hgap hcolon hvalue hrest => exact .cons hgap.comma_cons hcolon hvalue hrest

-- The recursion is that of the printer.
mutual

/-- **What is written on one line** spells the value. -/
theorem spells_compress : (value : Json) → value.IsFloatFree → Spells value value.compress.toList
  | .null, _ => by simpa [compress] using Spells.nullWord
  | .bool true, _ => by simpa [compress] using Spells.trueWord
  | .bool false, _ => by simpa [compress] using Spells.falseWord
  | .number (.integer n), _ => by simpa [compress] using Spells.integer n
  | .number (.float x), h => absurd h (not_isFloatFree_float x)
  | .string s, _ => by simpa [compress, toList_escapeString] using Spells.string s
  | .array items, h => by
    have hitems := spells_compressItems items (isFloatFree_array.mp h)
    simpa [compress] using Spells.array hitems
  | .object fields, h => by
    have hfields := spells_compressFields fields (isFloatFree_object.mp h)
    simpa [compress] using Spells.object hfields

theorem spells_compressItems : (items : List Json) → (∀ item ∈ items, item.IsFloatFree) →
    SpellsItems true items (compressItems items).toList
  | [], _ => by simpa [compressItems] using SpellsItems.nil areBlanks_nil
  | [item], h => by
    have hitem := spells_compress item (h item List.mem_cons_self)
    simpa [compressItems] using
      SpellsItems.cons (isGap_first areBlanks_nil) hitem (.nil areBlanks_nil)
  | item :: second :: rest, h => by
    obtain ⟨hitem, hrest⟩ := List.forall_mem_cons.mp h
    have hitem := spells_compress item hitem
    have hrest := spells_compressItems (second :: rest) hrest
    simpa [compressItems] using
      SpellsItems.cons (isGap_first areBlanks_nil) hitem hrest.comma_cons

theorem spells_compressFields : (fields : List (String × Json)) →
    (∀ field ∈ fields, field.2.IsFloatFree) →
    SpellsFields true fields (compressFields fields).toList
  | [], _ => by simpa [compressFields] using SpellsFields.nil areBlanks_nil
  | [(key, value)], h => by
    have hvalue := spells_compress value (h (key, value) List.mem_cons_self)
    simpa [compressFields, toList_escapeString] using
      SpellsFields.cons (isGap_first areBlanks_nil) (isBetween_append [':'] areBlanks_nil) hvalue
        (.nil areBlanks_nil)
  | (key, value) :: second :: rest, h => by
    obtain ⟨hvalue, hrest⟩ := List.forall_mem_cons.mp h
    have hvalue := spells_compress value hvalue
    have hrest := spells_compressFields (second :: rest) hrest
    simpa [compressFields, toList_escapeString] using
      SpellsFields.cons (isGap_first areBlanks_nil) (isBetween_append [':'] areBlanks_nil) hvalue
        hrest.comma_cons

end

theorem areBlanks_newLine (depth : Nat) : AreBlanks (newLine depth).toList := by
  intro c hc
  simp only [newLine, String.toList_append, List.mem_append, String.toList_ofList,
    List.mem_replicate] at hc
  rcases hc with hc | ⟨-, rfl⟩
  · obtain rfl : c = '\n' := by simpa using hc
    rfl
  · rfl

theorem areBlanks_blank : AreBlanks [' '] := by
  simp [AreBlanks, isJsonBlank]

mutual

/-- **What is written over several lines** spells the value, at any depth. -/
theorem spells_prettyAt (depth : Nat) : (value : Json) → value.IsFloatFree →
    Spells value (value.prettyAt depth).toList
  | .null, _ => by simpa [prettyAt] using Spells.nullWord
  | .bool true, _ => by simpa [prettyAt] using Spells.trueWord
  | .bool false, _ => by simpa [prettyAt] using Spells.falseWord
  | .number (.integer n), _ => by simpa [prettyAt] using Spells.integer n
  | .number (.float x), h => absurd h (not_isFloatFree_float x)
  | .string s, _ => by simpa [prettyAt, toList_escapeString] using Spells.string s
  | .array [], _ => by simpa [prettyAt] using Spells.array (.nil areBlanks_nil)
  | .array (item :: rest), h => by
    obtain ⟨hitem, hrest⟩ := List.forall_mem_cons.mp (isFloatFree_array.mp h)
    have hitem := spells_prettyAt (depth + 1) item hitem
    have hrest := spells_prettyItems (depth + 1) rest (areBlanks_newLine depth) hrest
    simpa [prettyAt] using
      Spells.array (.cons (isGap_first (areBlanks_newLine (depth + 1))) hitem hrest)
  | .object [], _ => by simpa [prettyAt] using Spells.object (.nil areBlanks_nil)
  | .object ((key, value) :: rest), h => by
    obtain ⟨hvalue, hrest⟩ := List.forall_mem_cons.mp (isFloatFree_object.mp h)
    have hvalue := spells_prettyAt (depth + 1) value hvalue
    have hrest := spells_prettyFields (depth + 1) rest (areBlanks_newLine depth) hrest
    simpa [prettyAt, toList_escapeString] using
      Spells.object (.cons (isGap_first (areBlanks_newLine (depth + 1)))
        (isBetween_append [':'] areBlanks_blank) hvalue hrest)

theorem spells_prettyItems (depth : Nat) : (items : List Json) → {blanks : List Char} →
    AreBlanks blanks → (∀ item ∈ items, item.IsFloatFree) →
    SpellsItems false items ((prettyItems depth items).toList ++ blanks)
  | [], _, hblanks, _ => by simpa [prettyItems] using SpellsItems.nil hblanks
  | item :: rest, _, hblanks, h => by
    obtain ⟨hitem, hrest⟩ := List.forall_mem_cons.mp h
    have hitem := spells_prettyAt depth item hitem
    have hrest := spells_prettyItems depth rest hblanks hrest
    simpa [prettyItems] using
      SpellsItems.cons (isGap_comma (areBlanks_newLine depth)) hitem hrest

theorem spells_prettyFields (depth : Nat) : (fields : List (String × Json)) →
    {blanks : List Char} → AreBlanks blanks → (∀ field ∈ fields, field.2.IsFloatFree) →
    SpellsFields false fields ((prettyFields depth fields).toList ++ blanks)
  | [], _, hblanks, _ => by simpa [prettyFields] using SpellsFields.nil hblanks
  | (key, value) :: rest, _, hblanks, h => by
    obtain ⟨hvalue, hrest⟩ := List.forall_mem_cons.mp h
    have hvalue := spells_prettyAt depth value hvalue
    have hrest := spells_prettyFields depth rest hblanks hrest
    simpa [prettyFields, toList_escapeString] using
      SpellsFields.cons (isGap_comma (areBlanks_newLine depth))
        (isBetween_append [':'] areBlanks_blank) hvalue hrest

end

/-- The text is one of those that are written for the value, on one line or over several. -/
def IsWritten (value : Json) (text : String) : Prop :=
  text = value.compress ∨ text = value.pretty

/-- What is written for a value spells it. -/
theorem IsWritten.spells {value : Json} {text : String} (h : IsWritten value text)
    (hfree : value.IsFloatFree) : Spells value text.toList := by
  rcases h with rfl | rfl
  · exact spells_compress value hfree
  · exact spells_prettyAt 0 value hfree

end Json

end StreamLint
