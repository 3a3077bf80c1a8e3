import Mathlib.Data.List.Forall2
import StreamLint.Json.Reader
import StreamLint.Proofs.Json.Spelling
/-!
# Readers that take a value

A reader takes a value as `a` if it reads `a` off every spelling of the value, whatever blanks stand
before it, and leaves what follows (`StreamLint.Json.Takes`). The text that follows only has to end
a number, as the text after a value always does.

What a reader of lists, maps or records takes is put together from what the readers of their items
and fields take. A list is taken item by item (`StreamLint.Json.readItems_of_takes`). An object is
taken field by field, and every field takes the reader from one state to another
(`StreamLint.Json.TakesFields`): the entries so far for a map, the draft for a record.
-/

namespace StreamLint

namespace Json

variable {α β σ : Type}

/-- **The reader takes the value as `a`.** -/
def Takes (read : List Char → Except ReadError (α × List Char)) (value : Json) (a : α) : Prop :=
  ∀ ⦃blanks text after : List Char⦄, AreBlanks blanks → Spells value text → Ends after →
    read (blanks ++ (text ++ after)) = .ok (a, after)

/-- What is done with the result of a reader has no part in what it takes. -/
theorem Takes.map {read : List Char → Except ReadError (α × List Char)} {value : Json} {a : α}
    (h : Takes read value a) (f : α → β) :
    Takes (fun text => (read text).map fun (a, rest) => (f a, rest)) value (f a) := by
  intro blanks text after hblanks htext hafter
  simp only [h hblanks htext hafter]
  rfl

theorem Takes.returned {read : List Char → Except ReadError (α × List Char)} {value : Json} {a : α}
    (h : Takes read value a) (f : α → β) :
    Takes (fun text => do let (a, rest) ← read text; return (f a, rest)) value (f a) := by
  intro blanks text after hblanks htext hafter
  simp only [h hblanks htext hafter]
  rfl

/-- **A whole text is read** by a reader that takes its value. -/
theorem Takes.run {reader : Reader α} {value : Json} {a : α}
    (h : Takes (reader nestingLimit) value a) {text : String} (htext : Spells value text.toList) : reader.run text = .ok a := by
  have hread := h areBlanks_nil htext ends_nil
  simp only [List.nil_append, List.append_nil] at hread
  simp only [Reader.run, hread]
  rfl

/-! ### Lists of items -/

/-- Past its comma, an item is found without the blanks before it. -/
theorem nextItem_gap {first : Bool} {gap text : List Char} {item : Json} (hgap : IsGap first gap)
    (hitem : Spells item text) (after : List Char) :
    nextItem first (gap ++ (text ++ after)) = .ok (.item (text ++ after)) := by
  obtain ⟨before, behind, hbefore, hbehind, rfl⟩ := hgap
  obtain ⟨c, rest, rfl, hc, hclosed, -⟩ := hitem.exists_cons
  have hskip : skipBlanks (behind ++ c :: (rest ++ after)) = c :: (rest ++ after) :=
    hitem.skipBlanks_append hbehind after
  unfold nextItem
  cases first with
  | true =>
    rw [List.append_assoc, hbefore.skipBlanks_append]
    simp [hskip]
  | false =>
    rw [List.append_assoc, hbefore.skipBlanks_append, if_neg (by decide), List.append_assoc,
      List.cons_append, skipBlanks_cons (by decide)]
    simp [hskip, hclosed]

/-- The closing bracket is found without the blanks before it. -/
theorem nextItem_closed (first : Bool) {blanks : List Char} (h : AreBlanks blanks)
    (after : List Char) :
    nextItem first (blanks ++ ']' :: after) = .ok (.closed (']' :: after)) := by
  rw [nextItem, h.skipBlanks_append, skipBlanks_cons (by decide)]
  rfl

theorem closeWith_cons {bracket : Char} (h : isJsonBlank bracket = false) (after : List Char) :
    closeWith bracket (bracket :: after) = .ok after := by
  simp [closeWith, skipBlanks_cons h]

/-- One item is read, and then those after it. -/
theorem readItems_cons (read : List Char → Except ReadError (α × List Char)) {first : Bool}
    {gap text : List Char} {item : Json} (hgap : IsGap first gap) (hitem : Spells item text)
    (taken : List α) (c : Char) (bound rest : List Char) :
    readItems read (c :: bound) first taken (gap ++ (text ++ rest)) =
      (do let (a, text) ← read (text ++ rest)
          readItems read bound false (a :: taken) text) := by
  rw [readItems, nextItem_gap hgap hitem]
  rfl

/-- **Items that are taken one by one are taken together**, if the bound allows it. -/
theorem readItems_of_takes {read : List Char → Except ReadError (α × List Char)}
    {items : List Json} {as : List α} (hread : List.Forall₂ (Takes read) items as)
    {first : Bool} {text : List Char} (htext : SpellsItems first items text) (taken : List α)
    {bound : List Char} (hbound : items.length < bound.length) (after : List Char) :
    readItems read bound first taken (text ++ ']' :: after) =
      .ok (taken.reverse ++ as, ']' :: after) := by
  induction hread generalizing first text taken bound with
  | nil =>
    obtain ⟨c, bound, rfl⟩ := List.exists_cons_of_length_pos (Nat.zero_lt_of_lt hbound)
    cases htext with
    | nil hblanks =>
      rw [readItems, nextItem_closed first hblanks, List.append_nil]
      rfl
  | @cons item a items as hitem _ ih =>
    obtain ⟨c, bound, rfl⟩ := List.exists_cons_of_length_pos (Nat.zero_lt_of_lt hbound)
    cases htext with
    | @cons _ _ _ gap text rest hgap hspells hrest =>
      have htaken := hitem areBlanks_nil hspells (hrest.ends after)
      have hgoOn := ih hrest (a :: taken) (Nat.lt_of_succ_lt_succ hbound)
      rw [List.nil_append] at htaken
      rw [List.reverse_cons, List.append_assoc] at hgoOn
      rw [List.append_assoc, List.append_assoc, readItems_cons read hgap hspells, htaken]
      exact hgoOn

/-! ### Fields -/

/-- Past its comma and its opening quote, a key is found without the blanks before it. -/
theorem nextKey_gap {first : Bool} {gap : List Char} (hgap : IsGap first gap) (text : List Char) :
    nextKey first (gap ++ '"' :: text) = .ok (.item text) := by
  obtain ⟨before, behind, hbefore, hbehind, rfl⟩ := hgap
  have hskip : skipBlanks (behind ++ '"' :: text) = '"' :: text := by
    rw [hbehind.skipBlanks_append, skipBlanks_cons (by decide)]
  unfold nextKey
  cases first with
  | true =>
    rw [List.append_assoc, hbefore.skipBlanks_append]
    simp [hskip]
  | false =>
    rw [List.append_assoc, hbefore.skipBlanks_append, if_neg (by decide), List.append_assoc,
      List.cons_append, skipBlanks_cons (by decide)]
    simp [hskip]

/-- The closing brace is found without the blanks before it. -/
theorem nextKey_closed (first : Bool) {blanks : List Char} (h : AreBlanks blanks)
    (after : List Char) :
    nextKey first (blanks ++ '\x7d' :: after) = .ok (.closed ('\x7d' :: after)) := by
  rw [nextKey, h.skipBlanks_append, skipBlanks_cons (by decide)]
  rfl

/-- **The reader of fields takes a field**: with this key and this value it goes from one state to
another. -/
def TakesField (read : String → σ → List Char → Except ReadError (σ × List Char)) (key : String)
    (value : Json) (state next : σ) : Prop :=
  ∀ ⦃colon text after : List Char⦄, IsBetween [':'] colon → Spells value text → Ends after →
    read key state (colon ++ (text ++ after)) = .ok (next, after)

/-- Past the colon, blanks may be left. -/
theorem IsBetween.exists_pastColon {colon : List Char} (h : IsBetween [':'] colon)
    (text : List Char) :
    ∃ behind, AreBlanks behind ∧ pastColon (colon ++ text) = .ok (behind ++ text) := by
  obtain ⟨before, behind, hbefore, hbehind, rfl⟩ := h
  refine ⟨behind, hbehind, ?_⟩
  rw [pastColon, List.append_assoc, List.append_assoc, closeWith, hbefore.skipBlanks_append,
    List.cons_append, skipBlanks_cons (by decide)]
  rfl

/-- Past the colon, a value is read by a reader that takes it. -/
theorem Takes.pastColon {read : List Char → Except ReadError (α × List Char)} {value : Json} {a : α}
    (h : Takes read value a) (f : α → β) {colon text after : List Char}
    (hcolon : IsBetween [':'] colon) (htext : Spells value text) (hafter : Ends after) :
    (do let text ← pastColon (colon ++ (text ++ after))
        let (a, text) ← read text
        return (f a, text)) = Except.ok (f a, after) := by
  obtain ⟨behind, hbehind, hpast⟩ := hcolon.exists_pastColon (text ++ after)
  simp only [hpast, bind, Except.bind, h hbehind htext hafter]
  rfl

/-- The reader of fields takes the fields one after the other, from one state to another. -/
inductive TakesFields (read : String → σ → List Char → Except ReadError (σ × List Char)) :
    List (String × Json) → σ → σ → Prop where
  /-- No fields, and the state stays. -/
  | nil (state : σ) : TakesFields read [] state state
  /-- A field, and those after it. -/
  | cons {key : String} {value : Json} {fields : List (String × Json)} {state next last : σ}
    (hfield : TakesField read key value state next) (hrest : TakesFields read fields next last) :
    TakesFields read ((key, value) :: fields) state last

theorem TakesFields.append {read : String → σ → List Char → Except ReadError (σ × List Char)}
    {front behind : List (String × Json)} {state mid last : σ}
    (hfront : TakesFields read front state mid) (hbehind : TakesFields read behind mid last) :
    TakesFields read (front ++ behind) state last := by
  induction hfront with
  | nil => exact hbehind
  | cons hfield _ ih => exact .cons hfield (ih hbehind)

/-- The key of a field is read, then its value, and then the fields after it. -/
theorem readFields_cons (read : String → σ → List Char → Except ReadError (σ × List Char))
    {first : Bool} {gap : List Char} (hgap : IsGap first gap) (key : String) (state : σ) (c : Char)
    (bound rest : List Char) :
    readFields read (c :: bound) first state (gap ++ '"' :: (escapes key ++ '"' :: rest)) =
      (do let (state, text) ← read key state rest
          readFields read bound false state text) := by
  rw [readFields, nextKey_gap hgap]
  simp only [bind, Except.bind, readChars_escapes]

/-- **Fields that are taken one by one are taken together**, if the bound allows it. -/
theorem readFields_of_takes {read : String → σ → List Char → Except ReadError (σ × List Char)}
    {fields : List (String × Json)} {state last : σ} (hread : TakesFields read fields state last)
    {first : Bool} {text : List Char} (htext : SpellsFields first fields text)
    {bound : List Char} (hbound : fields.length < bound.length) (after : List Char) :
    readFields read bound first state (text ++ '\x7d' :: after) = .ok (last, '\x7d' :: after) := by
  induction hread generalizing first text bound with
  | nil state =>
    obtain ⟨c, bound, rfl⟩ := List.exists_cons_of_length_pos (Nat.zero_lt_of_lt hbound)
    cases htext with
    | nil hblanks =>
      rw [readFields, nextKey_closed first hblanks]
      rfl
  | cons hfield _ ih =>
    obtain ⟨c, bound, rfl⟩ := List.exists_cons_of_length_pos (Nat.zero_lt_of_lt hbound)
    cases htext with
    | @cons _ _ _ _ gap colon text rest hgap hcolon hspells hrest =>
      have htaken := hfield hcolon hspells (hrest.ends after)
      have hgoOn := ih hrest (Nat.lt_of_succ_lt_succ hbound)
      simp only [List.append_assoc, List.cons_append]
      rw [readFields_cons read hgap, htaken]
      exact hgoOn

/-! ### Words -/

/-- The reader of strings takes strings. -/
theorem takes_string (levels : Nat) (s : String) : Takes (Reader.string levels) (.string s) s := by
  intro blanks text after hblanks htext hafter
  have hskip := htext.skipBlanks_append hblanks after
  cases htext
  rw [Reader.string, Reader.stringAs, hskip]
  simpa using readChars_escapes s after

/-- The reader of truth values takes them. -/
theorem takes_boolean (levels : Nat) (b : Bool) : Takes (Reader.boolean levels) (.bool b) b := by
  intro blanks text after hblanks htext hafter
  have hskip := htext.skipBlanks_append hblanks after
  rw [Reader.boolean, hskip]
  cases htext <;> rfl

/-- A reader that may find nothing takes what it finds. -/
theorem takes_optional {inner : Reader α} {levels : Nat} {value : Json} {a : α}
    (h : Takes (inner levels) value a) (hvalue : value ≠ .null) :
    Takes (Reader.optional inner levels) value (some a) := by
  intro blanks text after hblanks htext hafter
  have hread := h areBlanks_nil htext hafter
  have hskip := htext.skipBlanks_append hblanks after
  obtain ⟨c, rest, rfl, -, -, hn⟩ := htext.exists_cons
  rw [List.nil_append] at hread
  rw [Reader.optional, hskip]
  split
  · simp_all
  · simp_all
  · rw [hread]
    rfl

/-- The reader of counts takes whole numbers of 64 bits. -/
theorem takes_whole (levels : Nat) {n : Nat} (h : n ≤ maxWhole) :
    Takes (Reader.whole levels) (.ofNat n) n := by
  rw [ofNat, ofInt]
  intro blanks text after hblanks htext hafter
  have hskip := htext.skipBlanks_append hblanks after
  cases htext
  have hread := readNumber_toDigits false hafter h (by simp)
  rw [toList_text_integer, if_neg (Int.not_lt.mpr (Int.natCast_nonneg n)), Int.natAbs_natCast]
    at hskip ⊢
  obtain ⟨first, digits, hdigits, hfirst⟩ := exists_toDigits_eq_cons n
  have hsign : first ≠ '-' := by
    rintro rfl
    exact absurd hfirst (by decide)
  rw [hdigits, List.cons_append] at hskip hread
  simp [Reader.whole, hdigits, hskip, hread, hfirst, bind, Except.bind, pure, Except.pure]

/-- The reader of names takes the names. -/
theorem takes_variant {names : List String} {ofName? : String → Option α} {levels : Nat}
    {name : String} {a : α} (h : ofName? name = some a) :
    Takes (Reader.variant names ofName? levels) (.string name) a := by
  intro blanks text after hblanks htext hafter
  have hskip := htext.skipBlanks_append hblanks after
  cases htext
  rw [Reader.variant, hskip]
  simp [readChars_escapes, h, bind, Except.bind, pure, Except.pure]

/-! ### Lists and maps -/

theorem closeWith_bracket (after : List Char) : closeWith ']' (']' :: after) = .ok after :=
  closeWith_cons rfl after

theorem closeWith_brace (after : List Char) :
    closeWith '\x7d' ('\x7d' :: after) = .ok after :=
  closeWith_cons rfl after

/-- Items that are taken as what was encoded in them. -/
theorem forall₂_takes_map {read : List Char → Except ReadError (α × List Char)} {encode : α → Json}
    {as : List α} (h : ∀ a ∈ as, Takes read (encode a) a) :
    List.Forall₂ (Takes read) (as.map encode) as :=
  List.forall₂_map_left_iff.mpr (List.forall₂_same.mpr h)

/-- The reader of lists takes an array of which it takes every item. -/
theorem takes_list {item : Reader α} {levels : Nat} {items : List Json} {as : List α}
    (h : List.Forall₂ (Takes (item levels)) items as) :
    Takes (Reader.list item (levels + 1)) (.array items) as := by
  intro blanks text after hblanks htext hafter
  obtain ⟨inner, hitems, hskip⟩ := htext.exists_items hblanks after
  have hread := readItems_of_takes h hitems [] (hitems.length_lt ']' after) after
  unfold Reader.list
  rw [hskip]
  simp [hread, closeWith_bracket, bind, Except.bind, pure, Except.pure]

/-- How a value under a key is added to the entries of a map. -/
def readEntry (item : List Char → Except ReadError (α × List Char)) (key : String)
    (entries : List (String × α)) (text : List Char) :
    Except ReadError (List (String × α) × List Char) := do
  let text ← pastColon text
  let (a, text) ← item text
  return (insertField key a entries, text)

/-- A key behind all others is put at the end. -/
theorem insertField_of_lt {key : String} {a : α} {entries : List (String × α)}
    (h : ∀ entry ∈ entries, entry.1 < key) : insertField key a entries = entries ++ [(key, a)] := by
  induction entries with
  | nil => rfl
  | cons entry entries ih =>
    obtain ⟨hentry, hentries⟩ := List.forall_mem_cons.mp h
    have hne : (key == entry.1) = false := by
      rw [beq_eq_false_iff_ne]
      rintro rfl
      exact absurd hentry (String.lt_irrefl _)
    have hnot : ¬key < entry.1 := fun hlt => String.lt_irrefl _ (String.lt_trans hentry hlt)
    rw [insertField, hne, if_neg Bool.false_ne_true, if_neg hnot, ih hentries, List.cons_append]

/-- A field is taken as an entry: the key is the same, and the value is taken. -/
def TakesEntry (item : List Char → Except ReadError (α × List Char)) (field : String × Json)
    (entry : String × α) : Prop :=
  field.1 = entry.1 ∧ Takes item field.2 entry.2

/-- **Fields in ascending order of their keys** are added to the entries in this order. -/
theorem takesFields_readEntry {item : List Char → Except ReadError (α × List Char)}
    {fields : List (String × Json)} {entries : List (String × α)}
    (h : List.Forall₂ (TakesEntry item) fields entries) {front : List (String × α)}
    (hascending : (front ++ entries).Pairwise (·.1 < ·.1)) :
    TakesFields (readEntry item) fields front (front ++ entries) := by
  induction h generalizing front with
  | nil =>
    rw [List.append_nil]
    exact .nil front
  | @cons field entry fields entries hfirst hrest ih =>
    obtain ⟨key, value⟩ := field
    obtain ⟨_, a⟩ := entry
    obtain ⟨rfl, hvalue⟩ := hfirst
    have hinsert : insertField key a front = front ++ [(key, a)] :=
      insertField_of_lt fun entry hentry =>
        (List.pairwise_append.mp hascending).2.2 entry hentry _ List.mem_cons_self
    rw [List.append_cons] at hascending ⊢
    refine .cons (fun colon text after hcolon htext hafter => ?_) (ih hascending)
    rw [← hinsert]
    exact hvalue.pastColon (insertField key · front) hcolon htext hafter

/-- An object with ascending keys is taken as its entries. -/
theorem takesFields_entries {item : List Char → Except ReadError (α × List Char)}
    {fields : List (String × Json)} {entries : List (String × α)}
    (h : List.Forall₂ (TakesEntry item) fields entries)
    (hascending : entries.Pairwise (·.1 < ·.1)) :
    TakesFields (readEntry item) fields [] entries :=
  takesFields_readEntry h hascending

/-- The reader of maps at an opening brace. -/
theorem map_of_skipBlanks (item : Reader α) (levels : Nat) {text rest : List Char}
    (h : skipBlanks text = '\x7b' :: rest) :
    Reader.map item (levels + 1) text = do
      let (entries, rest) ← readFields (readEntry (item levels)) rest true [] rest
      let rest ← closeWith '\x7d' rest
      return (entries, rest) := by
  unfold Reader.map
  rw [h]
  rfl

/-- The reader of maps takes an object with ascending keys of which it takes every entry. -/
theorem takes_map {item : Reader α} {levels : Nat} {fields : List (String × Json)}
    {entries : List (String × α)} (h : List.Forall₂ (TakesEntry (item levels)) fields entries)
    (hascending : entries.Pairwise (·.1 < ·.1)) :
    Takes (Reader.map item (levels + 1)) (.object fields) entries := by
  intro blanks text after hblanks htext hafter
  obtain ⟨inner, hfields, hskip⟩ := htext.exists_fields hblanks after
  have hread := readFields_of_takes (takesFields_entries h hascending) hfields
    (hfields.length_lt '\x7d' after) after
  rw [map_of_skipBlanks item levels hskip]
  simp [hread, closeWith_brace, bind, Except.bind, pure, Except.pure]

/-! ### Records -/

/-- How the value under a key is read into the draft of a record. -/
def readField (strict : Bool) (fields : List (Reader.Field σ)) (levels : Nat) (key : String)
    (draft : σ) (text : List Char) : Except ReadError (σ × List Char) :=
  match fields.find? (·.name == key) with
  | none =>
    if strict then .error (.misfit (.unknownField key (fields.map (·.name))))
    else do
      let text ← pastColon text
      let (_, text) ← Reader.skipped levels text
      return (draft, text)
  | some field =>
    if field.isSet draft then .error (.misfit (.duplicateField key))
    else do
      let text ← pastColon text
      let (change, text) ← field.read levels text
      return (change draft, text)

/-- The reader of a value that is put into a draft. -/
def into (inner : Reader α) (set : α → σ → σ) : Reader (σ → σ) := fun levels text =>
  (inner levels text).map fun (a, rest) => (set a, rest)

/-- A field of the record that the draft does not have yet is taken if its value is, and then those
after it. -/
theorem TakesFields.into {strict : Bool} {fields : List (Reader.Field σ)} {levels : Nat}
    {key name : String} {inner : Reader α} {set : α → σ → σ} {isSet : σ → Bool} {required : Bool}
    {value : Json} {a : α} {draft last : σ} {values : List (String × Json)}
    (hfield : fields.find? (·.name == key) = some ⟨name, into inner set, isSet, required⟩)
    (hunset : isSet draft = false) (hread : Takes (inner levels) value a)
    (hrest : TakesFields (readField strict fields levels) values (set a draft) last) :
    TakesFields (readField strict fields levels) ((key, value) :: values) draft last := by
  refine .cons (fun colon text after hcolon htext hafter => ?_) hrest
  simp only [readField, hfield, hunset, Bool.false_eq_true, if_false]
  exact (hread.map set).pastColon (· draft) hcolon htext hafter

/-- The reader of records at an opening brace. -/
theorem record_of_skipBlanks (name : String) (strict : Bool) (fields : List (Reader.Field σ))
    (empty : σ) (levels : Nat) {text rest : List Char} (h : skipBlanks text = '\x7b' :: rest) :
    Reader.record name strict fields empty (levels + 1) text = do
      let (draft, rest) ← readFields (readField strict fields levels) rest true empty rest
      match fields.find? fun field => field.required && !field.isSet draft with
      | some field => .error (.misfit (.missingField field.name))
      | none =>
        let rest ← closeWith '\x7d' rest
        return (draft, rest) := by
  unfold Reader.record
  rw [h]
  rfl

/-- **The reader of records takes an object** whose fields it takes, if no field that may not be
left out is missing in the end. -/
theorem takes_record (name : String) {strict : Bool} {fields : List (Reader.Field σ)}
    {empty draft : σ} {levels : Nat} {values : List (String × Json)}
    (hread : TakesFields (readField strict fields levels) values empty draft)
    (hrequired : ∀ field ∈ fields, field.required = true → field.isSet draft = true) :
    Takes (Reader.record name strict fields empty (levels + 1)) (.object values) draft := by
  intro blanks text after hblanks htext hafter
  obtain ⟨inner, hvalues, hskip⟩ := htext.exists_fields hblanks after
  have hnone : (fields.find? fun field => field.required && !field.isSet draft) = none := by
    rw [List.find?_eq_none]
    simpa using hrequired
  have hfields := readFields_of_takes hread hvalues (hvalues.length_lt '\x7d' after) after
  rw [record_of_skipBlanks name strict fields empty levels hskip]
  simp [hfields, hnone, closeWith_brace, bind, Except.bind, pure, Except.pure]

end Json

end StreamLint
