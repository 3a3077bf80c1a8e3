import Mathlib.Tactic.Common
import StreamLint.Json.Printer
import StreamLint.Json.Token
/-!
# Words that are read back

A word that is written is read off the front of a text, and what follows is left: a string whatever
its characters (`StreamLint.Json.readChars_escapes`), and the digits of a whole number of 64 bits
(`StreamLint.Json.readNumber_toDigits`). A string ends at its quote. A number has no end of its own,
so what follows must not go on with it (`StreamLint.Json.Ends`); nothing that may follow a value
does.

A character of a string may be spelled in several ways (`StreamLint.Json.isSpelling`), all of which
are read alike. Which of them is written is a matter of the printer, of which nothing else is used
than that it is one of them.
-/

namespace StreamLint

namespace Json

/-! ### Blanks and ends -/

/-- The text is made of blanks. -/
def AreBlanks (text : List Char) : Prop :=
  ∀ c ∈ text, isJsonBlank c = true

@[simp] theorem areBlanks_nil : AreBlanks [] := by
  simp [AreBlanks]

theorem AreBlanks.skipBlanks_append {blanks : List Char} (h : AreBlanks blanks)
    (text : List Char) : skipBlanks (blanks ++ text) = skipBlanks text :=
  List.dropWhile_append_of_pos h

theorem skipBlanks_cons {c : Char} (h : isJsonBlank c = false) (text : List Char) :
    skipBlanks (c :: text) = c :: text := by
  simp [skipBlanks, h]

/-- **A number ends here**: the text does not go on with it. -/
def Ends (text : List Char) : Prop :=
  ∀ c ∈ text.head?, c.isDigit = false ∧ c ≠ '.' ∧ c ≠ 'e' ∧ c ≠ 'E'

@[simp] theorem ends_nil : Ends [] := by
  simp [Ends]

theorem ends_cons {c : Char} {text : List Char} :
    Ends (c :: text) ↔ c.isDigit = false ∧ c ≠ '.' ∧ c ≠ 'e' ∧ c ≠ 'E' := by
  simp [Ends]

/-- A blank ends a number. -/
theorem ends_of_isJsonBlank {c : Char} (h : isJsonBlank c = true) (text : List Char) :
    Ends (c :: text) := by
  rw [ends_cons]
  simp only [isJsonBlank, Bool.or_eq_true, beq_iff_eq] at h
  rcases h with ((rfl | rfl) | rfl) | rfl <;> decide

theorem AreBlanks.ends_append {blanks text : List Char} (h : AreBlanks blanks) (htext : Ends text) :
    Ends (blanks ++ text) := by
  cases blanks with
  | nil => exact htext
  | cons c blanks => exact ends_of_isJsonBlank (h c List.mem_cons_self) _

/-! ### Strings -/

/-- Whether the text is a spelling of the character in a string: itself if it needs no escape, the
letter that stands for it, or its number. -/
def isSpelling (c : Char) : List Char → Bool
  | [d] => d == c && 32 ≤ d.toNat && d != '"' && d != '\\'
  | ['\\', letter] => escaped? letter == some c
  | ['\\', 'u', h, i, j, k] => hexUnit? h i j k == some c.toNat
  | _ => false

/-- No character has the number of half of a surrogate pair. -/
theorem toNat_outside_surrogates (c : Char) : c.toNat < 0xD800 ∨ 0xE000 ≤ c.toNat :=
  c.valid.imp id And.left

/-- **Every spelling of a character is read as that character.** -/
theorem readChars_of_isSpelling {c : Char} {text : List Char} (h : isSpelling c text = true)
    (taken after : List Char) :
    readChars taken (text ++ after) = readChars (c :: taken) after := by
  unfold isSpelling at h
  split at h
  · -- the character itself
    simp only [Bool.and_eq_true, beq_iff_eq, bne_iff_ne, decide_eq_true_eq] at h
    obtain ⟨⟨⟨rfl, hlow⟩, hquote⟩, hback⟩ := h
    rw [List.cons_append, List.nil_append, readChars]
    · simp [hback, Nat.not_lt.mpr hlow]
    all_goals simp_all
  · -- a letter, which is not the one that numbers begin with
    have h := eq_of_beq h
    rw [List.cons_append, List.cons_append, List.nil_append, readChars]
    · simp [h]
    · rintro a b d e rest rfl _
      cases h
  · -- a number
    have h := eq_of_beq h
    have hwhole : (decide (c.toNat < 0xD800) || decide (0xE000 ≤ c.toNat)) = true := by
      simpa using toNat_outside_surrogates c
    simp only [List.cons_append, List.nil_append]
    rw [readChars]
    simp only [h, hwhole, if_true, Char.ofNat_toNat]
  · cases h

/-- The control characters are spelled by letters or by their numbers. -/
theorem isSpelling_escapeChar_control :
    ∀ n < 32, isSpelling (Char.ofNat n) (escapeChar (Char.ofNat n)).toList = true := by
  decide

/-- **What is written for a character is a spelling of it.** -/
theorem isSpelling_escapeChar (c : Char) : isSpelling c (escapeChar c).toList = true := by
  by_cases hlow : c.toNat < 32
  · have hcontrol := isSpelling_escapeChar_control c.toNat hlow
    rwa [Char.ofNat_toNat] at hcontrol
  · by_cases hquote : c = '"'
    · subst hquote
      decide
    by_cases hback : c = '\\'
    · subst hback
      decide
    have hself : escapeChar c = c.toString := by
      unfold escapeChar
      split
      case h_8 => exact if_neg hlow
      all_goals simp_all
    simp [hself, isSpelling, Nat.not_lt.mp hlow, hquote, hback]

/-- What is written between the quotes of a string. -/
def escapes (text : String) : List Char :=
  text.toList.flatMap fun c => (escapeChar c).toList

theorem toList_escapeString (text : String) :
    (escapeString text).toList = '"' :: (escapes text ++ ['"']) := by
  have hfold : ∀ (characters : List Char) (front : String),
      (characters.foldl (fun acc c => acc ++ escapeChar c) front).toList =
        front.toList ++ characters.flatMap fun c => (escapeChar c).toList := by
    intro characters
    induction characters with
    | nil => simp
    | cons c characters ih => simp [ih]
  simp [escapeString, String.foldl_eq_foldl_toList, hfold, escapes]

theorem readChars_flatMap (characters taken after : List Char) :
    readChars taken (characters.flatMap (fun c => (escapeChar c).toList) ++ '"' :: after) =
      .ok (String.ofList (taken.reverse ++ characters), after) := by
  induction characters generalizing taken with
  | nil => simp [readChars]
  | cons c characters ih =>
    rw [List.flatMap_cons, List.append_assoc, readChars_of_isSpelling (isSpelling_escapeChar c), ih]
    simp

/-- **Every string is read back**, once its opening quote has been taken. -/
theorem readChars_escapes (text : String) (after : List Char) :
    readChars [] (escapes text ++ '"' :: after) = .ok (text, after) := by
  simpa [escapes] using readChars_flatMap text.toList [] after

/-! ### Numbers -/

/-- Digits only make a number larger. -/
theorem le_ofDigitChars (digits : List Char) (sum : Nat) :
    sum ≤ Nat.ofDigitChars 10 digits sum := by
  rw [Nat.ofDigitChars_eq_ofDigitChars_zero]
  have hpos : 0 < 10 ^ digits.length := Nat.pow_pos (by decide)
  have hle := Nat.le_mul_of_pos_left sum hpos
  omega

/-- The digits of a number that fits 64 bits are all taken. -/
theorem takeDigits_append {digits after : List Char} (hdigits : ∀ c ∈ digits, c.isDigit = true)
    (hafter : Ends after) (sum count : Nat)
    (hfits : Nat.ofDigitChars 10 digits sum ≤ maxWhole) :
    takeDigits sum count (digits ++ after) =
      (Nat.ofDigitChars 10 digits sum, count + digits.length, after) := by
  induction digits generalizing sum count with
  | nil =>
    cases after with
    | nil => rfl
    | cons c after => simp [takeDigits, (ends_cons.mp hafter).1]
  | cons c digits ih =>
    obtain ⟨hc, hdigits⟩ := List.forall_mem_cons.mp hdigits
    rw [Nat.ofDigitChars_cons, Nat.mul_comm] at hfits ⊢
    have hle := Nat.le_trans (le_ofDigitChars digits (sum * 10 + (c.toNat - '0'.toNat))) hfits
    rw [List.cons_append, takeDigits, hc, Bool.true_and, if_pos (decide_eq_true hle),
      ih hdigits _ (count + 1) hfits, List.length_cons, Nat.add_assoc, Nat.add_comm 1]

/-- Only zero is written with a zero in front. -/
theorem eq_zero_of_head?_toDigits {n : Nat} (h : (Nat.toDigits 10 n).head? = some '0') : n = 0 := by
  induction n using Nat.strongRecOn with
  | _ n ih =>
    rw [Nat.toDigits_eq_if (by decide)] at h
    split at h
    next hlt =>
      have htable : ∀ n < 10, Nat.digitChar n = '0' → n = 0 := by decide
      exact htable n hlt (by simpa using h)
    next hge =>
      -- the first digit is that of a tenth, which is not zero
      have hzero : n / 10 = 0 := by
        refine ih (n / 10) (by omega) ?_
        cases hfront : Nat.toDigits 10 (n / 10) with
        | nil => exact absurd hfront Nat.toDigits_ne_nil
        | cons first front => simpa [hfront] using h
      omega

/-- **The digits of a number** are read as that number, with its sign. -/
theorem readNumber_toDigits (negative : Bool) {n : Nat} {after : List Char} (hafter : Ends after)
    (hfits : n ≤ maxWhole) (hnegative : negative = true → 0 < n ∧ n ≤ 9223372036854775808) :
    readNumber negative (Nat.toDigits 10 n ++ after) =
      .ok (.integer (if negative then -n else n), after) := by
  have hdigits : ∀ c ∈ Nat.toDigits 10 n, c.isDigit = true :=
    fun c hc => Nat.isDigit_of_mem_toDigits (by decide) (by decide) hc
  have htake : takeDigits 0 0 (Nat.toDigits 10 n ++ after) =
      (n, 0 + (Nat.toDigits 10 n).length, after) := by
    have h := takeDigits_append hdigits hafter 0 0
      (by rwa [Nat.ofDigitChars_ten_toDigits])
    rwa [Nat.ofDigitChars_ten_toDigits] at h
  have hexcess : after.takeWhile Char.isDigit = [] ∧ after.dropWhile Char.isDigit = after := by
    cases after with
    | nil => exact ⟨rfl, rfl⟩
    | cons c after => simp [(ends_cons.mp hafter).1]
  cases hwritten : Nat.toDigits 10 n with
  | nil => exact absurd hwritten Nat.toDigits_ne_nil
  | cons first digits =>
    rw [hwritten] at htake hdigits
    have hfirst : first.isDigit = true := hdigits first List.mem_cons_self
    have hzero :
        (first == '0' && ((digits ++ after).head?.map Char.isDigit).getD false) = false := by
      by_cases hlead : first = '0'
      · -- a zero stands alone
        obtain rfl : n = 0 := eq_zero_of_head?_toDigits (by rw [hwritten, hlead]; rfl)
        obtain rfl : digits = [] := by simpa [hlead] using hwritten.symm
        cases after with
        | nil => simp
        | cons c after => simp [(ends_cons.mp hafter).1]
      · simp [hlead]
    rw [List.cons_append] at htake ⊢
    simp only [readNumber, hfirst, hzero, htake, hexcess]
    rw [if_neg (by decide), if_neg (by decide)]
    split
    next => exact absurd rfl (ends_cons.mp hafter).2.1
    next => exact absurd rfl (ends_cons.mp hafter).2.2.1
    next => exact absurd rfl (ends_cons.mp hafter).2.2.2
    next =>
      rw [if_neg (by decide)]
      cases negative with
      | false => rfl
      | true =>
        obtain ⟨hpos, hlow⟩ := hnegative rfl
        simp [Nat.ne_of_gt hpos, hlow]

/-- A whole number is written as its digits, after a sign if it is negative. -/
theorem toList_text_integer (n : Int) :
    (Number.integer n).text.toList =
      if n < 0 then '-' :: Nat.toDigits 10 n.natAbs else Nat.toDigits 10 n.natAbs := by
  cases n with
  | ofNat n => simp [Number.text, Int.repr]
  | negSucc n => simp [Number.text, Int.repr, Int.negSucc_lt_zero]

end Json

end StreamLint
