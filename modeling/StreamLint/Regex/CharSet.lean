import StreamLint.Text.CaseFolding
import StreamLint.Text.Character
import StreamLint.Text.Script
/-!
# Sets of characters

What a regular expression may ask of one character. A set is built from ranges and properties with
the operations of sets, and `StreamLint.CharSet.contains` says what is in it.
-/

namespace StreamLint

/-- A property of characters that has a name. -/
inductive CharProperty where
  /-- A general category, or a group of them by its abbreviation. -/
  | category (abbreviation : String)
  /-- The characters of a script, by its code. -/
  | script (code : String)
  /-- Every code point that is assigned. -/
  | assigned
  /-- Letters, and marks and symbols that count as such. -/
  | alphabetic
  /-- Lower-case letters. -/
  | lowercase
  /-- Upper-case letters. -/
  | uppercase
  /-- White space. -/
  | blank
  deriving DecidableEq, Repr, Inhabited

namespace CharProperty

/-- Lower-case characters that are no lower-case letters by category. -/
def otherLowercase : List (Nat × Nat) :=
  [(0xAA, 0xAA), (0xBA, 0xBA), (0x2B0, 0x2B8), (0x2C0, 0x2C1), (0x2E0, 0x2E4), (0x345, 0x345),
   (0x37A, 0x37A), (0x10FC, 0x10FC), (0x1D2C, 0x1D6A), (0x1D78, 0x1D78), (0x1D9B, 0x1DBF),
   (0x2071, 0x2071), (0x207F, 0x207F), (0x2090, 0x209C), (0x2170, 0x217F), (0x24D0, 0x24E9),
   (0x2C7C, 0x2C7D), (0xA69C, 0xA69D), (0xA770, 0xA770), (0xA7F2, 0xA7F4), (0xA7F8, 0xA7F9),
   (0xAB5C, 0xAB5F), (0xAB69, 0xAB69), (0x10780, 0x10780), (0x10783, 0x10785),
   (0x10787, 0x107B0), (0x107B2, 0x107BA), (0x1E030, 0x1E06D)]

/-- Upper-case characters that are no upper-case letters by category. -/
def otherUppercase : List (Nat × Nat) :=
  [(0x2160, 0x216F), (0x24B6, 0x24CF), (0x1F130, 0x1F149), (0x1F150, 0x1F169),
   (0x1F170, 0x1F189)]

/-- Whether a character is a letter, or a mark or symbol that counts as one. -/
def isAlphabetic (c : Char) : Bool :=
  match Category.of c with
  | .ll | .lm | .lo | .lt | .lu | .nl => true
  | _ => inRanges letterSymbols c.toNat

/-- Whether a character has a property. -/
def holds (c : Char) : CharProperty → Bool
  | category abbreviation => (Category.of c).inGroup abbreviation
  | script code => Script.codeOf c == code
  | assigned => Category.of c != .cn
  | alphabetic => isAlphabetic c
  | lowercase => Category.of c == .ll || inRanges otherLowercase c.toNat
  | uppercase => Category.of c == .lu || inRanges otherUppercase c.toNat
  | blank => isBlank c

end CharProperty

/-- A set of characters. -/
inductive CharSet where
  /-- No character. -/
  | none
  /-- The characters from one to another. -/
  | range (first last : Char)
  /-- The characters of words. -/
  | word
  /-- Decimal digits. -/
  | digit
  /-- The characters with a property. -/
  | property (p : CharProperty)
  /-- The characters in either set. -/
  | union (a b : CharSet)
  /-- The characters in both sets. -/
  | intersection (a b : CharSet)
  /-- The characters in no set but the first. -/
  | difference (a b : CharSet)
  /-- The characters in one of the sets only. -/
  | symmetricDifference (a b : CharSet)
  /-- The characters outside of a set. -/
  | complement (a : CharSet)
  /-- The characters that differ from one in the set in case only. -/
  | anyCase (a : CharSet)
  /-- The same for the letters of ASCII. -/
  | anyAsciiCase (a : CharSet)
  deriving DecidableEq, Repr, Inhabited

namespace CharSet

/-- The set of one character. -/
def single (c : Char) : CharSet :=
  range c c

/-- Every character. -/
def any : CharSet :=
  complement none

/-- The characters in any of the ranges. -/
def ofRanges : List (Char × Char) → CharSet
  | [] => none
  | [(first, last)] => range first last
  | (first, last) :: rest => union (range first last) (ofRanges rest)

/-- Whether a character is in a set. -/
def contains (c : Char) : CharSet → Bool
  | none => false
  | range first last => first ≤ c && c ≤ last
  | word => isWordCharacter c
  | digit => isDecimalDigit c
  | property p => p.holds c
  | union a b => contains c a || contains c b
  | intersection a b => contains c a && contains c b
  | difference a b => contains c a && !contains c b
  | symmetricDifference a b => contains c a != contains c b
  | complement a => !contains c a
  | anyCase a => (caseVariants c).any fun variant => contains variant a
  | anyAsciiCase a => contains c a || contains c.toLower a || contains c.toUpper a

/-- How many states it takes, roughly, to tell the characters of a set apart byte by byte. -/
def cost : CharSet → Nat
  | none => 1
  | range _ last => if last.toNat < 128 then 1 else 6
  | word => 1500
  | digit => 150
  | property .blank => 20
  | property _ => 1000
  | union a b | intersection a b | difference a b | symmetricDifference a b => cost a + cost b
  | complement a => cost a + 12
  | anyCase a | anyAsciiCase a => 2 * cost a

end CharSet

end StreamLint
