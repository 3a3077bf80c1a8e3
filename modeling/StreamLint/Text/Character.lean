import StreamLint.Text.Category
/-!
# Classes of characters

The classes that the readers and printers of this library ask about. Those that Unicode defines are
given by general categories and a few listed characters:

* `StreamLint.isBlank` – white space, as trimming removes it;
* `StreamLint.isWordCharacter` – what a name in a regular expression's `\w` may hold;
* `StreamLint.isPrintable`, `StreamLint.extendsGrapheme` – what quoting leaves as it is.
-/

namespace StreamLint

/-- White space in the sense of Unicode's property of that name. -/
def isBlank (c : Char) : Bool :=
  let n := c.toNat
  (9 ≤ n && n ≤ 13) || n == 0x20 || n == 0x85 || n == 0xA0 || n == 0x1680 ||
    (0x2000 ≤ n && n ≤ 0x200A) || n == 0x2028 || n == 0x2029 || n == 0x202F || n == 0x205F ||
    n == 0x3000

/-- The characters of `cs` without the white space at either end. -/
def trimBlank (cs : List Char) : List Char :=
  ((cs.dropWhile isBlank).reverse.dropWhile isBlank).reverse

/-- A text without the white space at either end. -/
def trim (text : String) : String :=
  String.ofList (trimBlank text.toList)

/-- Whether `n` lies in one of the closed ranges. -/
def inRanges (ranges : List (Nat × Nat)) (n : Nat) : Bool :=
  ranges.any fun (lo, hi) => lo ≤ n && n ≤ hi

/-- Letters in the sense of Unicode's `Alphabetic` that are no letters, marks or letter numbers by
category: circled and squared letters. -/
def letterSymbols : List (Nat × Nat) :=
  [(0x24B6, 0x24E9), (0x1F130, 0x1F149), (0x1F150, 0x1F169), (0x1F170, 0x1F189)]

/-- Letters, marks, decimal digits, letter numbers, connecting punctuation and the two joiners. -/
def isWordCharacter (c : Char) : Bool :=
  if c.toNat < 128 then c.isAlphanum || c == '_'
  else
    match Category.of c with
    | .ll | .lm | .lo | .lt | .lu | .mc | .me | .mn | .nd | .nl | .pc => true
    | _ => c.toNat == 0x200C || c.toNat == 0x200D || inRanges letterSymbols c.toNat

/-- Decimal digits of any script. -/
def isDecimalDigit (c : Char) : Bool :=
  if c.toNat < 128 then c.isDigit else Category.of c == .nd

/-- Characters that leave a mark on paper, and the space. -/
def isPrintable (c : Char) : Bool :=
  c == ' ' ||
    match Category.of c with
    | .cc | .cf | .cn | .co | .cs | .zl | .zp | .zs => false
    | _ => true

/-- Characters outside the mark categories that extend the grapheme before them. -/
def graphemeExtenders : List (Nat × Nat) :=
  [(0x9BE, 0x9BE), (0x9D7, 0x9D7), (0xB3E, 0xB3E), (0xB57, 0xB57), (0xBBE, 0xBBE),
   (0xBD7, 0xBD7), (0xCC0, 0xCC0), (0xCC2, 0xCC2), (0xCC7, 0xCC8), (0xCCA, 0xCCB),
   (0xCD5, 0xCD6), (0xD3E, 0xD3E), (0xD57, 0xD57), (0xDCF, 0xDCF), (0xDDF, 0xDDF),
   (0x1715, 0x1715), (0x1734, 0x1734), (0x1B35, 0x1B35), (0x1B3B, 0x1B3B), (0x1B3D, 0x1B3D),
   (0x1B43, 0x1B44), (0x1BAA, 0x1BAA), (0x1BF2, 0x1BF3), (0x200C, 0x200C), (0x302E, 0x302F),
   (0xA953, 0xA953), (0xA9C0, 0xA9C0), (0xFF9E, 0xFF9F), (0x111C0, 0x111C0),
   (0x11235, 0x11235), (0x1133E, 0x1133E), (0x1134D, 0x1134D), (0x11357, 0x11357),
   (0x114B0, 0x114B0), (0x114BD, 0x114BD), (0x115AF, 0x115AF), (0x116B6, 0x116B6),
   (0x11930, 0x11930), (0x1193D, 0x1193D), (0x11F41, 0x11F41), (0x16FF0, 0x16FF1),
   (0x1D165, 0x1D166), (0x1D16D, 0x1D172), (0xE0020, 0xE007F)]

/-- Characters that continue the grapheme before them, such as combining accents. -/
def extendsGrapheme (c : Char) : Bool :=
  c.toNat ≥ 128 &&
    match Category.of c with
    | .mn | .me => true
    | _ => inRanges graphemeExtenders c.toNat

/-- The ASCII capitals of a text in lower case, all else unchanged. -/
def asciiLower (text : String) : String :=
  String.ofList (text.toList.map Char.toLower)

end StreamLint
