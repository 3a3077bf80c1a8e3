/-!
# Decimal texts of binary floating-point numbers

A finite double is `m · 2^q` for whole numbers `m` and `q`, and every real number closer to it than
to its neighbours reads back as the same double. Its *shortest decimal* is the one with the fewest
digits among the decimals that read back, and the closest of those:

* `StreamLint.Binary.ofFloat` – the decomposition of a finite double;
* `StreamLint.Binary.shortest` – the shortest decimal, by trying one digit, two digits, and so on;
* `StreamLint.Decimal.display` – the text: positional for moderate exponents, otherwise with `e`.
-/

namespace StreamLint

/-- The number `digits · 10 ^ exponent`. -/
structure Decimal where
  /-- The significant digits, as a whole number. -/
  digits : Nat
  /-- The power of ten. -/
  exponent : Int
  deriving DecidableEq, Repr, Inhabited

/-- The number `mantissa · 2 ^ exponent`, and whether the gap below it is half the gap above. -/
structure Binary where
  /-- The significant bits, as a whole number. -/
  mantissa : Nat
  /-- The power of two. -/
  exponent : Int
  /-- Whether the next smaller number is only half as far away as the next larger one. -/
  narrowBelow : Bool
  deriving DecidableEq, Repr, Inhabited

namespace Binary

/-- A power of a whole number. -/
def power (base n : Nat) : Nat :=
  Nat.pow base n

/-- The magnitude of a finite double: 52 bits of the fraction below 11 bits of the exponent. -/
def ofFloat (x : Float) : Binary :=
  let bits := x.toBits.toNat
  let fraction : Nat := bits % 4503599627370496
  let field : Nat := bits / 4503599627370496 % 2048
  if field = 0 then ⟨fraction, -1074, false⟩
  else ⟨4503599627370496 + fraction, Int.ofNat field - 1075, fraction == 0 && 1 < field⟩

/-- Whether `n · 10 ^ k` is at most `m · 2 ^ q`. -/
def decimalLe (n : Nat) (k : Int) (m : Nat) (q : Int) : Bool :=
  n * power 10 k.toNat * power 2 (-q).toNat ≤ m * power 2 q.toNat * power 10 (-k).toNat

/-- The largest `n` for which `n · 10 ^ k` is at most `m · 2 ^ q`. -/
def decimalFloor (m : Nat) (q k : Int) : Nat :=
  m * power 2 q.toNat * power 10 (-k).toNat / (power 10 k.toNat * power 2 (-q).toNat)

/-- Whether `candidate` reads back as `x`. Four times the mantissa leaves room for the ends of the
interval, which belong to it when the mantissa is even. -/
def readsBack (x : Binary) (candidate : Decimal) : Bool :=
  let low := 4 * x.mantissa - (if x.narrowBelow then 1 else 2)
  let high := 4 * x.mantissa + 2
  let q := x.exponent - 2
  let n := candidate.digits
  let k := candidate.exponent
  let aboveLow :=
    if x.mantissa % 2 = 0 then
      low * power 2 q.toNat * power 10 (-k).toNat ≤ n * power 10 k.toNat * power 2 (-q).toNat
    else !decimalLe n k low q
  let belowHigh :=
    if x.mantissa % 2 = 0 then decimalLe n k high q
    else n * power 10 k.toNat * power 2 (-q).toNat < high * power 2 q.toNat * power 10 (-k).toNat
  aboveLow && belowHigh

/-- The power of ten of the first digit: the largest `e`, from `start` downwards, for which `10 ^ e`
is at most `x`. -/
def leadingExponent (x : Binary) : Nat → Int → Int
  | 0, start => start
  | steps + 1, start =>
    if decimalLe 1 start x.mantissa x.exponent then start
    else leadingExponent x steps (start - 1)

/-- On the grid of step `10 ^ k`, the neighbour of `x` that reads back, the nearer one if both do,
and the even one if both are equally near. -/
def neighbour? (x : Binary) (k : Int) : Option Decimal :=
  let below := decimalFloor x.mantissa x.exponent k
  let lower : Decimal := ⟨below, k⟩
  let upper : Decimal := ⟨below + 1, k⟩
  match readsBack x lower, readsBack x upper with
  | false, false => none
  | true, false => some lower
  | false, true => some upper
  | true, true =>
    let twice := 2 * x.mantissa * power 2 x.exponent.toNat * power 10 (-k).toNat
    let middle := (2 * below + 1) * power 10 k.toNat * power 2 (-x.exponent).toNat
    if twice < middle || (twice == middle && below % 2 == 0) then some lower else some upper

/-- The first grid with a hit, from `digits` digits on. -/
def shortestFrom (x : Binary) (leading : Int) : Nat → Nat → Decimal
  | 0, _ => ⟨decimalFloor x.mantissa x.exponent leading, leading⟩
  | steps + 1, digits =>
    match neighbour? x (leading - digits + 1) with
    | some decimal => decimal
    | none => shortestFrom x leading steps (digits + 1)

/-- The shortest decimal that reads back as `x`, which must not be zero. -/
def shortest (x : Binary) : Decimal :=
  shortestFrom x (leadingExponent x 640 309) 18 1

end Binary

namespace Decimal

/-- Takes trailing zeros out of the digits into the exponent. -/
def normalize : Nat → Decimal → Decimal
  | 0, d => d
  | steps + 1, d =>
    if d.digits ≠ 0 && d.digits % 10 = 0 then normalize steps ⟨d.digits / 10, d.exponent + 1⟩ else d

/-- The decimal as text: positional while the point falls within sixteen places after the first
digit or five zeros before it, and with an exponent otherwise. -/
def display (d : Decimal) : String :=
  let digits := (toString d.digits).toList
  let count : Int := digits.length
  let point := count + d.exponent
  let zeros (n : Int) : List Char := List.replicate n.toNat '0'
  let scientific := "e" ++ toString (point - 1)
  if 0 ≤ d.exponent && point ≤ 16 then String.ofList (digits ++ zeros d.exponent) ++ ".0"
  else if 0 < point && point ≤ 16 then
    String.ofList (digits.take point.toNat) ++ "." ++ String.ofList (digits.drop point.toNat)
  else if -5 < point && point ≤ 0 then "0." ++ String.ofList (zeros (-point) ++ digits)
  else
    match digits with
    | [] => scientific
    | [digit] => digit.toString ++ scientific
    | digit :: rest => digit.toString ++ "." ++ String.ofList rest ++ scientific

end Decimal

/-- The shortest text of a finite double that reads back, with a point or an exponent in it. -/
def floatText (x : Float) : String :=
  let binary := Binary.ofFloat x
  let sign := if x.toBits ≥ 0x8000000000000000 then "-" else ""
  if binary.mantissa = 0 then sign ++ "0.0"
  else sign ++ (Decimal.normalize 20 binary.shortest).display

end StreamLint
