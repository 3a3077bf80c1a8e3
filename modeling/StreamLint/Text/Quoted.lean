import StreamLint.Text.Character
/-!
# Quoted texts

A text shown inside another one stands between double quotes. The quote, the backslash and the
common control characters are written with a backslash; every other character that leaves no mark
of its own, or that would melt into the character before it, is written as its code point.
-/

namespace StreamLint

/-- The digits of `n` in lower-case hexadecimal. -/
def hexadecimal (n : Nat) : String :=
  String.ofList (Nat.toDigits 16 n)

/-- One character as it stands in a quoted text. -/
def quotedChar (c : Char) : String :=
  match c with
  | '\x00' => "\\0"
  | '\t' => "\\t"
  | '\r' => "\\r"
  | '\n' => "\\n"
  | '\\' => "\\\\"
  | '"' => "\\\""
  | c =>
    if isPrintable c && !extendsGrapheme c then c.toString
    else "\\u\x7b" ++ hexadecimal c.toNat ++ "\x7d"

/-- A text between double quotes. -/
def quoted (text : String) : String :=
  "\"" ++ String.join (text.toList.map quotedChar) ++ "\""

end StreamLint
