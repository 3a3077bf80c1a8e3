/-!
# Regular expressions

What a text means as a regular expression is not for the checks to say. They are given an engine,
which turns a text into a test on names or refuses it; what an engine takes, and what it makes of
it, is left open here.

* `StreamLint.Regex` – a regular expression with its text;
* `StreamLint.Regex.Engine` – an engine for regular expressions.
-/

namespace StreamLint

/-- A regular expression that an engine has taken. -/
structure Regex where
  /-- The text. -/
  source : String
  /-- Whether it matches somewhere in a text. -/
  matchesIn : String → Bool
  deriving Inhabited

namespace Regex

instance : Repr Regex :=
  ⟨fun regex _ => repr regex.source⟩

/-- Why an engine refuses a text. -/
structure Fault where
  /-- What the engine says. -/
  message : String
  deriving DecidableEq, Repr, Inhabited

/-- An engine for regular expressions. -/
abbrev Engine :=
  String → Except Fault Regex

end Regex

end StreamLint
