import StreamLint.Check.Finding
import StreamLint.Text.Character
import StreamLint.Text.Split
/-!
# Silencing

A comment may silence checks on its own line or on the next one. It holds a keyword and possibly the
identifiers of checks, with commas or blanks between them; without identifiers it silences all
checks. What follows two hyphens is a justification and does not count.

* `StreamLint.Directive.ofComment?` – the directive that a comment holds;
* `StreamLint.Silencing.ofComments` – the directives of a file;
* `StreamLint.Silencing.silences` – whether a check is silenced on a line.
-/

namespace StreamLint

/-- Which checks are silenced. -/
inductive SilencedChecks where
  /-- Every check. -/
  | all
  /-- The checks with these identifiers. -/
  | checks (ids : List String)
  deriving DecidableEq, Repr, Inhabited

/-- Whether a check is silenced. -/
def SilencedChecks.covers (checkId : String) : SilencedChecks → Bool
  | all => true
  | checks ids => ids.contains checkId

/-- What a comment silences. -/
structure Directive where
  /-- Whether it is about the line after the comment. -/
  nextLine : Bool
  /-- The silenced checks. -/
  scope : SilencedChecks
  deriving DecidableEq, Repr, Inhabited

namespace Directive

/-- The keyword for the next line. -/
def nextLineKeyword : List Char :=
  "rxlint-disable-next-line".toList

/-- The keyword for the line of the comment. -/
def sameLineKeyword : List Char :=
  "rxlint-disable-line".toList

/-- A text without `stop` at its end. -/
def withoutEnd (stop text : List Char) : List Char :=
  match afterStart? stop.reverse text.reverse with
  | some rest => rest.reverse
  | none => text

/-- What stands between the delimiters of a comment, without blanks around it. -/
def bodyOf (comment : List Char) : List Char :=
  let trimmed := trimBlank comment
  match afterStart? ['/', '/'] trimmed with
  | some line => trimBlank line
  | none =>
    match afterStart? ['/', '*'] trimmed with
    | some block => trimBlank (withoutEnd ['*', '/'] block)
    | none => trimBlank trimmed

/-- The text of a comment up to the justification, without delimiters and blanks around it. -/
def statementOf (comment : List Char) : List Char :=
  trimBlank (untilMark ['-', '-'] (bodyOf comment))

/-- Whether a directive begins here is told by the keyword: which line it is about, and what follows
the keyword. -/
def afterKeyword? (statement : List Char) : Option (Bool × List Char) :=
  match afterStart? nextLineKeyword statement with
  | some rest => some (true, rest)
  | none => (afterStart? sameLineKeyword statement).map (false, ·)

/-- Whether a character stands between identifiers. -/
def separates (c : Char) : Bool :=
  c == ',' || c == ' ' || c == '\t'

/-- The identifiers in the text after a keyword. -/
def idsOf (text : List Char) : List String :=
  (((splitWhen separates text).map trimBlank).filter (!·.isEmpty)).map String.ofList

/-- The directive that a comment holds, if it holds one. A keyword is followed by a blank or by
nothing. -/
def ofComment? (comment : String) : Option Directive :=
  match afterKeyword? (statementOf comment.toList) with
  | none => none
  | some (nextLine, rest) =>
    if ((rest.head?).map isBlank).getD true then
      let ids := idsOf rest
      some ⟨nextLine, if ids.isEmpty then .all else .checks ids⟩
    else none

end Directive

/-- What the comments of a file silence. -/
structure Silencing where
  /-- The scopes of the directives about a zero-based line. -/
  byLine : Std.TreeMap Nat (List SilencedChecks) compare := {}

namespace Silencing

/-- The line that the directive of a comment is about. -/
def lineOf (comment : Comment) (directive : Directive) : Nat :=
  if directive.nextLine then nextCoordinate comment.span.stop.line else comment.span.start.line

/-- What is silenced when there is one comment more. -/
def add (silencing : Silencing) (comment : Comment) : Silencing :=
  match Directive.ofComment? comment.text with
  | none => silencing
  | some directive =>
    let line := lineOf comment directive
    ⟨silencing.byLine.insert line
      ((silencing.byLine[line]?).getD [] ++ [directive.scope])⟩

/-- What the comments of a file silence. -/
def ofComments (comments : List Comment) : Silencing :=
  comments.foldl add {}

/-- Whether a check is silenced on a zero-based line. -/
def silences (silencing : Silencing) (checkId : String) (line : Nat) : Bool :=
  ((silencing.byLine[line]?).getD []).any (·.covers checkId)

/-- Whether a finding begins on a line on which its check is silenced. -/
def silencesFinding (silencing : Silencing) (finding : Finding) : Bool :=
  silencing.silences finding.checkId finding.mainSpan.start.line

/-- Whether there are no directives. -/
def isEmpty (silencing : Silencing) : Bool :=
  silencing.byLine.isEmpty

end Silencing

end StreamLint
