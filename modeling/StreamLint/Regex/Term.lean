import StreamLint.Regex.CharSet
/-!
# Regular expressions

A regular expression is a term over sets of characters and assertions about a place in the text. A
search goes through the text once with the set of terms that may still match, and steps from one
character to the next by partial derivatives: what is left of a term once a character has been
matched. Assertions look at the characters before and after a place, so these are given to both the
test for an empty match and the derivative.

* `StreamLint.Regex.Term` – regular expressions;
* `StreamLint.Regex.Term.matchesEmpty` – whether a term matches nothing at a place;
* `StreamLint.Regex.Term.after` – the partial derivatives;
* `StreamLint.Regex.Term.search` – whether a term matches somewhere in a text.
-/

namespace StreamLint.Regex

/-- An assertion about a place in a text. Words may be those of ASCII only. -/
inductive Look where
  /-- The text begins here. -/
  | textStart
  /-- The text ends here. -/
  | textEnd
  /-- A line begins here. With `carriage` set, carriage returns end lines as well. -/
  | lineStart (carriage : Bool)
  /-- A line ends here. -/
  | lineEnd (carriage : Bool)
  /-- A word begins or ends here. -/
  | boundary (ascii : Bool)
  /-- No word begins or ends here. -/
  | noBoundary (ascii : Bool)
  /-- A word begins here. -/
  | wordStart (ascii : Bool)
  /-- A word ends here. -/
  | wordEnd (ascii : Bool)
  /-- No word character stands before this place. -/
  | noWordBefore (ascii : Bool)
  /-- No word character stands after this place. -/
  | noWordAfter (ascii : Bool)
  deriving DecidableEq, Repr, Inhabited

/-- Whether there is a character and it belongs to words. -/
def isWordAt (ascii : Bool) : Option Char → Bool
  | none => false
  | some c => isWordCharacter c && (!ascii || c.toNat < 128)

/-- Whether an assertion holds between two characters. -/
def Look.holds (before after : Option Char) : Look → Bool
  | textStart => before.isNone
  | textEnd => after.isNone
  | lineStart false => before.isNone || before == some '\n'
  | lineStart true =>
    before.isNone || before == some '\n' || (before == some '\r' && after != some '\n')
  | lineEnd false => after.isNone || after == some '\n'
  | lineEnd true =>
    after.isNone || after == some '\r' || (after == some '\n' && before != some '\r')
  | boundary ascii => isWordAt ascii before != isWordAt ascii after
  | noBoundary ascii => isWordAt ascii before == isWordAt ascii after
  | wordStart ascii => !isWordAt ascii before && isWordAt ascii after
  | wordEnd ascii => isWordAt ascii before && !isWordAt ascii after
  | noWordBefore ascii => !isWordAt ascii before
  | noWordAfter ascii => !isWordAt ascii after

/-- A regular expression. -/
inductive Term where
  /-- The empty text. -/
  | empty
  /-- One character of a set. -/
  | set (s : CharSet)
  /-- The empty text where an assertion holds. -/
  | look (l : Look)
  /-- One after the other. -/
  | seq (a b : Term)
  /-- Either. -/
  | alt (a b : Term)
  /-- At least `least` times, and at most `most` times if there is a bound. -/
  | times (a : Term) (least : Nat) (most : Option Nat)
  deriving DecidableEq, Repr, Inhabited

namespace Term

/-- One after the other; what is empty is left out. -/
def followedBy : Term → Term → Term
  | empty, b => b
  | a, b => seq a b

/-- Whether a term matches the empty text between two characters. -/
def matchesEmpty (before after : Option Char) : Term → Bool
  | empty => true
  | set _ => false
  | look l => l.holds before after
  | seq a b => matchesEmpty before after a && matchesEmpty before after b
  | alt a b => matchesEmpty before after a || matchesEmpty before after b
  | times a least _ => least == 0 || matchesEmpty before after a

/-- How many states it takes, roughly, to search for a term. A repeated term counts once for every
time that it may have to match. -/
def cost : Term → Nat
  | empty | look _ => 1
  | set s => s.cost
  | seq a b => cost a + cost b
  | alt a b => cost a + cost b + 1
  | times a least most => cost a * max 1 (most.getD least) + 1

/-- What is left of a term after the character `c`, which stands after `before`. If a repeated term
matches the empty text there, then that may count any number of times, so nothing remains of the
least number. -/
def after (before : Option Char) (c : Char) : Term → List Term
  | empty | look _ => []
  | set s => if s.contains c then [empty] else []
  | seq a b =>
    let first := (after before c a).map (·.followedBy b)
    if a.matchesEmpty before (some c) then first ++ after before c b else first
  | alt a b => after before c a ++ after before c b
  | times a least most =>
    if most == some 0 then []
    else
      let rest := times a (if a.matchesEmpty before (some c) then 0 else least - 1)
        (most.map (· - 1))
      (after before c a).map (·.followedBy rest)

/-- Whether one of the terms `states` matches from the present place, or `start` from there or from
a later place. -/
def searchFrom (start : Term) : Option Char → List Term → List Char → Bool
  | before, states, [] => (start :: states).any (·.matchesEmpty before none)
  | before, states, c :: rest =>
    let all := (start :: states).eraseDups
    all.any (·.matchesEmpty before (some c)) ||
      searchFrom start (some c) (all.flatMap (·.after before c)) rest

/-- Whether a term matches somewhere in a text. -/
def search (term : Term) (text : List Char) : Bool :=
  term.searchFrom none [] text

end Term

end StreamLint.Regex
