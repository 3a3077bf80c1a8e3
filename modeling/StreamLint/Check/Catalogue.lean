import StreamLint.Check.IgnoredObservable
import StreamLint.Check.IgnoredSubscribe
import StreamLint.Check.UnsafeFirst
/-!
# The catalogue of checks

The checks that can be used, in the order in which they were added. A second check with a known
identifier is not taken.
-/

namespace StreamLint

/-- The checks that can be used. -/
structure Catalogue where
  /-- The checks, in the order in which they were added. -/
  checks : List Check := []

namespace Catalogue

/-- The check with a given identifier. -/
def get? (catalogue : Catalogue) (id : String) : Option Check :=
  catalogue.checks.find? (·.profile.id == id)

/-- The identifiers of the checks. -/
def ids (catalogue : Catalogue) : List String :=
  catalogue.checks.map (·.profile.id)

/-- The catalogue with one check more, unless its identifier is known. -/
def add (catalogue : Catalogue) (check : Check) : Catalogue :=
  match catalogue.get? check.profile.id with
  | some _ => catalogue
  | none => ⟨catalogue.checks ++ [check]⟩

/-- The catalogue of the checks that belong to this library, with an engine for the regular
expressions in their options. -/
def ofEngine (engine : Regex.Engine) : Catalogue :=
  [IgnoredObservable.check, IgnoredSubscribe.check, UnsafeFirst.check engine].foldl add {}

theorem checks_ofEngine (engine : Regex.Engine) : (ofEngine engine).checks =
    [IgnoredObservable.check, IgnoredSubscribe.check, UnsafeFirst.check engine] := rfl

/-- The identifiers, quoted and between brackets. -/
def display (catalogue : Catalogue) : String :=
  "[" ++ ", ".intercalate (catalogue.ids.map quoted) ++ "]"

end Catalogue

end StreamLint
