import StreamLint.Check.Catalogue
import StreamLint.Linter.Settings
import StreamLint.Model.Basic
/-!
# Setting checks up

Checks are configured once, for many files. A check that is turned off is left alone; one that
refuses its options is left out and reported; the listeners of all others go to one index, each with
the place of its check among the active ones. Settings of checks that do not exist are reported
first.
-/

namespace StreamLint

/-- A handler with the place of its check. -/
structure OwnedHandler where
  /-- The place of the check among the active checks. -/
  check : Nat
  /-- What is done. -/
  handler : Handler

/-- Checks that are ready to run. -/
structure Linter where
  /-- The patterns of all active checks. -/
  patterns : PatternIndex OwnedHandler
  /-- The profiles of the active checks. -/
  checks : Array CheckProfile := #[]
  /-- What every file may refer to. -/
  prelude : Prelude
  /-- The limits in force. -/
  limits : Limits

/-- A linter, and what was wrong with the settings. -/
structure Setup where
  /-- The linter with the checks that could be configured. -/
  linter : Linter
  /-- The configuration problems. -/
  errors : Diagnostics := {}

namespace Linter

/-- The identifiers of the active checks. -/
def activeIds (linter : Linter) : List String :=
  linter.checks.toList.map (·.id)

/-- The linter without checks. -/
def empty (limits : Limits) (prelude : Prelude) : Linter where
  patterns := .empty limits.descendantNodes
  prelude := prelude
  limits := limits

/-- The linter with one check more, which has these listeners. -/
def addCheck (linter : Linter) (profile : CheckProfile) (listeners : List Listener) : Linter :=
  { linter with
    patterns := listeners.foldl
      (fun patterns listener =>
        patterns.add listener.pattern ⟨linter.checks.size, listener.handler⟩)
      linter.patterns
    checks := linter.checks.push profile }

end Linter

namespace Setup

/-- What is said of settings for a check that does not exist. -/
def unknownCheck (id : String) : Diagnostic where
  code := .unknownCheck
  message := s!"no check named `{id}`"
  origin := some id

/-- The problems with settings for checks that do not exist, in ascending order. -/
def unknownChecks (catalogue : Catalogue) (settings : Settings) : Diagnostics :=
  ⟨(settings.checks.keys.filter fun id => (catalogue.get? id).isNone).map unknownCheck⟩

/-- Takes a check as its settings say. -/
def addCheck (settings : Settings) (setup : Setup) (check : Check) : Setup :=
  let configured := (settings.check? check.profile.id).getD {}
  if configured.enabled then
    match check.configure configured.options with
    | .ok listeners =>
      { setup with linter := setup.linter.addCheck check.profile listeners }
    | .error error => { setup with errors := setup.errors.append error.report }
  else setup

end Setup

/-- Configures the checks of a catalogue as the settings say. -/
def Linter.setUp (catalogue : Catalogue) (settings : Settings) (limits : Limits)
    (prelude : Prelude) : Setup :=
  catalogue.checks.foldl (Setup.addCheck settings)
    { linter := .empty limits prelude, errors := Setup.unknownChecks catalogue settings }

end StreamLint
