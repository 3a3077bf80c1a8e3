import StreamLint.Check.Handler
import StreamLint.Check.Options
/-!
# Ignored observables

A call that stands alone as a statement throws its result away. If the result could be observable,
then nobody will subscribe to it.
-/

namespace StreamLint.IgnoredObservable

/-- The description of the check. -/
def profile : CheckProfile where
  id := "no-ignored-observable"
  description := "Forbids the ignoring of observables returned by functions."
  category := "Best Practices"
  messages := [("forbidden", "Ignoring a returned Observable is forbidden.")]

/-- A call that stands alone as a statement. -/
def selector : Selector :=
  (Selector.kind .callExpression).both (.fieldOf .expression (.kind .expressionStatement))

/-- Reports the call if its result could be observable. -/
def handler : Handler := fun tree profile call => do
  if ← Oracle.mayBeObservable call then
    return .ofReports [profile.finding tree call "forbidden" none]
  else return {}

/-- The check, which has no options. -/
def check : Check where
  profile := profile
  configure options := do
    let _ ← profile.optionsRecord options
    let listener ← Listener.ofSelector profile.id selector handler
    return [listener]

end StreamLint.IgnoredObservable
