import StreamLint.Check.Handler
import StreamLint.Check.Options
/-!
# Ignored subscriptions

A call of `subscribe` without arguments starts a stream and throws its values and errors away.
-/

namespace StreamLint.IgnoredSubscribe

/-- The description of the check. -/
def profile : CheckProfile where
  id := "no-ignored-subscribe"
  description := "Forbids the calling of `subscribe` without specifying arguments."
  category := "RxJS"
  messages := [("forbidden", "Calling subscribe without arguments is forbidden.")]

/-- A member `subscribe` that is called without arguments. -/
def selector : Selector :=
  ((Selector.kind .memberExpression).both (.field .property (.name "subscribe"))).both
    (.fieldOf .callee ((Selector.kind .callExpression).both (.argumentCount 0)))

/-- Reports the member if its object could be observable, and points at the property. -/
def handler : Handler := fun tree profile member => do
  match tree.field? member .object, tree.field? member .property with
  | some object, some property =>
    if ← Oracle.mayBeObservable object then
      return .ofReports [profile.finding tree member "forbidden" (some property)]
    else return {}
  | _, _ => return {}

/-- The check, which has no options. -/
def check : Check where
  profile := profile
  configure options := do
    let _ ← profile.optionsRecord options
    let listener ← Listener.ofSelector profile.id selector handler
    return [listener]

end StreamLint.IgnoredSubscribe
