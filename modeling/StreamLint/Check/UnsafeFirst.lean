import StreamLint.Check.Handler
import StreamLint.Check.Options
/-!
# Truncated streams of actions

Effects and epics are long-lived pipelines that begin at a stream of actions. An operator which lets
the first values through only, directly in such a pipeline, ends it after the first action. Streams
of actions are told by their names.
-/

namespace StreamLint.UnsafeFirst

/-- Names of streams of actions: they end in the word action, in the plural or with a dollar
sign. -/
def defaultPattern : String :=
  "[Aa]ction(s|s\\$|\\$)$"

/-- The description of the check. -/
def profile : CheckProfile where
  id := "no-unsafe-first"
  description := "Forbids unsafe `first`/`take` usage in effects and epics."
  category := "Best Practices"
  messages := [("forbidden", "Unsafe first and take usage in effects and epics are forbidden.")]
  options := [{
    name := "observable"
    valueType := "string"
    description := "Regular expression identifying the action observables from which effects " ++
      "and epics are composed."
    default := some defaultPattern }]

/-- A name that the regular expression matches, or a member with such a name. -/
def receiver (names : Regex) : Selector :=
  (Selector.nameMatches names).either
    ((Selector.kind .memberExpression).both (.field .property (.nameMatches names)))

/-- A call of the member `pipe` of a stream of actions. -/
def selector (names : Regex) : Selector :=
  (Selector.kind .callExpression).both
    (.field .callee
      (((Selector.kind .memberExpression).both (.field .property (.name "pipe"))).both
        (.field .object (receiver names))))

/-- Whether an operator lets the first values through only. -/
def isTruncating (name : String) : Bool :=
  name == "take" || name == "first"

/-- The report about a stage of a pipeline, if it is a call of such an operator by its name. -/
def stageReport? (tree : SyntaxTree) (profile : CheckProfile) (stage : NodeId) :
    Option (Except CheckFault Finding) :=
  match tree.construct? stage with
  | some (.callExpression callee _) =>
    match tree.nameAt? callee with
    | some name =>
      if isTruncating name then some (profile.finding tree stage "forbidden" (some callee))
      else none
    | none => none
  | _ => none

/-- Reports the truncating stages of a pipeline whose receiver is an object and could be
observable. -/
def handler : Handler := fun tree profile call => do
  match (tree.field? call .callee).bind (tree.field? · .object) with
  | none => return {}
  | some object =>
    if !(← Oracle.isReference object) then return {}
    if !(← Oracle.mayBeObservable object) then return {}
    return .ofReports (((tree.arguments? call).getD []).filterMap (stageReport? tree profile))

/-- The regular expression for names of streams of actions that the options give, if the engine
takes it. -/
def namesOf (engine : Regex.Engine) (options : Json) : Except ConfigError Regex := do
  let fields ← profile.optionsRecord options
  let source ← profile.textOption? fields "observable"
  match engine (source.getD defaultPattern) with
  | .error fault => throw (.invalidRegex profile.id "observable" fault)
  | .ok names => return names

/-- The check, with an engine for the regular expression in its options. -/
def check (engine : Regex.Engine) : Check where
  profile := profile
  configure options := do
    let names ← namesOf engine options
    let listener ← Listener.ofSelector profile.id (selector names) handler
    return [listener]

end StreamLint.UnsafeFirst
