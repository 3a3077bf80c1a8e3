import StreamLint.Diagnostic
import StreamLint.Pattern.Index
/-!
# What can go wrong with a check

A check may refuse its options, which is found out once, or fail at a node, which ends it for the
file.
-/

namespace StreamLint

/-- Why a check cannot be used. -/
inductive ConfigError where
  /-- Its options do not have the right form. -/
  | invalidOption (check why : String)
  /-- One of its options is no regular expression. -/
  | invalidRegex (check option : String) (fault : Regex.Fault)
  /-- One of its selectors makes no pattern. -/
  | pattern (check : String) (why : PatternFault)
  deriving DecidableEq, Repr

namespace ConfigError

/-- The check concerned. -/
def check : ConfigError → String
  | invalidOption check _ | invalidRegex check _ _ | pattern check _ => check

/-- The code of the configuration problem. -/
def code : ConfigError → Diagnostic.Code
  | invalidOption .. => .invalidOption
  | invalidRegex .. => .invalidRegex
  | pattern .. => .unsatisfiablePattern

/-- What is wrong, for people. -/
def message : ConfigError → String
  | invalidOption check why => s!"invalid options for `{check}`: {why}"
  | invalidRegex check option fault =>
    s!"invalid regular expression in `{check}` option `{option}`: {fault.message}"
  | pattern check why => s!"`{check}` declares an unusable pattern: {why.message}"

/-- The error as a configuration problem. -/
def report (error : ConfigError) : Diagnostics :=
  .single error.code error.message (some error.check)

end ConfigError

/-- Why a check failed at a node. -/
inductive CheckFault where
  /-- It has no message under the key that it used. -/
  | unknownMessage (check key : String)
  /-- It could not go on. -/
  | failed (check why : String)
  deriving DecidableEq, Repr, Inhabited

/-- What is wrong, for people. -/
def CheckFault.message : CheckFault → String
  | unknownMessage check key => s!"`{check}` has no message `{key}`"
  | failed check why => s!"`{check}` failed: {why}"

end StreamLint
