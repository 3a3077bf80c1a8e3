import StreamLint.CommandLine.Rendering
/-!
# Arguments

The arguments of a run are read from left to right. The value of an option is looked at only when
the next option or path is reached, or the end; so an argument that is none at all is reported
before a bad value in front of it. After two hyphens everything is a path.

* `StreamLint.Invocation.ofArguments` – what the arguments ask for;
* `StreamLint.UsageError` – why they ask for nothing.
-/

namespace StreamLint

/-- The layout of log lines. -/
inductive LogFormat where
  /-- An object for every line. -/
  | json
  /-- A line for people. -/
  | compact
  deriving DecidableEq, Repr, Inhabited

/-- An option that takes a value. -/
inductive ValueOption where
  | config | format | logFilter | logFormat | maxResolutionDepth
  deriving DecidableEq, Repr, Inhabited

namespace ValueOption

/-- Every option that takes a value. -/
def all : List ValueOption :=
  [config, format, logFilter, logFormat, maxResolutionDepth]

/-- The name of an option, without its hyphens. -/
def name : ValueOption → String
  | config => "config"
  | format => "format"
  | logFilter => "log-filter"
  | logFormat => "log-format"
  | maxResolutionDepth => "max-resolution-depth"

/-- What the value of an option is called. -/
def valueName : ValueOption → String
  | config => "FILE"
  | format => "FORMAT"
  | logFilter => "FILTER"
  | logFormat => "LOG_FORMAT"
  | maxResolutionDepth => "STEPS"

/-- An option with its value as messages name them. -/
def display (option : ValueOption) : String :=
  s!"--{option.name} <{option.valueName}>"

end ValueOption

/-- Why arguments cannot be used. -/
inductive UsageError where
  /-- An argument lacks its value. -/
  | missingValue (argument : String)
  /-- A value is none of those allowed. -/
  | invalidValue (value argument : String) (why : Option String)
  /-- An argument may be given once only. -/
  | repeated (argument : String)
  /-- There is no such argument. -/
  | unknown (argument : String)
  /-- An argument takes no value. -/
  | unneededValue (value argument : String)
  /-- There is nothing to check. -/
  | missingPaths
  deriving DecidableEq, Repr

/-- What is wrong, in one line. -/
def UsageError.message : UsageError → String
  | missingValue argument => s!"a value is required for '{argument}' but none was supplied"
  | invalidValue value argument why =>
    let reason := match why with
      | some why => ": " ++ why
      | none => ""
    s!"invalid value '{value}' for '{argument}'{reason}"
  | repeated argument => s!"the argument '{argument}' cannot be used multiple times"
  | unknown argument => s!"unexpected argument '{argument}' found"
  | unneededValue value argument =>
    s!"unexpected value '{value}' for '{argument}' found; no more were expected"
  | missingPaths => "the following required arguments were not provided:\n  <PATH>..."

/-- What a run is to do. -/
structure Arguments where
  /-- The files and directories to check. -/
  paths : List String := []
  /-- The settings file. -/
  config : Option String := none
  /-- The output. -/
  format : Option OutputFormat := none
  /-- The log lines to be written. -/
  logFilter : Option String := none
  /-- The layout of log lines. -/
  logFormat : Option LogFormat := none
  /-- How many steps a type is followed. -/
  maxResolutionDepth : Option Nat := none
  /-- Whether the checks are to be listed. -/
  listChecks : Bool := false
  deriving DecidableEq, Repr, Inhabited

/-- What arguments ask for. -/
inductive Invocation where
  /-- A run. -/
  | run (arguments : Arguments)
  /-- The version of the program. -/
  | version
  /-- How the program is used. -/
  | help
  deriving DecidableEq, Repr

namespace Arguments

/-! ### Values -/

/-- The first number that does not fit 64 bits. -/
def countBound : Nat := 18446744073709551616

/-- A count of 64 bits, or what is wrong with the text. -/
def readCount (text : String) : Except String Nat :=
  let digits := match text.toList with
    | '+' :: rest => rest
    | cs => cs
  if text.isEmpty then .error "cannot parse integer from empty string"
  else if digits.isEmpty then .error "invalid digit found in string"
  else
    digits.foldlM (fun n c =>
      if !c.isDigit then .error "invalid digit found in string"
      else
        let next := 10 * n + (c.toNat - '0'.toNat)
        if next < countBound then .ok next else .error "number too large to fit in target type") 0

/-- A path, which may not be empty. -/
def readPath (argument path : String) : Except UsageError String :=
  if path.isEmpty then .error (.missingValue argument) else .ok path

/-- One of several words. -/
def readWord {α : Type} (words : List (String × α)) (argument word : String) :
    Except UsageError α :=
  match words.lookup word with
  | some a => .ok a
  | none =>
    if word.isEmpty then .error (.missingValue argument)
    else .error (.invalidValue word argument none)

/-- Whether an option has been given. -/
def has (arguments : Arguments) : ValueOption → Bool
  | .config => arguments.config.isSome
  | .format => arguments.format.isSome
  | .logFilter => arguments.logFilter.isSome
  | .logFormat => arguments.logFormat.isSome
  | .maxResolutionDepth => arguments.maxResolutionDepth.isSome

/-- Takes an option with its value. -/
def withOption (arguments : Arguments) (option : ValueOption) (value : String) :
    Except UsageError Arguments := do
  if arguments.has option then throw (.repeated option.display)
  match option with
  | .config => return { arguments with config := some (← readPath option.display value) }
  | .format =>
    let format ← readWord [("auto", OutputFormat.auto), ("human", .human), ("json", .json)]
      option.display value
    return { arguments with format := some format }
  | .logFilter => return { arguments with logFilter := some value }
  | .logFormat =>
    let format ← readWord [("json", LogFormat.json), ("compact", .compact)] option.display value
    return { arguments with logFormat := some format }
  | .maxResolutionDepth =>
    match readCount value with
    | .ok depth => return { arguments with maxResolutionDepth := some depth }
    | .error why => throw (.invalidValue value option.display (some why))

/-- How messages name the paths. -/
def pathsName : String := "[PATH]..."

/-- Takes paths. -/
def withPaths (arguments : Arguments) (paths : List String) : Except UsageError Arguments := do
  let paths ← paths.mapM (readPath pathsName)
  return { arguments with paths := arguments.paths ++ paths }

/-- Takes the flag for the list of checks. -/
def withListChecks (arguments : Arguments) : Except UsageError Arguments :=
  if arguments.listChecks then .error (.repeated "--list-checks")
  else .ok { arguments with listChecks := true }

/-! ### Reading -/

/-- What has been read but not yet looked at. -/
inductive Waiting where
  /-- Nothing. -/
  | nothing
  /-- An option whose value comes next. -/
  | value (option : ValueOption)
  /-- An option with its value. -/
  | option (option : ValueOption) (value : String)
  /-- Paths. -/
  | paths (paths : List String)

/-- Takes what has been read. -/
def settle (arguments : Arguments) : Waiting → Except UsageError Arguments
  | .nothing => .ok arguments
  | .value option => .error (.missingValue option.display)
  | .option option value => arguments.withOption option value
  | .paths paths => arguments.withPaths paths

/-- The end of the arguments. Without anything to check there has to be something else to do. -/
def finish (arguments : Arguments) (waiting : Waiting) : Except UsageError Invocation := do
  let arguments ← arguments.settle waiting
  if arguments.paths.isEmpty && !arguments.listChecks then throw .missingPaths
  return .run arguments

/-- What an argument is by its form. -/
inductive Form where
  /-- Two hyphens. -/
  | separator
  /-- A name after two hyphens, possibly with a value after an equals sign. -/
  | long (name : String) (value : Option String)
  /-- Letters after a hyphen. -/
  | short (letters : List Char)
  /-- Anything else. -/
  | plain

/-- The form of an argument. -/
def formOf (text : String) : Form :=
  match text.toList with
  | ['-', '-'] => .separator
  | '-' :: '-' :: rest =>
    let name := rest.takeWhile (· != '=')
    if name.isEmpty then .plain
    else
      .long (String.ofList name) <|
        if name.length < rest.length then some (String.ofList (rest.drop (name.length + 1)))
        else none
  | '-' :: letter :: rest => .short (letter :: rest)
  | _ => .plain

/-- The names of the arguments that take no value. -/
def flagNames : List String :=
  ["list-checks", "version", "help"]

/-- Reads arguments after `arguments` and what is waiting. Once `trailing` is set, only paths
follow. -/
def read (trailing : Bool) (arguments : Arguments) (waiting : Waiting) :
    List String → Except UsageError Invocation
  | [] => arguments.finish waiting
  | text :: rest =>
    let takePath : Except UsageError Invocation :=
      match waiting with
      | .paths paths => read trailing arguments (.paths (paths ++ [text])) rest
      | _ => do
        let arguments ← arguments.settle waiting
        read trailing arguments (.paths [text]) rest
    if trailing then takePath
    else
      match formOf text with
      | .separator => read true arguments waiting rest
      | .long name value =>
        match ValueOption.all.find? (·.name == name) with
        | some option => do
          let arguments ← arguments.settle waiting
          match value with
          | some value => do
            let arguments ← arguments.withOption option value
            read false arguments .nothing rest
          | none => read false arguments (.value option) rest
        | none =>
          if !flagNames.contains name then .error (.unknown ("--" ++ name))
          else
            match value with
            | some value => .error (.unneededValue value ("--" ++ name))
            | none => do
              let arguments ← arguments.settle waiting
              if name == "version" then return .version
              else if name == "help" then return .help
              else
                let arguments ← arguments.withListChecks
                read false arguments .nothing rest
      | .short letters => do
        match letters with
        | 'V' :: _ =>
          let _ ← arguments.settle waiting
          return .version
        | 'h' :: _ =>
          let _ ← arguments.settle waiting
          return .help
        | letter :: _ => .error (.unknown (String.ofList ['-', letter]))
        | [] => takePath
      | .plain =>
        match waiting with
        | .value option => read false arguments (.option option text) rest
        | _ => takePath

end Arguments

/-- What arguments ask for. -/
def Invocation.ofArguments (arguments : List String) : Except UsageError Invocation :=
  Arguments.read false {} .nothing arguments

end StreamLint
