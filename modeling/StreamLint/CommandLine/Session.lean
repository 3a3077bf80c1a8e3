import StreamLint.CommandLine.Arguments
import StreamLint.CommandLine.Target
import StreamLint.Linter.Run
import StreamLint.Model.Ambient
import StreamLint.Regex.Source
/-!
# A run of the program

A run reads the settings, sets the checks up, finds the files, checks them and writes the reports.
It ends with status 0 if nothing was found, 1 if there are findings, and 2 if the arguments, the
settings or the files could not be used. What goes to the two streams is the value of a function on
the arguments and the files. The checks of a run are those of any catalogue; the program has its own,
`StreamLint.Catalogue.standard`.
-/

namespace StreamLint

/-- The checks of the program: those of this library, with its engine for regular expressions. -/
def Catalogue.standard : Catalogue :=
  .ofEngine Regex.ofSource

/-- What a run writes, and how it ends. -/
structure RunResult where
  /-- The status. -/
  status : Nat
  /-- The output. -/
  stdout : String := ""
  /-- The messages. -/
  stderr : String := ""
  deriving DecidableEq, Repr, Inhabited

/-- Why a run stops. -/
inductive RunError where
  /-- The settings cannot be loaded. -/
  | settings (why : SettingsError)
  /-- The files to check cannot be found or read. -/
  | files (why : TargetError)
  deriving Repr

/-- What is wrong, for people. -/
def RunError.message : RunError → String
  | settings why => why.message
  | files why => why.message

namespace Session

/-- The name and version of the program. -/
def versionText : String :=
  "rxlint 0.1.0\n"

/-- How the program is used. -/
def helpText : String :=
  "Static checks for misused rxjs observables in TypeScript sources\n\n" ++
    "Usage: rxlint [OPTIONS] [PATH]...\n\n" ++
    "Options:\n" ++
    String.join (ValueOption.all.map fun option => s!"      {option.display}\n") ++
    "      --list-checks\n  -h, --help\n  -V, --version\n"

/-- The settings of a run. -/
def loadSettings (files : FileSystem) : Option String → Except RunError Settings
  | none => .ok {}
  | some path =>
    match files.readText path with
    | .error why => .error (.settings (.unreadable path why.message))
    | .ok text => (Settings.ofText text).mapError .settings

/-- The files of a run with their texts. -/
def loadTargets (files : FileSystem) (paths : List String) :
    Except RunError (List (Target × String)) :=
  match Target.ofPaths files paths with
  | .error why => .error (.files why)
  | .ok targets =>
    targets.mapM fun target =>
      match target.file.text with
      | some text => .ok (target, text)
      | none => .error (.files (.unreadable target.path .notText))

/-- A configuration problem on a line. -/
def problemLine (problem : Diagnostic) : String :=
  s!"rxlint: {problem.display}\n"

/-- A failed run, after some messages. -/
def failure (messages : String) (error : RunError) : RunResult where
  status := 2
  stderr := messages ++ s!"rxlint: {error.message}\n"

/-- Checks the files that the arguments name. -/
def checkFiles (catalogue : Catalogue) (files : FileSystem) (arguments : Arguments)
    (format : ResolvedFormat) : RunResult :=
  match loadSettings files arguments.config with
  | .error error => failure "" error
  | .ok settings =>
    let limits := match arguments.maxResolutionDepth with
      | some depth => ({} : Limits).withResolutionDepth depth
      | none => {}
    let setup := Linter.setUp catalogue settings limits .streams
    let problems := String.join (setup.errors.diagnostics.map problemLine)
    match loadTargets files arguments.paths with
    | .error error => failure problems error
    | .ok targets =>
      let reports := targets.map fun (target, text) =>
        setup.linter.checkDocument target.path
          (.ofRows text target.dialect target.file.rows)
      { status :=
          if !setup.errors.isEmpty then 2
          else if reports.any (·.isFlagged) then 1
          else 0
        stdout := match format with
          | .human => findingText reports
          | .json => jsonText reports
        stderr := problems ++ warningText reports }

/-- Does what the arguments ask for. -/
def perform (catalogue : Catalogue) (files : FileSystem) (terminal : Bool) :
    Invocation → RunResult
  | .version => { status := 0, stdout := versionText }
  | .help => { status := 0, stdout := helpText }
  | .run arguments =>
    let format := (arguments.format.getD .auto).resolve terminal
    if arguments.listChecks then
      { status := 0
        stdout := checkListing format (catalogue.checks.map (·.profile)) }
    else checkFiles catalogue files arguments format

end Session

/-- A run of the program with these arguments, in a working directory that holds these files. -/
def Session.run (files : FileTree) (terminal : Bool) (arguments : List String) : RunResult :=
  match Invocation.ofArguments arguments with
  | .ok invocation => perform .standard (.ofTree files) terminal invocation
  | .error error =>
    { status := 2
      stderr := s!"error: {error.message}\n\nFor more information, try '--help'.\n" }

end StreamLint
