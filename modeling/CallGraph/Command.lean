import CallGraph.Endpoint
import CallGraph.FileTree
import CallGraph.Options.Help
import CallGraph.Run

/-!
# The command

A command opens its outputs, processes its archives and tells how it ended. It works on a file tree
as a value, and the tree afterwards is part of the answer.

* `Command.run` carries out what options ask for.
* `Command.execute` starts from the arguments: it answers inquiries, refuses what cannot be
  understood, and ends with an exit code.
-/

namespace CallGraph

/-! ## Open outputs -/

/-- Where a stream of output goes. -/
inductive Target
  | console
  /-- To a file, from a position on. -/
  | file (names : List String) (position : Nat)
deriving DecidableEq, Repr

/-- Files, and what has been written to the console. -/
structure Workspace where
  files : FileTree
  console : String := ""

namespace Workspace

/-- Bytes with new ones from a position on. -/
def overwrite (old new : ByteArray) (position : Nat) : ByteArray :=
  old.extract 0 position ++ new ++ old.extract (position + new.size) old.size

/-- Writes to a target, and moves its position behind what was written. -/
def write (workspace : Workspace) (text : String) : Target → Workspace × Target
  | .console => ({ workspace with console := workspace.console ++ text }, .console)
  | .file names position =>
    let bytes := text.toUTF8
    let content := overwrite (workspace.files.content names) bytes position
    ({ workspace with files := workspace.files.setFile names content },
      .file names (position + bytes.size))

/-- Creates a file and opens it from its beginning. -/
def openFile (workspace : Workspace) (path : String) : Except FileError (Workspace × Target) := do
  let (files, names) ← workspace.files.create path
  return ({ workspace with files }, .file names 0)

/-- Opens the output for edges. -/
def openOutput (workspace : Workspace) : Option String → Except FileError (Workspace × Target)
  | none => .ok (workspace, .console)
  | some path =>
    if Options.isConsole path then .ok (workspace, .console) else workspace.openFile path

end Workspace

/-- A workspace with both outputs open. -/
structure Session where
  workspace : Workspace
  edges : Target
  annotations : Option Target

namespace Session

/-- Writes to both outputs. -/
def write (session : Session) (written : Written) : Session :=
  let (workspace, edges) := session.workspace.write written.edges session.edges
  match session.annotations with
  | none => { session with workspace, edges }
  | some target =>
    let (workspace, target) := workspace.write written.annotations target
    ⟨workspace, edges, some target⟩

/-- A run on a session reads its files and writes to its outputs. -/
def host : Host Session where
  locate session := session.workspace.files.locate
  write := write

end Session

/-! ## Runs -/

/-- Why a command fails. -/
inductive CommandError
  | endpoint (cause : EndpointError)
  | openFile (path : String) (cause : FileError)
  | archive (cause : ArchiveError)
deriving DecidableEq, Repr

/-- The wording of the cause. -/
def CommandError.explanation : CommandError → Explanation
  | endpoint cause => cause.explanation
  | openFile path cause => (Explanation.ofSource (.file cause)).within ("failed to open " ++ path)
  | archive cause => cause.explanation

/-- How a command ends. -/
structure Report where
  workspace : Workspace
  totals : Totals := {}
  log : List Log.Message := []
  spans : List Span := []
  result : Except CommandError Unit

namespace Command

/-- The report of a command that fails before it processes anything. -/
def failed (workspace : Workspace) (e : CommandError) : Report := { workspace, result := .error e }

/-- Processes the archives with both outputs open. -/
def process (options : Options) (session : Session) : Report :=
  let sink : Sink :=
    { format := options.outputFormat, keepsAnnotations := session.annotations.isSome }
  let run :=
    Run.archives Session.host session (.start options.engineConfig) sink {} options.archives
  { workspace := run.state.workspace
    totals := run.totals
    log := run.log
    spans := run.spans
    result := run.result.mapError .archive }

/-- Carries out what the options ask for. Both outputs are opened before anything is read. -/
def run (options : Options) (files : FileTree) : Report :=
  let start : Workspace := { files }
  match start.openOutput options.output with
  | .error e => failed start (.openFile (options.output.getD "") e)
  | .ok (workspace, edges) =>
    match options.annotationPath? with
    | none => process options ⟨workspace, edges, none⟩
    | some path =>
      match workspace.openFile path with
      | .error e => failed workspace (.openFile path e)
      | .ok (workspace, target) => process options ⟨workspace, edges, some target⟩

/-- The numbers of a run on one line. -/
def timingLine (totals : Totals) : String :=
  "archives=" ++ toString totals.archives ++ " classes=" ++ toString totals.classes ++
    " edges=" ++ toString totals.edges

/-- Numbers are shown of a run that succeeds, if they are asked for and the run is not quiet. -/
def timing? (options : Options) (report : Report) : Option String :=
  match report.result with
  | .ok () => if options.timing && !options.quiet then some (timingLine report.totals) else none
  | .error _ => none

/-- The endpoint of the options, if there is one, is an address. -/
def checkEndpoint (options : Options) : Except EndpointError Unit :=
  match options.otel with
  | none => .ok ()
  | some endpoint => (fun _ => ()) <$> Endpoint.connect endpoint

end Command

/-! ## From arguments to an exit code -/

/-- What is left when a command has ended. -/
structure Ending where
  exitCode : Nat
  /-- What was written to the console. -/
  console : String := ""
  error : Option Explanation := none
  timing : Option String := none
  log : List Log.Message := []
  files : FileTree

namespace Command

/-- Lines of text, each with a line end. -/
def linesText (lines : List String) : String := String.join (lines.map (· ++ "\n"))

/-- The ending of a run with given options. -/
def ending (options : Options) (logFilter : Option String) (report : Report) : Ending :=
  let filter := Log.Filter.choose logFilter options.quiet
  { exitCode := if report.result.toBool then 0 else 1
    console := report.workspace.console
    error :=
      match report.result with
      | .ok () => none
      | .error e => some e.explanation
    timing := timing? options report
    log := report.log.filter filter.passes
    files := report.workspace.files }

/-- Executes the command with arguments; `logFilter` is the filter that the environment asks
for. -/
def execute (arguments : List String) (logFilter : Option String) (files : FileTree) : Ending :=
  match Options.parse arguments with
  | .error (.inquiry i) => { exitCode := 0, console := linesText i.lines, files }
  | .error refusal => { exitCode := refusal.exitCode, files }
  | .ok options =>
    let report :=
      match checkEndpoint options with
      | .error e => failed { files } (.endpoint e)
      | .ok () => run options files
    ending options logFilter report

end Command

end CallGraph
