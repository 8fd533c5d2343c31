import CallGraph.Command

/-!
# The command line tool

Reads files, writes streams and shows messages. Everything that is decided is decided elsewhere:
here a path becomes an `Input`, a `Written` goes to two streams, and an `Explanation` goes to the
error output.
-/

namespace CallGraph.Main

/-- The code of the operating system for a path through something that is no directory. -/
def notADirectoryCode : UInt32 := 20

/-- The code of the operating system for a name that is too long. -/
def nameTooLongCode : UInt32 := 36

/-- What an answer of the operating system says about a file. -/
def fileErrorOf : IO.Error → FileError
  | .noFileOrDirectory _ _ _ => .notFound
  | .noSuchThing _ _ _ => .notFound
  | .inappropriateType _ code _ =>
    if code = notADirectoryCode then .notADirectory else .isADirectory
  | .invalidArgument _ code _ => if code = nameTooLongCode then .nameTooLong else .invalidInput
  | _ => .other

/-- Does something with files, and turns a failure into a value. -/
def attempt {α : Type} (act : IO α) : IO (Except FileError α) := do
  try return .ok (← act)
  catch e => return .error (fileErrorOf e)

/-- Reads a file, or a directory with all that is in it. -/
partial def readNode (path : String) : IO Node := do
  let real ← IO.FS.realPath path
  if ← real.isDir then
    let entries ← real.readDir
    let members ← entries.toList.mapM fun entry => do
      return (entry.fileName, ← readNode entry.path.toString)
    return .directory members
  else return .file (← IO.FS.readBinFile path)

/-- Finds what a path leads to. -/
def locate (path : String) : IO (Except FileError Input) :=
  attempt do
    let real := (← IO.FS.realPath path).toString
    return { path := real, found := ← attempt (readNode real) }

/-- Creates a file for output. -/
def create (path : String) : IO (Except CommandError IO.FS.Stream) := do
  let opened ← attempt (IO.FS.Handle.mk path .write)
  return (opened.map IO.FS.Stream.ofHandle).mapError (.openFile path)

/-- Both outputs. -/
structure Outputs where
  edges : IO.FS.Stream
  annotations : Option IO.FS.Stream

/-- Opens both outputs. -/
def openOutputs (options : Options) : IO (Except CommandError Outputs) := do
  let edges ←
    match options.output with
    | none => pure (Except.ok (← IO.getStdout))
    | some path => if Options.isConsole path then pure (.ok (← IO.getStdout)) else create path
  match edges, options.annotationPath? with
  | .error e, _ => return .error e
  | .ok edges, none => return .ok ⟨edges, none⟩
  | .ok edges, some path => return (← create path).map fun stream => ⟨edges, some stream⟩

/-- Writes to both outputs. -/
def Outputs.write (outputs : Outputs) (written : Written) : IO Unit := do
  outputs.edges.putStr written.edges
  outputs.edges.flush
  if let some stream := outputs.annotations then
    stream.putStr written.annotations
    stream.flush

/-- Shows the messages that come through a filter. -/
def showLog (filter : Log.Filter) (messages : List Log.Message) : IO Unit := do
  for m in messages do
    if filter.passes m then IO.eprintln (m.level.label ++ " " ++ m.text)

/-- Shows why the command failed. -/
def showError (e : Explanation) : IO Unit := do
  IO.eprintln ("Error: " ++ e.links.headD "")
  match e.links.drop 1 with
  | [] => return
  | causes =>
    IO.eprintln "\nCaused by:"
    for cause in causes do IO.eprintln ("    " ++ cause)

/-- The operating system as the surroundings of a run. -/
def port (outputs : Outputs) (filter : Log.Filter) : Port IO where
  locate := locate
  write := outputs.write
  tell := showLog filter

/-- Carries out what the options ask for. -/
def run (options : Options) (filter : Log.Filter) : IO (Except CommandError Totals) := do
  match Command.checkEndpoint options with
  | .error e => return .error (.endpoint e)
  | .ok () =>
    match ← openOutputs options with
    | .error e => return .error e
    | .ok outputs =>
      let sink : Sink :=
        { format := options.outputFormat, keepsAnnotations := outputs.annotations.isSome }
      let run ←
        Run.processAll (port outputs filter) (.start options.engineConfig) sink {} options.archives
      return (run.result.map fun _ => run.totals).mapError .archive

/-- The environment variable with the log filter. -/
def logVariable : String := "RUST_LOG"

/-- Runs the command with options that were understood. -/
def start (options : Options) : IO UInt32 := do
  let begun ← IO.monoMsNow
  let filter := Log.Filter.choose (← IO.getEnv logVariable) options.quiet
  match ← run options filter with
  | .error e =>
    showError e.explanation
    return 1
  | .ok totals =>
    if options.timing && !options.quiet then
      let elapsed := (← IO.monoMsNow) - begun
      IO.eprintln
        ("timing: total_ms=" ++ toString elapsed ++ " " ++ Command.timingLine totals)
    return 0

end CallGraph.Main

/-- The command line tool. -/
def main (arguments : List String) : IO UInt32 := do
  match CallGraph.Options.parse arguments with
  | .error (.inquiry i) =>
    IO.print (CallGraph.Command.linesText i.lines)
    return 0
  | .error refusal =>
    IO.eprintln ("error: " ++ refusal.message)
    return refusal.exitCode.toUInt32
  | .ok options => CallGraph.Main.start options
