import CallGraph.Archive
import CallGraph.Engine
import CallGraph.Sink

/-!
# Runs over archives

An archive is given by a path. Its canonical path decides whether it has been met before; one that
has been met is passed over. A run processes paths one after the other and stops at the first
failure; what was reported up to there has been written.

* `Engine.processArchive` processes one path.
* `Run.processAll` processes a list of paths, whatever its surroundings are.
* `Run.archives` does so on a host, which finds files and takes the output.
-/

namespace CallGraph

/-- What a path leads to: its canonical form, and what is found there. -/
structure Input where
  path : String
  found : Except FileError Node

/-- What a path leads to in a file tree. -/
def FileTree.locate (tree : FileTree) (path : String) : Except FileError Input := do
  let names ← tree.resolve path
  return { path := Path.ofNames names, found := tree.node names }

/-- What goes wrong inside an archive. -/
inductive ProcessError
  | scan (cause : ScanError)
  | hierarchy (cause : HierarchyError)
deriving DecidableEq, Repr

/-- The wording of the cause. -/
def ProcessError.explanation : ProcessError → Explanation
  | scan cause => cause.explanation
  | hierarchy cause => .of cause.message

/-- Why a path cannot be processed. -/
inductive ArchiveError
  | inputNotFound (path : String) (cause : FileError)
  | failed (path : String) (cause : ProcessError)
deriving DecidableEq, Repr

/-- The wording of the cause. -/
def ArchiveError.explanation : ArchiveError → Explanation
  | inputNotFound path cause =>
    (Explanation.ofSource (.file cause)).within ("input not found: " ++ path)
  | failed path cause => cause.explanation.within ("failed to process " ++ path)

namespace Engine

/-- The attributes of the spans of an archive. -/
def archiveAttributes (index : Nat) (path : String) : List (String × SpanValue) :=
  [("jcallgraph.archive_index", .number index), ("jcallgraph.archive_path", .text path)]

/-- The engine has met one more archive. -/
def meet (engine : Engine) (path : String) : Engine :=
  { engine with seen := engine.seen.insert path, archiveCount := engine.archiveCount + 1 }

/-- Processes an archive that has not been met before. -/
def processInput (engine : Engine) (input : Input) : Outcome ArchiveError (Option Summary) :=
  let engine := engine.meet input.path
  let index := engine.archiveCount
  let attributes := archiveAttributes index input.path
  let started := Log.info ("processing archive " ++ toString index ++ " " ++ input.path)
  let header := Record.archive index input.path
  let scanSpan := Span.leaf "scan" attributes
  let scan := Archive.scan input.path input.found
  match scan.result with
  | .error e =>
    { engine
      records := [header]
      log := started :: scan.log
      spans := [.node "archive" attributes [scanSpan]]
      result := .error (.failed input.path (.scan e)) }
  | .ok classes =>
    let inner := engine.processClasses index classes
    { engine := inner.engine
      records := header :: inner.records
      log := started :: scan.log ++ inner.log
      spans := [.node "archive" attributes (scanSpan :: inner.spans)]
      result :=
        match inner.result with
        | .error e => .error (.failed input.path (.hierarchy e))
        | .ok summary => .ok (some summary) }

/-- Processes the archive that `path` leads to; there is no summary of one that has been met
before. -/
def processArchive (engine : Engine) (path : String) (located : Except FileError Input) :
    Outcome ArchiveError (Option Summary) :=
  match located with
  | .error e =>
    { engine, records := [], log := [], spans := [], result := .error (.inputNotFound path e) }
  | .ok input =>
    if engine.seen.contains input.path then
      { engine
        records := []
        log := [Log.info ("skipping already processed archive " ++ input.path)]
        spans := []
        result := .ok none }
    else engine.processInput input

end Engine

/-! ## Lists of paths -/

/-- What was found in all archives, in numbers. -/
structure Totals where
  archives : Nat := 0
  classes : Nat := 0
  edges : Nat := 0
deriving DecidableEq, Repr

/-- The totals with one more archive. -/
def Totals.add (t : Totals) : Option Summary → Totals
  | none => t
  | some s => ⟨t.archives + 1, t.classes + s.classes, t.edges + s.total⟩

/-- How a run over paths ends, and what it leaves behind. -/
structure Run (σ : Type) where
  state : σ
  engine : Engine
  totals : Totals
  log : List Log.Message
  spans : List Span
  result : Except ArchiveError Unit

/-- What a run asks of its surroundings: where a path leads, and to take its output and its
messages. -/
structure Port (m : Type → Type) where
  locate : String → m (Except FileError Input)
  write : Written → m Unit
  tell : List Log.Message → m Unit

/-- Processes paths one after the other, up to the first that fails. -/
def Run.processAll {m : Type → Type} [Monad m] (port : Port m) (engine : Engine) (sink : Sink)
    (totals : Totals) : List String → m (Run Unit)
  | [] => return ⟨(), engine, totals, [], [], .ok ()⟩
  | path :: paths => do
    let outcome := engine.processArchive path (← port.locate path)
    let (sink, written) := sink.writeAll outcome.records
    port.write written
    let (sink, warnings) := sink.flush
    let log := outcome.log ++ warnings
    port.tell log
    match outcome.result with
    | .error e => return ⟨(), outcome.engine, totals, log, outcome.spans, .error e⟩
    | .ok summary =>
      let rest ← processAll port outcome.engine sink (totals.add summary) paths
      return { rest with log := log ++ rest.log, spans := outcome.spans ++ rest.spans }

/-! ## Surroundings as values -/

/-- Where paths lead, and where output goes. -/
structure Host (σ : Type) where
  locate : σ → String → Except FileError Input
  write : σ → Written → σ

namespace Host

variable {σ : Type}

/-- A host whose files never change and which collects the output. -/
def collecting (locate : String → Except FileError Input) : Host Written where
  locate _ := locate
  write := Written.append

/-- A host as the surroundings of a run. Messages are left to the end of the run. -/
def port (host : Host σ) : Port (StateM σ) where
  locate path := return host.locate (← get) path
  write written := modify (host.write · written)
  tell _ := return ()

end Host

/-- A run over paths on a host. -/
def Run.archives {σ : Type} (host : Host σ) (state : σ) (engine : Engine) (sink : Sink)
    (totals : Totals) (paths : List String) : Run σ :=
  let ended := (processAll host.port engine sink totals paths).run state
  { ended.1 with state := ended.2 }

end CallGraph
