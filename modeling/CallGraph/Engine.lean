import CallGraph.Dispatch
import CallGraph.Extraction
import CallGraph.Hierarchy
import CallGraph.Record
import CallGraph.Log
import CallGraph.Span

/-!
# One archive after the other

The engine draws the edges of the classes of an archive and reports them: first what the code of
each class gives, then the inheritance forest, then dispatch through interfaces, then annotations.
Of one archive only the usage reaches the next, and only if the engine carries it and the archive
did not fail.
-/

namespace CallGraph

open Std (ExtTreeSet)

/-- How a run draws and reports edges. -/
structure EngineConfig where
  /-- Calls found in an archive count for later archives as well. -/
  carriesUsage : Bool := true
  dispatch : DispatchPolicy := .bothCalled
  /-- The classes that a class mentions are reported. -/
  classReferences : Bool := false
deriving DecidableEq, Repr

/-- What was found in an archive, in numbers. -/
structure Summary where
  index : Nat
  classes : Nat
  extracted : Nat
  hierarchy : Nat
  interfaces : Nat
deriving DecidableEq, Repr

/-- The number of all edges. -/
def Summary.total (s : Summary) : Nat := s.extracted + s.hierarchy + s.interfaces

/-- The state between archives. -/
structure Engine where
  config : EngineConfig
  usage : Usage
  /-- The canonical paths of the archives met so far. -/
  seen : ExtTreeSet String
  /-- The number of archives met so far. -/
  archiveCount : Nat

/-- No archive has been met. -/
def Engine.start (config : EngineConfig) : Engine := ⟨config, .empty, ∅, 0⟩

/-- What became of a piece of work: the engine after it, what it reported, and how it ended. -/
structure Outcome (ε α : Type) where
  engine : Engine
  records : List Record
  log : List Log.Message
  spans : List Span
  result : Except ε α

/-! ## Edges from code, class by class -/

/-- Registers and visits classes one after the other. -/
def Facts.extract (facts : Facts) (archive : Nat) : List Class → Facts × List (Class × List Edge)
  | [] => (facts, [])
  | c :: classes =>
    let (facts, edges) := (facts.register c).visit c archive
    let (facts, rest) := facts.extract archive classes
    (facts, (c, edges) :: rest)

/-- The records of a class and the edges of its code. -/
def EngineConfig.classRecords (config : EngineConfig) : Class × List Edge → List Record
  | (c, edges) =>
    (if config.classReferences then c.references.map (Record.reference c.name) else []) ++
      edges.map Record.edge

/-- The log of visiting a class. -/
def Class.visitLog (c : Class) : List Log.Message :=
  Log.debug ("visiting class " ++ c.name) :: c.referenceNotes.map Log.debug

/-- The records of the annotations of all methods, by method and then by annotation. -/
def Facts.annotationRecords (facts : Facts) : List Record :=
  facts.annotations.toList.flatMap fun (method, types) => types.toList.map (Record.annotated method)

namespace Engine

/-- The usage that an archive starts from. -/
def initialUsage (engine : Engine) : Usage :=
  if engine.config.carriesUsage then engine.usage else .empty

/-- The span of the first look over the classes. -/
def indexSpan (classes : List Class) : Span :=
  .leaf "pre_pass" [("jcallgraph.classes", .number classes.length)]

/-- The log of the end of an archive. -/
def summaryMessage (s : Summary) (usageClasses : Nat) : Log.Message :=
  Log.info ("archive " ++ toString s.index ++ ": classes=" ++ toString s.classes ++ " extracted=" ++
    toString s.extracted ++ " hierarchy=" ++ toString s.hierarchy ++ " interfaces=" ++
    toString s.interfaces ++ " usage_classes=" ++ toString usageClasses)

/-- Draws and reports the edges of the classes of the archive number `index`. -/
def processClasses (engine : Engine) (index : Nat) (classes : List Class) :
    Outcome HierarchyError Summary :=
  let config := engine.config
  let facts := (Facts.ofUsage engine.initialUsage).index classes
  let (facts, extracted) := facts.extract index classes
  let walk := facts.propagateContracts.hierarchyWalk
  let records := extracted.flatMap config.classRecords
  let log := classes.flatMap Class.visitLog ++
    walk.entered.map fun top => Log.debug ("walking hierarchy from top superclass " ++ top)
  let spans := [indexSpan classes, .leaf "visit" [], .leaf "hierarchy" []]
  match walk.edges with
  | .error e =>
    { engine := { engine with usage := if config.carriesUsage then .empty else engine.usage }
      records, log, spans
      result := .error e }
  | .ok hierarchy =>
    let dispatch := facts.dispatchEdges config.dispatch
    let summary : Summary :=
      { index
        classes := classes.length
        extracted := (extracted.flatMap Prod.snd).length
        hierarchy := hierarchy.length
        interfaces := dispatch.length }
    { engine := { engine with usage := if config.carriesUsage then facts.usage else engine.usage }
      records := records ++ hierarchy.map Record.edge ++ dispatch.map Record.edge ++
        facts.annotationRecords
      log := log ++ [summaryMessage summary facts.usage.classCount]
      spans := spans ++ [.leaf "interfaces" []]
      result := .ok summary }

end Engine

end CallGraph
