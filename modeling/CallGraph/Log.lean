import CallGraph.Text.Affix

/-!
# Log messages

Messages have a level. A filter says which levels come through: a list of directives separated by
commas, each a level, a target with a level, or a target alone. The directive with the longest
target that the message's target begins with decides.
-/

namespace CallGraph.Log

/-- The levels, the gravest first. -/
inductive Level
  | error
  | warn
  | info
  | debug
  | trace
deriving DecidableEq, Repr

namespace Level

/-- The rank of a level; a graver one has a smaller rank. -/
def rank : Level → Nat
  | error => 1
  | warn => 2
  | info => 3
  | debug => 4
  | trace => 5

/-- The level as it is written in front of a message. -/
def label : Level → String
  | error => "ERROR"
  | warn => "WARN"
  | info => "INFO"
  | debug => "DEBUG"
  | trace => "TRACE"

end Level

/-- A message with its level. -/
structure Message where
  level : Level
  text : String
deriving DecidableEq, Repr

/-- An informative message. -/
def info (text : String) : Message := ⟨.info, text⟩

/-- A message on details. -/
def debug (text : String) : Message := ⟨.debug, text⟩

/-- A warning. -/
def warn (text : String) : Message := ⟨.warn, text⟩

/-- The target of all messages of the tool. -/
def ownTarget : String := "jcallgraph"

/-- Lets messages up to a rank through if their target begins with `target`. -/
structure Directive where
  target : String
  maxRank : Nat
deriving DecidableEq, Repr

/-- The largest rank that a filter word lets through. -/
def rankOf? (word : String) : Option Nat :=
  match String.ofList (word.toList.map Char.toLower) with
  | "off" | "0" => some 0
  | "error" | "1" => some 1
  | "warn" | "2" => some 2
  | "info" | "3" => some 3
  | "debug" | "4" => some 4
  | "trace" | "5" => some 5
  | _ => none

/-- Reads one directive. -/
def Directive.parse? (s : String) : Option Directive :=
  match Text.cut? '=' s with
  | some (target, word) => (rankOf? word).map fun rank => ⟨target, rank⟩
  | none =>
    match rankOf? s with
    | some rank => some ⟨"", rank⟩
    | none => some ⟨s, Level.trace.rank⟩

/-- A list of directives; without any, only errors come through. -/
structure Filter where
  directives : List Directive
deriving DecidableEq, Repr

namespace Filter

/-- Reads a filter. -/
def parse? (s : String) : Option Filter :=
  (((Text.splitAt ',' s).filter (· ≠ "")).mapM Directive.parse?).map Filter.mk

/-- The filter of a run without one of its own. -/
def standard (quiet : Bool) : Filter :=
  if quiet then ⟨[⟨"", Level.warn.rank⟩]⟩
  else ⟨[⟨ownTarget, Level.info.rank⟩, ⟨"", Level.warn.rank⟩]⟩

/-- The filter of a run: the one asked for, if it can be read. -/
def choose (requested : Option String) (quiet : Bool) : Filter :=
  (requested.bind parse?).getD (standard quiet)

/-- Of two directives the one with the longer target; of equal ones the later. -/
def closer (best : Option Directive) (d : Directive) : Option Directive :=
  match best with
  | none => some d
  | some b => if b.target.length ≤ d.target.length then some d else some b

/-- The largest rank of the tool's own messages that comes through. -/
def maxRank (filter : Filter) : Nat :=
  if filter.directives.isEmpty then Level.error.rank
  else
    let own := filter.directives.filter fun d => Text.beginsWith ownTarget d.target
    match own.foldl closer none with
    | none => 0
    | some d => d.maxRank

/-- The message comes through. -/
def passes (filter : Filter) (message : Message) : Bool :=
  decide (message.level.rank ≤ filter.maxRank)

end Filter

end CallGraph.Log
