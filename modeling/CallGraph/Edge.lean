import CallGraph.Class

/-!
# Call edges

An edge says that one method may call another. Its kind tells why, and its origin, where it is
known, the source line and the archive. `Edge.text` is the line that an edge is written as.
-/

namespace CallGraph

/-- A method of a class, rendered `owner:name(argument,argument)`. -/
structure MethodKey where
  owner : String
  /-- The name and the argument list. -/
  signature : String
deriving DecidableEq, Repr

namespace MethodKey

/-- The key of a method given by name and arguments. -/
def of (owner name : String) (arguments : List String) : MethodKey :=
  ⟨owner, CallGraph.signature name arguments⟩

/-- The rendered key. -/
def text (key : MethodKey) : String := key.owner ++ ":" ++ key.signature

end MethodKey

/-- Why an edge is there. -/
inductive EdgeKind
  | virtual
  | interface
  | special
  | static
  | dynamic
  /-- From an interface method to an implementation. -/
  | dispatch
  /-- From a method to the body of a lambda in it. -/
  | lambda
  /-- From where a runnable object is made, through its constructor, to `run()`. -/
  | runnable
  /-- From where a callable object is made, through its constructor, to `call()`. -/
  | callable
  /-- From `start()` of a thread to `run()`. -/
  | threadStart
  /-- From an abstract method to its counterpart in a subclass. -/
  | superToChild
  /-- From an inherited method to its declaration in a superclass. -/
  | childToSuper
deriving DecidableEq, Repr

namespace EdgeKind

/-- The short name in the output. -/
def tag : EdgeKind → String
  | virtual => "M"
  | interface => "I"
  | special => "O"
  | static => "S"
  | dynamic => "D"
  | dispatch => "ITF"
  | lambda => "LM"
  | runnable => "RIR"
  | callable => "CIC"
  | threadStart => "TSR"
  | superToChild => "SCC"
  | childToSuper => "CCS"

/-- All kinds. -/
def all : List EdgeKind :=
  [virtual, interface, special, static, dynamic, dispatch, lambda, runnable, callable, threadStart,
   superToChild, childToSuper]

/-- The kind with a short name. -/
def ofTag? (tag : String) : Option EdgeKind := all.find? (·.tag = tag)

/-- The kind of the edge that a call site makes. -/
def ofCallKind : CallKind → EdgeKind
  | .virtual => virtual
  | .interface => interface
  | .special => special
  | .static => static
  | .dynamic => dynamic

theorem ofTag?_tag (kind : EdgeKind) : ofTag? kind.tag = some kind := by
  cases kind <;> decide

end EdgeKind

/-- The source line and the archive that an edge was found in. -/
structure Origin where
  line : Nat
  archive : Nat
deriving DecidableEq, Repr

/-- One method may call another. -/
structure Edge where
  caller : MethodKey
  kind : EdgeKind
  callee : MethodKey
  /-- Unknown for inferred edges and for code without line numbers. -/
  origin : Option Origin
deriving DecidableEq, Repr

namespace Edge

/-- An edge that no single place in the code gives rise to. -/
def inferred (caller : MethodKey) (kind : EdgeKind) (callee : MethodKey) : Edge :=
  ⟨caller, kind, callee, none⟩

/-- The line that the edge is written as. -/
def text (edge : Edge) : String :=
  let link := "M:" ++ edge.caller.text ++ " (" ++ edge.kind.tag ++ ")" ++ edge.callee.text
  match edge.origin with
  | none => link
  | some origin => link ++ " " ++ toString origin.line ++ " " ++ toString origin.archive

end Edge

end CallGraph
