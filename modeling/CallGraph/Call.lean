import CallGraph.Edge
import Std.Data.ExtTreeSet

/-!
# The calls of a method

The calls that the code of a method makes, in order: every call site and, behind a call of a
combinator of `Optional` that is handed a method reference, the call of the referenced method. They
depend on the class alone. So do the lambda bodies that a method makes use of.
-/

namespace CallGraph

/-- A call from the code of a method. -/
structure Call where
  kind : EdgeKind
  owner : String
  name : String
  arguments : List String
  offset : Nat
deriving DecidableEq, Repr

namespace Call

/-- The called method. -/
def callee (call : Call) : MethodKey := .of call.owner call.name call.arguments

/-- The call that a call site makes. -/
def ofSite (site : CallSite) : Call where
  kind := .ofCallKind site.kind
  owner := site.owner
  name := site.name
  arguments := site.arguments
  offset := site.offset

/-- The call of the method behind a handle, made at an offset. Unknown arguments count as none. -/
def ofHandle (handle : MethodHandle) (offset : Nat) : Call where
  kind := .virtual
  owner := handle.owner
  name := handle.name
  arguments := handle.arguments.getD []
  offset := offset

end Call

/-! ## Method references -/

/-- The class whose combinators are followed. -/
def combinatorOwner : String := "java.util.Optional"

/-- The combinators that call the function handed to them. -/
def combinatorNames : List String := ["map", "flatMap", "filter", "ifPresent", "orElseGet"]

/-- A call site of a combinator. -/
def CallSite.isCombinator (site : CallSite) : Bool :=
  decide (site.kind = .virtual ∧ site.owner = combinatorOwner ∧ site.name ∈ combinatorNames)

namespace Class

/-- A combinator call and the dynamic call right before it, which makes the function object. -/
def combinatorPair? (previous : Option Instruction) (current : Instruction) :
    Option (CallSite × CallSite) := do
  let site ← current.call?
  let maker ← previous.bind Instruction.call?
  if site.isCombinator ∧ maker.kind = .dynamic then some (site, maker) else none

/-- The method behind the function object that a dynamic call makes. -/
def madeFrom? (c : Class) (maker : CallSite) : Option MethodHandle :=
  maker.bootstrap.bind c.implementation?

/-- The method reference that an instruction hands to a combinator. -/
def reference? (c : Class) (previous : Option Instruction) (current : Instruction) :
    Option MethodHandle := do
  let (_, maker) ← combinatorPair? previous current
  c.madeFrom? maker

/-- The method reference handed to the combinator call at an index of the code. -/
def referenceAt? (c : Class) (instructions : List Instruction) (index : Nat) :
    Option MethodHandle := do
  let current ← instructions[index]?
  c.reference? (if index = 0 then none else instructions[index - 1]?) current

/-- A note on a combinator call whose function object leads to no method. -/
def referenceNote? (c : Class) (previous : Option Instruction) (current : Instruction) :
    Option String := do
  let (site, maker) ← combinatorPair? previous current
  match c.madeFrom? maker with
  | some _ => none
  | none =>
    some ("unresolved method reference: class=" ++ c.name ++ " call=" ++ site.owner ++ "." ++
      site.name ++ " offset=" ++ toString site.offset)

/-! ## Calls -/

/-- The calls of one instruction. -/
def callsAt (c : Class) (previous : Option Instruction) (current : Instruction) : List Call :=
  match current.call? with
  | none => []
  | some site =>
    .ofSite site :: ((c.reference? previous current).map (Call.ofHandle · site.offset)).toList

/-- Every instruction with the one before it. -/
def withPrevious (instructions : List Instruction) : List (Option Instruction × Instruction) :=
  (none :: instructions.map some).zip instructions

/-- The calls of a method; a method without code makes none. -/
def calls (c : Class) (m : Method) : List Call :=
  if m.hasBody then
    (withPrevious m.instructions).flatMap fun (previous, current) => c.callsAt previous current
  else []

/-- Notes on the method references of a class that lead to no method. -/
def referenceNotes (c : Class) : List String :=
  (c.methods.filter Method.hasBody).flatMap fun m =>
    (withPrevious m.instructions).filterMap fun (previous, current) =>
      c.referenceNote? previous current

/-! ## Lambdas -/

/-- What the names of lambda bodies begin with. -/
def lambdaStem : String := "lambda$"

/-- The name of the lambda body of the class itself that an instruction makes use of. -/
def lambdaName? (c : Class) (instruction : Instruction) : Option String := do
  let site ← instruction.call?
  if site.kind = .dynamic then
    let handle ← c.madeFrom? site
    if handle.owner = c.name ∧ lambdaStem.toList.isPrefixOf handle.name.toList then some handle.name
    else none
  else none

/-- The names of the lambda bodies that a method makes use of, in ascending order. -/
def lambdaNames (c : Class) (m : Method) : List String :=
  if m.hasBody then
    (Std.ExtTreeSet.ofList (m.instructions.filterMap c.lambdaName?) compare).toList
  else []

/-- The first generated method with a name. -/
def syntheticMethod? (c : Class) (name : String) : Option Method :=
  c.methods.find? fun m => decide (m.name = name) && m.flags.isSynthetic

/-- The key of a method of the class. -/
def key (c : Class) (m : Method) : MethodKey := .of c.name m.name m.arguments

/-- The edges from a method to the lambda bodies it makes use of. -/
def lambdaEdges (c : Class) (m : Method) : List Edge :=
  (c.lambdaNames m).filterMap fun name =>
    (c.syntheticMethod? name).map fun body => .inferred (c.key m) .lambda (c.key body)

end Class

end CallGraph
