import CallGraph.LineTable

/-!
# Classes

A class as the call graph sees it: names in source form, the flags that matter, and the
instructions of each method, of which only the call sites are told apart.
-/

namespace CallGraph

/-- How a call site chooses the method it runs. -/
inductive CallKind
  | virtual
  | interface
  | special
  | static
  | dynamic
deriving DecidableEq, Repr

/-- A call in the code of a method. -/
structure CallSite where
  owner : String
  name : String
  arguments : List String
  kind : CallKind
  offset : Nat
  /-- The entry of the bootstrap table that links a dynamic call. -/
  bootstrap : Option Nat
deriving DecidableEq, Repr

/-- What an instruction does. -/
inductive Operation
  | invoke (call : CallSite)
  | other (opcode : UInt8)
deriving DecidableEq, Repr

/-- An instruction at its offset. -/
structure Instruction where
  offset : Nat
  operation : Operation
deriving DecidableEq, Repr

/-- The call site of a call instruction. -/
def Instruction.call? (instruction : Instruction) : Option CallSite :=
  match instruction.operation with
  | .invoke call => some call
  | .other _ => none

/-- The flags of a method that matter. -/
structure MethodFlags where
  isPublic : Bool := false
  isProtected : Bool := false
  isStatic : Bool := false
  isAbstract : Bool := false
  isNative : Bool := false
  isSynthetic : Bool := false
deriving DecidableEq, Repr

/-- The text `name(argument,argument)`, by which methods are told apart within a class. -/
def signature (name : String) (arguments : List String) : String :=
  name ++ "(" ++ String.intercalate "," arguments ++ ")"

/-- A method of a class. -/
structure Method where
  name : String
  arguments : List String
  flags : MethodFlags
  annotations : List String
  lines : List LineEntry
  instructions : List Instruction
deriving DecidableEq, Repr

namespace Method

/-- The method has code to look at. -/
def hasBody (m : Method) : Bool := !m.flags.isAbstract && !m.flags.isNative

/-- Constructors and class initializers, whose names begin with `<`. -/
def isInitializer (m : Method) : Bool :=
  match m.name.toList with
  | '<' :: _ => true
  | _ => false

/-- The signature of the method. -/
def signature (m : Method) : String := CallGraph.signature m.name m.arguments

/-- The source line of an offset of the code. -/
def lineAt? (m : Method) (offset : Nat) : Option Nat := LineTable.lineAt? m.lines offset

end Method

/-- A method that a bootstrap table refers to; the arguments are unknown if its descriptor could
not be read. -/
structure MethodHandle where
  owner : String
  name : String
  arguments : Option (List String)
deriving DecidableEq, Repr

/-- A static argument of a bootstrap method. -/
inductive BootstrapArgument
  | handle (handle : MethodHandle)
  | other
  | unresolved
deriving DecidableEq, Repr

/-- A class or an interface. -/
structure Class where
  name : String
  superName : Option String
  interfaces : List String
  isInterface : Bool
  isAbstract : Bool
  /-- The other classes that the class mentions, in ascending order. -/
  references : List String
  methods : List Method
  /-- The static arguments of each bootstrap method. -/
  bootstrap : List (List BootstrapArgument)
deriving DecidableEq, Repr

namespace Class

/-- Where a bootstrap method finds the method it makes a function object of. -/
def implementationArgument : Nat := 1

/-- The method behind entry `index` of the bootstrap table. -/
def implementation? (c : Class) (index : Nat) : Option MethodHandle := do
  let arguments ← c.bootstrap[index]?
  match ← arguments[implementationArgument]? with
  | .handle handle => some handle
  | .other | .unresolved => none

end Class

end CallGraph
