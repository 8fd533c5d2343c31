import CallGraph.Bytecode
import CallGraph.ClassFile
import Std.Data.ExtTreeSet

/-!
# Classes from class files

Turns the tables of a class file into a class. The parts are resolved in a fixed order, and the
first one that fails names the failure: the names, the referenced classes, then the methods one
after the other. A bootstrap argument that cannot be resolved is no failure; it is recorded as
such, and `handleNotes` tells what is wrong with it.
-/

namespace CallGraph

/-- Why a method cannot be decoded. -/
inductive MethodError
  | name (cause : LookupError)
  | descriptor (cause : LookupError)
  | arguments (method type : String) (cause : DescriptorError)
  | annotationType (method : String) (cause : LookupError)
  | code (method type : String) (cause : Bytecode.CodeError)
deriving DecidableEq, Repr

/-- The wording of the cause. -/
def MethodError.explanation : MethodError → Explanation
  | name cause => cause.explanation.within "resolve method name"
  | descriptor cause => cause.explanation.within "resolve method descriptor"
  | arguments method type cause =>
    cause.explanation.within ("parse arguments of " ++ method ++ type)
  | annotationType method cause =>
    (cause.explanation.within "resolve annotation type").within ("parse annotations of " ++ method)
  | code method type cause =>
    cause.explanation.within ("parse bytecode of " ++ method ++ type)

/-- Why bytes are no class. -/
inductive ClassError
  | malformed
  | className (cause : LookupError)
  | superName (cause : LookupError)
  | interfaceName (cause : LookupError)
  | reference (cause : LookupError)
  | referenceName (cause : ClassName.Error)
  | method (cause : MethodError)
deriving DecidableEq, Repr

/-- The wording of the cause. -/
def ClassError.explanation : ClassError → Explanation
  | malformed => (Explanation.ofSource .classFile).within "failed to parse class file bytes"
  | className cause => cause.explanation.within "resolve class name"
  | superName cause => cause.explanation.within "resolve super class name"
  | interfaceName cause => cause.explanation.within "resolve interface name"
  | reference cause => cause.explanation.within "resolve referenced class name"
  | referenceName cause => cause.explanation
  | method cause => cause.explanation.within "parse method bytecode"

/-! ## Attributes of a method -/

namespace Attribute

/-- The code and the attributes of the code of a method: those of the first code attribute. -/
def code? (attributes : List Attribute) : Option (List UInt8 × List Attribute) :=
  attributes.findSome? fun
    | code bytes nested => some (bytes, nested)
    | _ => none

/-- The entries of all line number tables, one table after the other. -/
def lineEntries (attributes : List Attribute) : List LineEntry :=
  attributes.flatMap fun
    | lineNumbers entries => entries
    | _ => []

/-- The indexes of all annotation types, in order. -/
def annotationTypes (attributes : List Attribute) : List UInt16 :=
  attributes.flatMap fun
    | annotations types => types
    | _ => []

/-- The first bootstrap table. -/
def bootstrapEntries (attributes : List Attribute) : List BootstrapEntry :=
  (attributes.findSome? fun
    | bootstrapMethods entries => some entries
    | _ => none).getD []

end Attribute

/-! ## Methods -/

/-- The flags and `bit` have a bit in common. -/
def hasFlag (flags bit : UInt16) : Bool := flags &&& bit != 0

/-- The flags of a method. -/
def MethodFlags.ofBits (flags : UInt16) : MethodFlags where
  isPublic := hasFlag flags 0x0001
  isProtected := hasFlag flags 0x0004
  isStatic := hasFlag flags 0x0008
  isNative := hasFlag flags 0x0100
  isAbstract := hasFlag flags 0x0400
  isSynthetic := hasFlag flags 0x1000

namespace MethodInfo

/-- The line table and the instructions of a method; a method without code has neither. -/
def body (pool : Pool) (attributes : List Attribute) :
    Except Bytecode.CodeError (List LineEntry × List Instruction) :=
  match Attribute.code? attributes with
  | none => .ok ([], [])
  | some (bytes, nested) => do
    let instructions ← Bytecode.instructions pool bytes
    return (LineTable.ofEntries (Attribute.lineEntries nested), instructions)

/-- The dotted name of the annotation type at an index. -/
def annotationName (pool : Pool) (index : UInt16) : Except LookupError String :=
  (pool.utf8 index).map ClassName.ofTypeDescriptor

/-- Resolves a method. -/
def decode (pool : Pool) (info : MethodInfo) : Except MethodError Method := do
  let name ← (pool.utf8 info.name).mapError .name
  let descriptor ← (pool.utf8 info.descriptor).mapError .descriptor
  let arguments ← (MethodDescriptor.argumentNames descriptor).mapError (.arguments name descriptor)
  let annotations ←
    ((Attribute.annotationTypes info.attributes).mapM (annotationName pool)).mapError
      (.annotationType name)
  let (lines, instructions) ← (body pool info.attributes).mapError (.code name descriptor)
  return { name, arguments, flags := .ofBits info.flags, annotations, lines, instructions }

end MethodInfo

/-! ## Bootstrap table -/

namespace Pool

/-- The bootstrap argument at an index. -/
def bootstrapArgument (pool : Pool) (index : UInt16) : BootstrapArgument :=
  match pool.get? index with
  | none => .unresolved
  | some (.methodHandle _ reference) =>
    match pool.methodRef reference with
    | .error _ => .unresolved
    | .ok method =>
      let arguments := MethodDescriptor.argumentNames method.descriptor
      .handle ⟨method.owner, method.name, arguments.toOption⟩
  | some _ => .other

/-- What is wrong with the method handle at an index, if it is one that cannot be resolved. -/
def handleNote? (pool : Pool) (index : UInt16) : Option String :=
  match pool.get? index with
  | some (.methodHandle _ reference) =>
    match pool.methodRef reference with
    | .error e =>
      some ("unresolved method handle at constant " ++ toString index.toNat ++ ": " ++
        e.explanation.oneLine)
    | .ok _ => none
  | _ => none

end Pool

/-! ## Classes -/

/-- What a class file says about a class apart from its methods. -/
structure ClassHeader where
  name : String
  superName : Option String
  interfaces : List String
  isInterface : Bool
  isAbstract : Bool
  references : List String
deriving DecidableEq, Repr

namespace ClassFile

/-- The name of the superclass; index 0 stands for none. -/
def superName (file : ClassFile) : Except LookupError (Option String) :=
  if file.superClass = 0 then .ok none
  else (file.pool.className file.superClass).map some

/-- The class named by a class constant, taken for its elements if it is an array. -/
def referenceName (pool : Pool) (name : UInt16) : Except ClassError (Option String) := do
  let text ← (pool.utf8 name).mapError .reference
  match ClassName.elementConstant? text with
  | none => return none
  | some element => return some (← (ClassName.ofConstant element).mapError .referenceName)

/-- The indexes of the texts of all class constants, in order. -/
def classConstants (pool : Pool) : List UInt16 :=
  pool.slots.toList.filterMap fun
    | .classRef name => some name
    | _ => none

/-- The classes mentioned besides `own`, in ascending order. -/
def references (pool : Pool) (own : String) : Except ClassError (List String) := do
  let names ← (classConstants pool).mapM (referenceName pool)
  return ((Std.ExtTreeSet.ofList (names.filterMap id) compare).erase own).toList

/-- Resolves all but the methods. -/
def header (file : ClassFile) : Except ClassError ClassHeader := do
  let name ← (file.pool.className file.thisClass).mapError .className
  let superName ← file.superName.mapError .superName
  let interfaces ← (file.interfaces.mapM file.pool.className).mapError .interfaceName
  let references ← references file.pool name
  return { name, superName, interfaces, isInterface := hasFlag file.flags 0x0200,
           isAbstract := hasFlag file.flags 0x0400, references }

/-- The static arguments of each bootstrap method. -/
def bootstrap (file : ClassFile) : List (List BootstrapArgument) :=
  (Attribute.bootstrapEntries file.attributes).map fun entry =>
    entry.arguments.map file.pool.bootstrapArgument

/-- Resolves a class file. -/
def decode (file : ClassFile) : Except ClassError Class := do
  let header ← file.header
  let methods ← (file.methods.mapM (MethodInfo.decode file.pool)).mapError .method
  return { name := header.name, superName := header.superName, interfaces := header.interfaces,
           isInterface := header.isInterface, isAbstract := header.isAbstract,
           references := header.references, methods, bootstrap := file.bootstrap }

/-- Notes on the method handles that cannot be resolved. They are looked at only once the header
is known. -/
def handleNotes (file : ClassFile) : List String :=
  match file.header with
  | .error _ => []
  | .ok _ =>
    (Attribute.bootstrapEntries file.attributes).flatMap fun entry =>
      entry.arguments.filterMap file.pool.handleNote?

end ClassFile

namespace Class

/-- The class that the bytes of a class file describe, and notes on the method handles in it that
cannot be resolved. -/
def decodeBytes (bs : List UInt8) : List String × Except ClassError Class :=
  match ClassFile.ofBytes? bs with
  | none => ([], .error .malformed)
  | some file => (file.handleNotes, file.decode)

/-- The class that the bytes of a class file describe. -/
def ofBytes (bs : List UInt8) : Except ClassError Class := (decodeBytes bs).2

end Class

end CallGraph
