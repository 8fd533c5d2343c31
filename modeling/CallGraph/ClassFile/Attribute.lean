import CallGraph.ClassFile.Constant
import CallGraph.LineTable

/-!
# Attributes

An attribute is read by the layout that its name prescribes; the length written before it matters
only where a layout mentions it. An attribute of an unknown name cannot be read. What later stages
use is kept: code, line numbers, annotation types and the bootstrap table.

Attributes nest in code and in record components, and annotation values nest in one another. The
readers take a bound on that depth; the number of bytes is always enough, since each level takes
some.
-/

namespace CallGraph

/-- A bootstrap method and its static arguments, as indexes into the constant pool. -/
structure BootstrapEntry where
  method : UInt16
  arguments : List UInt16
deriving DecidableEq, Repr

/-- The attributes that later stages use; of all others only the name is kept. -/
inductive Attribute
  | code (code : List UInt8) (attributes : List Attribute)
  | lineNumbers (entries : List LineEntry)
  /-- Annotations that are kept in the class file, by the index of their type. -/
  | annotations (types : List UInt16)
  | bootstrapMethods (entries : List BootstrapEntry)
  | other (name : String)
deriving Repr

namespace Attribute

open Reader

/-! ## Annotations -/

/-- An annotation, by the index of its type; `value` passes over an element value. -/
def readAnnotationType (value : Reader Unit) : Reader UInt16 := do
  let type ← u2
  let _ ← counted (do skip 2; value)
  return type

/-- Passes over an element value. -/
def skipElementValue : (depth : Nat) → Reader Unit
  | 0 => fail
  | depth + 1 => do
    let tag ← u1
    match Char.ofNat tag.toNat with
    | 'B' | 'C' | 'D' | 'F' | 'I' | 'J' | 'S' | 'Z' | 's' | 'c' => skip 2
    | 'e' => skip 4
    | '@' => do
      let _ ← readAnnotationType (skipElementValue depth)
    | '[' => do
      let _ ← counted (skipElementValue depth)
    | _ => fail

/-- A table of annotations, by the indexes of their types. -/
def readAnnotations (depth : Nat) : Reader (List UInt16) :=
  counted (readAnnotationType (skipElementValue depth))

/-- Passes over the annotations of each parameter. -/
def skipParameterAnnotations (depth : Nat) : Reader Unit := do
  let n ← u1
  let _ ← times n.toNat (readAnnotations depth)

/-- Passes over what a type annotation applies to. -/
def skipTarget : Reader Unit := do
  let kind ← u1
  let kind := kind.toNat
  if kind = 0x00 ∨ kind = 0x01 ∨ kind = 0x16 then skip 1
  else if kind = 0x11 ∨ kind = 0x12 ∨ kind = 0x10 ∨ kind = 0x17 then skip 2
  else if 0x13 ≤ kind ∧ kind ≤ 0x15 then skip 0
  else if kind = 0x40 ∨ kind = 0x41 then skipRows 6
  else if 0x42 ≤ kind ∧ kind ≤ 0x46 then skip 2
  else if 0x47 ≤ kind ∧ kind ≤ 0x4B then skip 3
  else fail

/-- Passes over an annotation of a type. -/
def skipAnnotatedType (depth : Nat) : Reader Unit := do
  skipTarget
  let path ← u1
  skip (path.toNat * 2)
  let _ ← readAnnotationType (skipElementValue depth)

/-! ## Stack maps -/

/-- Passes over the type of a local variable or a stack entry. -/
def skipVerificationType : Reader Unit := do
  let tag ← u1
  if tag ≤ 6 then skip 0
  else if tag ≤ 8 then skip 2
  else fail

/-- Passes over a stack map frame. -/
def skipFrame : Reader Unit := do
  let kind ← u1
  let kind := kind.toNat
  if kind ≤ 63 then skip 0
  else if kind ≤ 127 then skipVerificationType
  else if kind = 247 then do
    skip 2
    skipVerificationType
  else if 248 ≤ kind ∧ kind ≤ 251 then skip 2
  else if 252 ≤ kind ∧ kind ≤ 254 then do
    skip 2
    let _ ← times (kind - 251) skipVerificationType
  else if kind = 255 then do
    skip 2
    let _ ← counted skipVerificationType
    let _ ← counted skipVerificationType
  else fail

/-! ## Tables -/

/-- An entry of a line number table. -/
def readLineEntry : Reader LineEntry := do
  let start ← u2
  let line ← u2
  return ⟨start.toNat, line.toNat⟩

/-- An entry of the bootstrap table. -/
def readBootstrapEntry : Reader BootstrapEntry := do
  let method ← u2
  let arguments ← counted u2
  return ⟨method, arguments⟩

/-- The code of a method; `nested` reads an attribute of the code. -/
def readCode (nested : Reader Attribute) : Reader Attribute := do
  skip 4
  let length ← u4
  let bytes ← take length.toNat
  skipRows 8
  let attributes ← counted nested
  return code bytes attributes

/-- Passes over a record component; `nested` reads an attribute of it. -/
def skipComponent (nested : Reader Attribute) : Reader Unit := do
  skip 4
  let _ ← counted nested

/-! ## All attributes -/

/-- Reads the attribute called `name`, of which `length` bytes are announced; `nested` reads an
attribute inside it, and annotation values nest at most `depth` deep. -/
def readNamed (nested : Reader Attribute) (depth : Nat) (name : String) (length : Nat) :
    Reader Attribute :=
  match name with
  | "Code" => readCode nested
  | "LineNumberTable" => return lineNumbers (← counted readLineEntry)
  | "BootstrapMethods" => return bootstrapMethods (← counted readBootstrapEntry)
  | "RuntimeVisibleAnnotations" => do
    atLeast length
    return annotations (← readAnnotations depth)
  | "RuntimeInvisibleAnnotations" => return annotations (← readAnnotations depth)
  | _ => do
    skipNamed
    return other name
where
  /-- Passes over the attributes of which nothing is kept. -/
  skipNamed : Reader Unit :=
    match name with
    | "Synthetic" | "Deprecated" => skip 0
    | "ConstantValue" | "SourceFile" | "Signature" | "NestHost" => skip 2
    | "EnclosingMethod" => skip 4
    | "Exceptions" | "NestMembers" | "PermittedSubclasses" => skipRows 2
    | "InnerClasses" => skipRows 8
    | "LocalVariableTable" | "LocalVariableTypeTable" => skipRows 10
    | "MethodParameters" => do
      let n ← u1
      skip (n.toNat * 4)
    | "StackMapTable" => do
      let _ ← counted skipFrame
    | "RuntimeVisibleParameterAnnotations" | "RuntimeInvisibleParameterAnnotations" =>
      skipParameterAnnotations depth
    | "RuntimeVisibleTypeAnnotations" | "RuntimeInvisibleTypeAnnotations" => do
      let _ ← counted (skipAnnotatedType depth)
    | "AnnotationDefault" => do
      atLeast length
      skipElementValue depth
    | "Record" => do
      let _ ← counted (skipComponent nested)
    | "SourceDebugExtension" => skip length
    | _ => fail

/-- Reads an attribute; the name must be a text of the pool. -/
def read (pool : Pool) : (depth : Nat) → Reader Attribute
  | 0 => fail
  | depth + 1 => do
    let name ← u2
    let length ← u4
    match pool.get? name with
    | some (.utf8 name) => readNamed (read pool depth) depth name length.toNat
    | _ => fail

end Attribute

end CallGraph
