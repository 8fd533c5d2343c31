import CallGraph.Bytes
import CallGraph.ClassFile.Text
import CallGraph.ClassName

/-!
# The constant pool

Constants refer to one another by index. Reading the pool checks no index; following one reports
an entry that is missing or of another kind. A long or double constant takes two slots, of which
the second one is unused, as is slot 0.

* `Pool.read` reads a pool.
* `Pool.className`, `Pool.methodRef` and `Pool.dynamicCall` follow indexes.
-/

namespace CallGraph

/-- One slot of a constant pool. -/
inductive Constant
  | unused
  | utf8 (text : String)
  | integer (bits : UInt32)
  | float (bits : UInt32)
  | long (high low : UInt32)
  | double (high low : UInt32)
  | classRef (name : UInt16)
  | string (text : UInt16)
  | fieldRef (owner nameAndType : UInt16)
  | methodRef (owner nameAndType : UInt16)
  | interfaceMethodRef (owner nameAndType : UInt16)
  | nameAndType (name descriptor : UInt16)
  | methodHandle (kind : UInt8) (reference : UInt16)
  | methodType (descriptor : UInt16)
  | dynamic (bootstrap nameAndType : UInt16)
  | invokeDynamic (bootstrap nameAndType : UInt16)
  | moduleRef (name : UInt16)
  | packageRef (name : UInt16)
deriving DecidableEq, Repr

namespace Constant

/-- Takes two slots. -/
def isWide : Constant → Bool
  | long _ _ => true
  | double _ _ => true
  | _ => false

/-- A constant of two indexes. -/
def readPair (f : UInt16 → UInt16 → Constant) : Reader Constant := do
  let a ← Reader.u2
  let b ← Reader.u2
  return f a b

/-- The constant behind the tag. -/
def readTagged (tag : UInt8) : Reader Constant :=
  match tag.toNat with
  | 1 => do
    let n ← Reader.u2
    let bs ← Reader.take n.toNat
    return utf8 (ClassFile.Text.decode bs)
  | 3 => return integer (← Reader.u4)
  | 4 => return float (← Reader.u4)
  | 5 => do
    let high ← Reader.u4
    let low ← Reader.u4
    return long high low
  | 6 => do
    let high ← Reader.u4
    let low ← Reader.u4
    return double high low
  | 7 => return classRef (← Reader.u2)
  | 8 => return string (← Reader.u2)
  | 9 => readPair fieldRef
  | 10 => readPair methodRef
  | 11 => readPair interfaceMethodRef
  | 12 => readPair nameAndType
  | 15 => do
    let kind ← Reader.u1
    let reference ← Reader.u2
    return methodHandle kind reference
  | 16 => return methodType (← Reader.u2)
  | 17 => readPair dynamic
  | 18 => readPair invokeDynamic
  | 19 => return moduleRef (← Reader.u2)
  | 20 => return packageRef (← Reader.u2)
  | _ => Reader.fail

/-- A tag and its constant. -/
def read : Reader Constant := do
  let tag ← Reader.u1
  readTagged tag

/-- The constants of `n` slots. A wide constant in the last slot has no unused slot after it. -/
def readSlots : Nat → Reader (List Constant)
  | 0 => return []
  | 1 => return [← read]
  | n + 2 => do
    let c ← read
    if c.isWide then return c :: unused :: (← readSlots n)
    else return c :: (← readSlots (n + 1))

end Constant

/-- A constant pool, by slot. -/
structure Pool where
  slots : Array Constant
deriving DecidableEq, Repr

/-- The kind of entry that an index is followed to. -/
inductive EntryKind
  | classRef
  | utf8
  | methodRef
  | nameAndType
  | invokeDynamic
deriving DecidableEq, Repr

/-- The kind of entry in messages. -/
def EntryKind.label : EntryKind → String
  | classRef => "class"
  | utf8 => "utf8"
  | methodRef => "method ref"
  | nameAndType => "name and type"
  | invokeDynamic => "invokedynamic"

/-- Why an index leads nowhere. -/
inductive LookupError
  | missing (kind : EntryKind)
  | unexpected (kind : EntryKind)
  | className (cause : ClassName.Error)
  | descriptor (cause : DescriptorError)
  | owner (cause : LookupError)
  | methodName (cause : LookupError)
  | methodDescriptor (cause : LookupError)
deriving DecidableEq, Repr

/-- The wording of the cause. -/
def LookupError.explanation : LookupError → Explanation
  | missing kind => .of ("missing " ++ kind.label ++ " entry")
  | unexpected kind => .of ("unexpected " ++ kind.label ++ " entry")
  | className cause => cause.explanation
  | descriptor cause => cause.explanation
  | owner cause => cause.explanation.within "resolve owner"
  | methodName cause => cause.explanation.within "resolve method name"
  | methodDescriptor cause => cause.explanation.within "resolve method descriptor"

/-- A method named by class, name and descriptor. -/
structure MethodRef where
  owner : String
  name : String
  descriptor : String
deriving DecidableEq, Repr

/-- A call site that is linked at run time: what its bootstrap method returns and takes. -/
structure DynamicCall where
  owner : String
  name : String
  arguments : List String
  bootstrap : UInt16
deriving DecidableEq, Repr

namespace Pool

/-- Reads the slot count and the slots. -/
def read : Reader Pool := do
  let count ← Reader.u2
  let slots ← Constant.readSlots (count.toNat - 1)
  return ⟨(Constant.unused :: slots).toArray⟩

/-- The entry at an index. -/
def get? (pool : Pool) (index : UInt16) : Option Constant := pool.slots[index.toNat]?

/-- The text at an index. -/
def utf8 (pool : Pool) (index : UInt16) : Except LookupError String :=
  match pool.get? index with
  | none => .error (.missing .utf8)
  | some (.utf8 text) => .ok text
  | some _ => .error (.unexpected .utf8)

/-- The dotted name of the class at an index. -/
def className (pool : Pool) (index : UInt16) : Except LookupError String :=
  match pool.get? index with
  | none => .error (.missing .classRef)
  | some (.classRef name) => do
    let text ← pool.utf8 name
    (ClassName.ofConstant text).mapError .className
  | some _ => .error (.unexpected .classRef)

/-- The name and the descriptor at an index. -/
def nameAndType (pool : Pool) (index : UInt16) : Except LookupError (String × String) :=
  match pool.get? index with
  | none => .error (.missing .nameAndType)
  | some (.nameAndType name descriptor) => do
    let name ← (pool.utf8 name).mapError .methodName
    let descriptor ← (pool.utf8 descriptor).mapError .methodDescriptor
    return (name, descriptor)
  | some _ => .error (.unexpected .nameAndType)

/-- The method of a class and a name with type. -/
def member (pool : Pool) (owner nameAndType : UInt16) : Except LookupError MethodRef := do
  let owner ← (pool.className owner).mapError .owner
  let (name, descriptor) ← pool.nameAndType nameAndType
  return ⟨owner, name, descriptor⟩

/-- The method of a class or of an interface at an index. -/
def methodRef (pool : Pool) (index : UInt16) : Except LookupError MethodRef :=
  match pool.get? index with
  | none => .error (.missing .methodRef)
  | some (.methodRef owner nameAndType) => pool.member owner nameAndType
  | some (.interfaceMethodRef owner nameAndType) => pool.member owner nameAndType
  | some _ => .error (.unexpected .methodRef)

/-- The dynamic call site at an index. Its owner is the type it returns. -/
def dynamicCall (pool : Pool) (index : UInt16) : Except LookupError DynamicCall :=
  match pool.get? index with
  | none => .error (.missing .invokeDynamic)
  | some (.invokeDynamic bootstrap nameAndType) => do
    let (name, descriptor) ← pool.nameAndType nameAndType
    let owner ← (MethodDescriptor.resultName descriptor).mapError .descriptor
    let arguments ← (MethodDescriptor.argumentNames descriptor).mapError .descriptor
    return ⟨owner, name, arguments, bootstrap⟩
  | some _ => .error (.unexpected .invokeDynamic)

end Pool

end CallGraph
