import CallGraph.ClassFile.Attribute

/-!
# Class files

The outer layout of a class file: magic number, versions, constant pool, flags, names, interfaces,
fields, methods and attributes, and nothing after them.
-/

namespace CallGraph

/-- A method as the class file holds it. -/
structure MethodInfo where
  flags : UInt16
  name : UInt16
  descriptor : UInt16
  attributes : List Attribute
deriving Repr

/-- The parts of a class file that later stages use. -/
structure ClassFile where
  pool : Pool
  flags : UInt16
  thisClass : UInt16
  superClass : UInt16
  interfaces : List UInt16
  methods : List MethodInfo
  attributes : List Attribute
deriving Repr

namespace ClassFile

open Reader

/-- The number every class file begins with. -/
def magic : UInt32 := 0xCAFEBABE

/-- A field or a method. -/
def readMember (pool : Pool) (depth : Nat) : Reader MethodInfo := do
  let flags ← u2
  let name ← u2
  let descriptor ← u2
  let attributes ← counted (Attribute.read pool depth)
  return ⟨flags, name, descriptor, attributes⟩

/-- Reads a class file whose attributes nest at most `depth` deep. -/
def reader (depth : Nat) : Reader ClassFile := do
  let number ← u4
  if number ≠ magic then fail
  else do
    skip 4
    let pool ← Pool.read
    let flags ← u2
    let thisClass ← u2
    let superClass ← u2
    let interfaces ← counted u2
    let _ ← counted (readMember pool depth)
    let methods ← counted (readMember pool depth)
    let attributes ← counted (Attribute.read pool depth)
    return ⟨pool, flags, thisClass, superClass, interfaces, methods, attributes⟩

/-- The class file that the bytes are, all of them. -/
def ofBytes? (bs : List UInt8) : Option ClassFile :=
  match (reader bs.length).run bs with
  | some (file, []) => some file
  | _ => none

end ClassFile

end CallGraph
