import CallGraph.Class
import CallGraph.ClassFile.Constant

/-!
# Byte code

The code of a method is a sequence of instructions without gaps. An opcode fixes the form of its
instruction, and the form its length, which for switches depends on the offset: their operands
start at a multiple of four.

* `instructionLength` is the length of an instruction.
* `instructions` cuts code into instructions and resolves its call sites.
-/

namespace CallGraph.Bytecode

/-- The forms of instructions. -/
inductive Form
  | fixed (length : Nat)
  | tableSwitch
  | lookupSwitch
  | wide
deriving DecidableEq, Repr

/-- The forms of ranges of opcodes, both ends included. -/
def forms : List (Nat × Nat × Form) :=
  [(0x00, 0x0F, .fixed 1), (0x10, 0x10, .fixed 2), (0x11, 0x11, .fixed 3), (0x12, 0x12, .fixed 2),
   (0x13, 0x14, .fixed 3), (0x15, 0x19, .fixed 2), (0x1A, 0x35, .fixed 1), (0x36, 0x3A, .fixed 2),
   (0x3B, 0x83, .fixed 1), (0x84, 0x84, .fixed 3), (0x85, 0x98, .fixed 1), (0x99, 0xA8, .fixed 3),
   (0xA9, 0xA9, .fixed 2), (0xAA, 0xAA, .tableSwitch), (0xAB, 0xAB, .lookupSwitch),
   (0xAC, 0xB1, .fixed 1), (0xB2, 0xB8, .fixed 3), (0xB9, 0xBA, .fixed 5), (0xBB, 0xBB, .fixed 3),
   (0xBC, 0xBC, .fixed 2), (0xBD, 0xBD, .fixed 3), (0xBE, 0xBF, .fixed 1), (0xC0, 0xC1, .fixed 3),
   (0xC2, 0xC3, .fixed 1), (0xC4, 0xC4, .wide), (0xC5, 0xC5, .fixed 4), (0xC6, 0xC7, .fixed 3),
   (0xC8, 0xC9, .fixed 5), (0xCA, 0xCA, .fixed 1), (0xFE, 0xFF, .fixed 1)]

/-- The form of the instructions with an opcode. -/
def Form.ofOpcode? (opcode : UInt8) : Option Form :=
  (forms.find? fun (low, high, _) => decide (low ≤ opcode.toNat ∧ opcode.toNat ≤ high)).map (·.2.2)

/-- The opcode that `wide` gives two more operand bytes than others. -/
def incrementOpcode : UInt8 := 0x84

/-- The kind of call that an opcode makes. -/
def callKind? (opcode : UInt8) : Option CallKind :=
  match opcode.toNat with
  | 0xB6 => some .virtual
  | 0xB7 => some .special
  | 0xB8 => some .static
  | 0xB9 => some .interface
  | 0xBA => some .dynamic
  | _ => none

/-- Why an instruction has no length. -/
inductive LengthError
  | unsupportedOpcode (opcode : UInt8)
  | numberOutOfBounds
  | tableSwitchRange
  | lookupSwitchPairs
  | missingWideOpcode
deriving DecidableEq, Repr

/-- Two hexadecimal digits. -/
def hexByte (b : UInt8) : String :=
  String.ofList [Nat.digitChar (b.toNat / 16), Nat.digitChar (b.toNat % 16)]

/-- The wording of the cause. -/
def LengthError.message : LengthError → String
  | unsupportedOpcode opcode => "unsupported opcode 0x" ++ hexByte opcode
  | numberOutOfBounds => "bytecode i32 out of bounds"
  | tableSwitchRange => "invalid tableswitch range"
  | lookupSwitchPairs => "invalid lookupswitch pairs"
  | missingWideOpcode => "missing wide opcode"

/-- The number of bytes between a switch opcode at an offset and its operands. -/
def padding (offset : Nat) : Nat := (4 - (offset + 1) % 4) % 4

/-- The signed number in the first four bytes. -/
def signed? : List UInt8 → Except LengthError Int
  | a :: b :: c :: d :: _ =>
    let n := (Reader.doubleWord a b c d).toNat
    .ok (if n < 0x80000000 then n else (n : Int) - 0x100000000)
  | _ => .error .numberOutOfBounds

/-- The length of the instruction at `offset`, given the bytes behind its opcode. -/
def instructionLength (offset : Nat) (opcode : UInt8) (operands : List UInt8) :
    Except LengthError Nat :=
  match Form.ofOpcode? opcode with
  | none => .error (.unsupportedOpcode opcode)
  | some (.fixed length) => .ok length
  | some .tableSwitch => do
    let operands := operands.drop (padding offset)
    let low ← signed? (operands.drop 4)
    let high ← signed? (operands.drop 8)
    let count := high - low + 1
    if 0 ≤ count ∧ count < 0x80000000 then
      return 1 + padding offset + 12 + 4 * count.toNat
    else .error .tableSwitchRange
  | some .lookupSwitch => do
    let operands := operands.drop (padding offset)
    let pairs ← signed? (operands.drop 4)
    if 0 ≤ pairs then return 1 + padding offset + 8 + 8 * pairs.toNat
    else .error .lookupSwitchPairs
  | some .wide =>
    match operands with
    | [] => .error .missingWideOpcode
    | widened :: _ => .ok (if widened = incrementOpcode then 6 else 4)

/-- Why code is no sequence of instructions. -/
inductive CodeError
  | length (cause : LengthError)
  /-- The instruction at the offset does not end within the code. -/
  | overrun (offset : Nat)
  | operandOutOfBounds
  | methodRef (cause : LookupError)
  | arguments (cause : DescriptorError)
  | dynamicCall (cause : LookupError)
deriving DecidableEq, Repr

/-- The wording of the cause. -/
def CodeError.explanation : CodeError → Explanation
  | length cause => .of cause.message
  | overrun offset => .of ("invalid bytecode length at offset " ++ toString offset)
  | operandOutOfBounds => .of "bytecode u16 out of bounds"
  | methodRef cause => cause.explanation.within "resolve method ref"
  | arguments cause => cause.explanation
  | dynamicCall cause => cause.explanation.within "resolve invokedynamic"

/-- The index into the constant pool that the operands begin with. -/
def operandIndex : List UInt8 → Except CodeError UInt16
  | a :: b :: _ => .ok (Reader.word a b)
  | _ => .error .operandOutOfBounds

/-- The call site that index `index` of the pool describes. -/
def callSite (pool : Pool) (offset : Nat) (kind : CallKind) (index : UInt16) :
    Except CodeError CallSite :=
  match kind with
  | .dynamic => do
    let call ← (pool.dynamicCall index).mapError .dynamicCall
    return { owner := call.owner, name := call.name, arguments := call.arguments, kind := .dynamic,
             offset := offset, bootstrap := some call.bootstrap.toNat }
  | kind => do
    let method ← (pool.methodRef index).mapError .methodRef
    let arguments ← (MethodDescriptor.argumentNames method.descriptor).mapError .arguments
    return { owner := method.owner, name := method.name, arguments := arguments, kind := kind,
             offset := offset, bootstrap := none }

/-- What the instruction at `offset` does. -/
def operation (pool : Pool) (offset : Nat) (opcode : UInt8) (operands : List UInt8) :
    Except CodeError Operation :=
  match callKind? opcode with
  | none => .ok (.other opcode)
  | some kind => do
    let index ← operandIndex operands
    return .invoke (← callSite pool offset kind index)

/-- Cuts the code from `offset` on into instructions. -/
def instructionsFrom (pool : Pool) (offset : Nat) :
    List UInt8 → Except CodeError (List Instruction)
  | [] => .ok []
  | opcode :: operands => do
    let length ← (instructionLength offset opcode operands).mapError .length
    if length = 0 ∨ (operands.take (length - 1)).length + 1 ≠ length then
      .error (.overrun offset)
    else do
      let operation ← operation pool offset opcode operands
      let rest ← instructionsFrom pool (offset + length) (operands.drop (length - 1))
      return ⟨offset, operation⟩ :: rest
termination_by code => code.length
decreasing_by
  rw [List.length_drop, List.length_cons]
  omega

/-- Cuts code into instructions. -/
def instructions (pool : Pool) (code : List UInt8) : Except CodeError (List Instruction) :=
  instructionsFrom pool 0 code

end CallGraph.Bytecode
