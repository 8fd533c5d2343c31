import CallGraph.Bytecode
import CallGraph.Proofs.Encoding

/-!
# Assembling byte code

Instructions with their operands, laid out one after the other as the machine has them, and that
cutting the code finds exactly these instructions again, each at its offset.

* `operandCount?` is the number of operand bytes of each opcode that always has as many.
* `Instr.bytes` lays out one instruction, `assemble` a sequence of them.
* `instructionsFrom_assemble`: cutting the code gives the `listing`.
-/

namespace CallGraph.Assembly

/-! ## Instructions -/

/-- The number of bytes behind an opcode that is neither a call, a switch nor `wide`. -/
def operandCount? (opcode : UInt8) : Option Nat :=
  let n := opcode.toNat
  -- Switches, calls and `wide` have operands of their own.
  if n = 0xAA ∨ n = 0xAB ∨ (0xB6 ≤ n ∧ n ≤ 0xBA) ∨ n = 0xC4 then none
  -- A small number, a constant, a local variable or the type of an array.
  else if n = 0x10 ∨ n = 0x12 ∨ (0x15 ≤ n ∧ n ≤ 0x19) ∨ (0x36 ≤ n ∧ n ≤ 0x3A) ∨
    n = 0xA9 ∨ n = 0xBC then some 1
  -- A larger number, a constant, a variable with an increment, a jump, a field or a class.
  else if n = 0x11 ∨ n = 0x13 ∨ n = 0x14 ∨ n = 0x84 ∨ (0x99 ≤ n ∧ n ≤ 0xA8) ∨
    (0xB2 ≤ n ∧ n ≤ 0xB5) ∨ n = 0xBB ∨ n = 0xBD ∨ n = 0xC0 ∨ n = 0xC1 ∨ n = 0xC6 ∨
    n = 0xC7 then some 2
  -- A class and a number of dimensions.
  else if n = 0xC5 then some 3
  -- A far jump.
  else if n = 0xC8 ∨ n = 0xC9 then some 4
  else if n ≤ 0xCA ∨ 0xFE ≤ n then some 0
  else none

/-- The opcode of a call. -/
def callOpcode : CallKind → UInt8
  | .virtual => 0xB6
  | .special => 0xB7
  | .static => 0xB8
  | .interface => 0xB9
  | .dynamic => 0xBA

/-- The number of operand bytes behind the index of a call. -/
def spareCount : CallKind → Nat
  | .virtual | .special | .static => 0
  | .interface | .dynamic => 2

/-- An instruction; `ι` is what calls refer to. -/
inductive Instr (ι : Type)
  | simple (opcode : UInt8) (operands : List UInt8)
  | call (kind : CallKind) (callee : ι) (spare : List UInt8)
  /-- Of `fill` as many bytes are used as it takes to get to a multiple of four. -/
  | tableSwitch (fill : Vector UInt8 3) (default low high : Int32) (targets : List Int32)
  | lookupSwitch (fill : Vector UInt8 3) (default : Int32) (pairs : List (Int32 × Int32))
  | wide (opcode : UInt8) (operands : List UInt8)

/-- The number of bytes from behind a switch opcode to the next multiple of four. -/
def gap (offset : Nat) : Nat := 3 - offset % 4

/-- The four bytes of a signed number. -/
def i4 (n : Int32) : List UInt8 := Encoding.u4 n.toUInt32

namespace Instr

variable {ι : Type}

/-- The operands fit the opcode. -/
def WellFormed : Instr ι → Prop
  | simple opcode operands => operandCount? opcode = some operands.length
  | call kind _ spare => spare.length = spareCount kind
  | tableSwitch _ _ low high targets =>
    low.toInt ≤ high.toInt ∧ (targets.length : Int) = high.toInt - low.toInt + 1 ∧
      targets.length < 0x80000000
  | lookupSwitch _ _ pairs => pairs.length < 0x80000000
  | wide opcode operands => operands.length = if opcode = 0x84 then 4 else 2

instance : (i : Instr ι) → Decidable i.WellFormed
  | simple _ _ => inferInstanceAs (Decidable (_ = _))
  | call _ _ _ => inferInstanceAs (Decidable (_ = _))
  | tableSwitch _ _ _ _ _ => inferInstanceAs (Decidable (_ ∧ _ ∧ _))
  | lookupSwitch _ _ _ => inferInstanceAs (Decidable (_ < _))
  | wide _ _ => inferInstanceAs (Decidable (_ = _))

/-- The opcode. -/
def opcode : Instr ι → UInt8
  | simple opcode _ => opcode
  | call kind _ _ => callOpcode kind
  | tableSwitch _ _ _ _ _ => 0xAA
  | lookupSwitch _ _ _ => 0xAB
  | wide _ _ => 0xC4

/-- The bytes behind the opcode of an instruction at an offset. -/
def operands (index : ι → UInt16) (offset : Nat) : Instr ι → List UInt8
  | simple _ operands => operands
  | call _ callee spare => Encoding.u2 (index callee) ++ spare
  | tableSwitch fill default low high targets =>
    fill.toList.take (gap offset) ++ (i4 default ++ (i4 low ++ (i4 high ++ targets.flatMap i4)))
  | lookupSwitch fill default pairs =>
    fill.toList.take (gap offset) ++ (i4 default ++ (i4 (.ofNat pairs.length) ++
      pairs.flatMap fun pair => i4 pair.1 ++ i4 pair.2))
  | wide opcode operands => opcode :: operands

/-- The bytes of an instruction at an offset. -/
def bytes (index : ι → UInt16) (offset : Nat) (i : Instr ι) : List UInt8 :=
  i.opcode :: i.operands index offset

/-- The number of bytes of an instruction at an offset. -/
def size (offset : Nat) : Instr ι → Nat
  | simple _ operands => 1 + operands.length
  | call _ _ spare => 3 + spare.length
  | tableSwitch _ _ _ _ targets => 1 + gap offset + 12 + 4 * targets.length
  | lookupSwitch _ _ pairs => 1 + gap offset + 8 + 8 * pairs.length
  | wide _ operands => 2 + operands.length

/-- What an instruction at an offset does; `site` is the call site of what a call refers to. -/
def operation (site : CallKind → ι → Nat → CallSite) (offset : Nat) : Instr ι → Operation
  | call kind callee _ => .invoke (site kind callee offset)
  | i => .other i.opcode

end Instr

variable {ι : Type}

/-- The bytes of instructions from an offset on. -/
def assemble (index : ι → UInt16) : Nat → List (Instr ι) → List UInt8
  | _, [] => []
  | offset, i :: program => i.bytes index offset ++ assemble index (offset + i.size offset) program

/-- The instructions from an offset on, each at its offset. -/
def listing (site : CallKind → ι → Nat → CallSite) : Nat → List (Instr ι) → List Instruction
  | _, [] => []
  | offset, i :: program =>
    ⟨offset, i.operation site offset⟩ :: listing site (offset + i.size offset) program

/-! ## Lengths -/

theorem gap_le (offset : Nat) : gap offset ≤ 3 := Nat.sub_le 3 _

theorem padding_eq_gap (offset : Nat) : Bytecode.padding offset = gap offset := by
  unfold Bytecode.padding gap
  omega

@[simp] theorem length_i4 (n : Int32) : (i4 n).length = 4 := rfl

theorem length_take_fill (fill : Vector UInt8 3) (offset : Nat) :
    (fill.toList.take (gap offset)).length = gap offset := by
  rw [List.length_take, Vector.length_toList]
  exact Nat.min_eq_left (gap_le offset)

theorem length_flatMap_of_const {α : Type} {f : α → List UInt8} {n : Nat}
    (h : ∀ a, (f a).length = n) (as : List α) : (as.flatMap f).length = n * as.length := by
  induction as with
  | nil => rfl
  | cons a as ih =>
    rw [List.flatMap_cons, List.length_append, h, ih, List.length_cons, Nat.mul_succ, Nat.add_comm]

theorem Instr.length_operands (index : ι → UInt16) (offset : Nat) (i : Instr ι) :
    (i.operands index offset).length + 1 = i.size offset := by
  cases i with
  | simple opcode operands => exact Nat.add_comm _ _
  | call kind callee spare =>
    simp only [operands, size, List.length_append, Encoding.length_u2]
    omega
  | tableSwitch fill default low high targets =>
    simp only [operands, size, List.length_append, length_take_fill, length_i4,
      length_flatMap_of_const length_i4]
    omega
  | lookupSwitch fill default pairs =>
    have hpair : ∀ pair : Int32 × Int32, (i4 pair.1 ++ i4 pair.2).length = 8 := fun _ => rfl
    simp only [operands, size, List.length_append, length_take_fill, length_i4,
      length_flatMap_of_const hpair]
    omega
  | wide opcode operands =>
    simp only [Instr.operands, size, List.length_cons]
    omega

/-! ## Opcodes -/

theorem ofOpcode?_of_operandCount? {opcode : UInt8} {n : Nat} (h : operandCount? opcode = some n) :
    Bytecode.Form.ofOpcode? opcode = some (.fixed (1 + n)) ∧ Bytecode.callKind? opcode = none := by
  have hall : ∀ b : Fin 256, ∀ n ∈ operandCount? (UInt8.ofFin b),
      Bytecode.Form.ofOpcode? (UInt8.ofFin b) = some (.fixed (1 + n)) ∧
        Bytecode.callKind? (UInt8.ofFin b) = none := by decide +kernel
  exact hall opcode.toFin n h

theorem ofOpcode?_callOpcode (kind : CallKind) :
    Bytecode.Form.ofOpcode? (callOpcode kind) = some (.fixed (3 + spareCount kind)) := by
  cases kind <;> decide

theorem callKind?_callOpcode (kind : CallKind) :
    Bytecode.callKind? (callOpcode kind) = some kind := by
  cases kind <;> rfl

theorem signed?_i4 (n : Int32) (rest : List UInt8) :
    Bytecode.signed? (i4 n ++ rest) = .ok n.toInt := by
  have hbits : (Reader.doubleWord (UInt8.ofNat (n.toUInt32.toNat / 0x1000000))
      (UInt8.ofNat (n.toUInt32.toNat / 0x10000)) (UInt8.ofNat (n.toUInt32.toNat / 0x100))
      (UInt8.ofNat n.toUInt32.toNat)).toNat = n.toUInt32.toNat :=
    congrArg UInt32.toNat (Encoding.doubleWord_u4 n.toUInt32)
  show Except.ok _ = _
  rw [hbits]
  refine congrArg Except.ok ?_
  have hn : n.toInt = if 2 * n.toUInt32.toNat < 0x100000000 then (n.toUInt32.toNat : Int)
      else (n.toUInt32.toNat : Int) - 0x100000000 := BitVec.toInt_eq_toNat_cond n.toBitVec
  rw [hn]
  split <;> split <;> omega

/-! ## Cutting -/

/-- The length of an instruction is found whatever follows it. -/
theorem instructionLength_operands {i : Instr ι} (h : i.WellFormed) (index : ι → UInt16)
    (offset : Nat) (rest : List UInt8) :
    Bytecode.instructionLength offset i.opcode (i.operands index offset ++ rest) =
      .ok (i.size offset) := by
  have hfill (fill : Vector UInt8 3) (tail : List UInt8) :
      (fill.toList.take (gap offset) ++ tail).drop (Bytecode.padding offset) = tail := by
    rw [padding_eq_gap]
    exact List.drop_left' (length_take_fill fill offset)
  have hlow (a b : Int32) (tail : List UInt8) :
      Bytecode.signed? ((i4 a ++ (i4 b ++ tail)).drop 4) = .ok b.toInt := by
    rw [List.drop_left' (length_i4 a), signed?_i4]
  have hhigh (a b c : Int32) (tail : List UInt8) :
      Bytecode.signed? ((i4 a ++ (i4 b ++ (i4 c ++ tail))).drop 8) = .ok c.toInt := by
    rw [← List.append_assoc, List.drop_left' (by rfl), signed?_i4]
  unfold Bytecode.instructionLength
  cases i with
  | simple opcode operands =>
    rw [Instr.opcode, (ofOpcode?_of_operandCount? h).1]
    rfl
  | call kind callee spare =>
    rw [Instr.opcode, ofOpcode?_callOpcode]
    exact congrArg (fun n => Except.ok (3 + n)) h.symm
  | tableSwitch fill default low high targets =>
    obtain ⟨hle, hcount, hlt⟩ := h
    rw [Instr.opcode, show Bytecode.Form.ofOpcode? 0xAA = some .tableSwitch by decide]
    simp only [Instr.operands, List.append_assoc, hfill, hlow, hhigh, bind, Except.bind]
    rw [← hcount, if_pos (by omega), Int.toNat_natCast, padding_eq_gap]
    rfl
  | lookupSwitch fill default pairs =>
    have hpairs : (Int32.ofNat pairs.length).toInt = pairs.length := Int32.toInt_ofNat_of_lt h
    rw [Instr.opcode, show Bytecode.Form.ofOpcode? 0xAB = some .lookupSwitch by decide]
    simp only [Instr.operands, List.append_assoc, hfill, hlow, bind, Except.bind, hpairs]
    rw [if_pos (by omega), Int.toNat_natCast, padding_eq_gap]
    rfl
  | wide opcode operands =>
    rw [Instr.opcode, show Bytecode.Form.ofOpcode? 0xC4 = some .wide by decide]
    simp only [Instr.operands, List.cons_append, Instr.size]
    have hcount : operands.length = if opcode = 0x84 then 4 else 2 := h
    rw [hcount]
    unfold Bytecode.incrementOpcode
    split <;> rfl

/-- What an instruction does is found whatever follows it. -/
theorem operation_operands {pool : Pool} {index : ι → UInt16}
    {site : CallKind → ι → Nat → CallSite} {offset : Nat} {i : Instr ι} (h : i.WellFormed)
    (hsite : ∀ kind callee spare, i = .call kind callee spare →
      Bytecode.callSite pool offset kind (index callee) = .ok (site kind callee offset))
    (rest : List UInt8) :
    Bytecode.operation pool offset i.opcode (i.operands index offset ++ rest) =
      .ok (i.operation site offset) := by
  unfold Bytecode.operation
  cases i with
  | simple opcode operands =>
    rw [Instr.opcode, (ofOpcode?_of_operandCount? h).2]
    rfl
  | call kind callee spare =>
    have hindex : Bytecode.operandIndex
        (Instr.operands index offset (.call kind callee spare) ++ rest) = .ok (index callee) :=
      congrArg Except.ok (Encoding.word_u2 (index callee))
    rw [Instr.opcode, callKind?_callOpcode]
    simp only [hindex, bind, Except.bind, hsite kind callee spare rfl]
    rfl
  | tableSwitch fill default low high targets => rfl
  | lookupSwitch fill default pairs => rfl
  | wide opcode operands => rfl

/-- One instruction is cut off. -/
theorem instructionsFrom_bytes {pool : Pool} {index : ι → UInt16}
    {site : CallKind → ι → Nat → CallSite} {offset : Nat} {i : Instr ι} (h : i.WellFormed)
    (hsite : ∀ kind callee spare, i = .call kind callee spare →
      Bytecode.callSite pool offset kind (index callee) = .ok (site kind callee offset))
    (rest : List UInt8) :
    Bytecode.instructionsFrom pool offset (i.bytes index offset ++ rest) =
      (Bytecode.instructionsFrom pool (offset + i.size offset) rest).map
        (⟨offset, i.operation site offset⟩ :: ·) := by
  have hsize := i.length_operands index offset
  have htake : ((i.operands index offset ++ rest).take (i.size offset - 1)).length + 1 =
      i.size offset := by
    rw [List.length_take, List.length_append]
    omega
  have hdrop : (i.operands index offset ++ rest).drop (i.size offset - 1) = rest :=
    List.drop_left' (by omega)
  rw [Instr.bytes, List.cons_append, Bytecode.instructionsFrom]
  simp only [instructionLength_operands h, Except.mapError, bind, Except.bind]
  rw [if_neg (by omega), operation_operands h hsite, hdrop]
  cases Bytecode.instructionsFrom pool (offset + i.size offset) rest <;> rfl

/-- **Cutting assembled code finds its instructions.** Each instruction is found at its offset, and
calls with the sites that the pool has for them. -/
theorem instructionsFrom_assemble {pool : Pool} {index : ι → UInt16}
    {site : CallKind → ι → Nat → CallSite} {program : List (Instr ι)}
    (h : ∀ i ∈ program, i.WellFormed)
    (hsite : ∀ kind callee spare, .call kind callee spare ∈ program →
      ∀ offset, Bytecode.callSite pool offset kind (index callee) = .ok (site kind callee offset))
    (offset : Nat) :
    Bytecode.instructionsFrom pool offset (assemble index offset program) =
      .ok (listing site offset program) := by
  induction program generalizing offset with
  | nil =>
    rw [assemble, Bytecode.instructionsFrom]
    rfl
  | cons i program ih =>
    have hi := instructionsFrom_bytes (h i List.mem_cons_self)
      (fun kind callee spare he => hsite kind callee spare (he ▸ List.mem_cons_self) offset)
      (assemble index (offset + i.size offset) program)
    have htail := ih (fun i hm => h i (List.mem_cons_of_mem _ hm))
      (fun kind callee spare hm => hsite kind callee spare (List.mem_cons_of_mem _ hm))
      (offset + i.size offset)
    rw [assemble, hi, htail]
    rfl

end CallGraph.Assembly
