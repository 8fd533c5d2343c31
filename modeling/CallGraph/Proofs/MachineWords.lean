import CallGraph.Proofs.CodeCuts
import CallGraph.Proofs.CodeLayout

/-!
# Cutting in machine words

A machine cuts code in a loop over offsets, with numbers of 64 bits for lengths and places and of 32
bits for the offsets that it records. Operands are not to be trusted: a switch may claim any number
of targets. Still no number is too large, and the loop comes to its end.

* `Machine` — computations in machine words
* `run_machineLength` — lengths do not overflow
* `walk_of_cuts` — the loop ends, with the outcome that the rules of `Cuts` give
* `instructions_tile` — any bytes are cut safely
-/

namespace CallGraph.Bytecode

variable {pool : Pool} {code operands : List UInt8} {offset n : Nat} {opcode : UInt8}

/-! ## Lengths in machine words -/

/-- A computation with numbers of 64 bits. It may fail, and if a number is too large it has no outcome
at all. -/
abbrev Machine (ε α : Type) : Type := ExceptT ε Option α

namespace Machine

variable {ε α β : Type}

/-- A number, if it fits in a word. -/
def word (n : Nat) : Machine ε Nat :=
  ExceptT.mk (if n < 0x10000000000000000 then some (.ok n) else none)

/-- A result that takes no arithmetic. -/
def of (x : Except ε α) : Machine ε α := ExceptT.mk (some x)

theorem word_of_lt (h : n < 0x10000000000000000) : (word n : Machine ε Nat) = pure n := by
  unfold word
  rw [if_pos h]
  rfl

theorem of_bind (x : Except ε α) (f : α → Except ε β) :
    (of x >>= fun a => of (f a)) = of (x >>= f) := by
  cases x <;> rfl

end Machine

open Machine (word of)

/-- The signed number in the four bytes from `start` on. -/
def signedAt (code : List UInt8) (start : Nat) : Machine LengthError Int := do
  let stop ← word (start + 4)
  if stop ≤ code.length then of (signed? (code.drop start)) else throw .numberOutOfBounds

/-- A number, if it fits in 32 bits with a sign. -/
def int32? (n : Int) : Option Int := if -0x80000000 ≤ n ∧ n < 0x80000000 then some n else none

/-- The number of targets of a table switch. Its bounds are any two numbers, so even their difference
may be out of range. -/
def targetCount (low high : Int) : Except LengthError Nat :=
  match (int32? (high - low)).bind fun difference => int32? (difference + 1) with
  | none => .error .tableSwitchRange
  | some count => if count < 0 then .error .tableSwitchRange else .ok count.toNat

/-- The number of bytes between a switch opcode at an offset and its operands. -/
def machinePadding (offset : Nat) : Machine LengthError Nat := do
  return (4 - (← word (offset + 1)) % 4) % 4

/-- The length of a table switch. -/
def tableSwitchLength (code : List UInt8) (offset : Nat) : Machine LengthError Nat := do
  let padding ← machinePadding offset
  let base ← word ((← word (offset + 1)) + padding)
  let low ← signedAt code (← word (base + 4))
  let high ← signedAt code (← word (base + 8))
  let count ← of (targetCount low high)
  word ((← word ((← word (1 + padding)) + 12)) + (← word (count * 4)))

/-- The length of a lookup switch. -/
def lookupSwitchLength (code : List UInt8) (offset : Nat) : Machine LengthError Nat := do
  let padding ← machinePadding offset
  let base ← word ((← word (offset + 1)) + padding)
  let count ← signedAt code (← word (base + 4))
  if count < 0 then throw .lookupSwitchPairs
  else word ((← word ((← word (1 + padding)) + 8)) + (← word (count.toNat * 8)))

/-- The length of a widened instruction. -/
def wideLength (code : List UInt8) (offset : Nat) : Machine LengthError Nat := do
  let next ← word (offset + 1)
  match code[next]? with
  | none => throw .missingWideOpcode
  | some widened => return if widened = incrementOpcode then 6 else 4

/-- The length of the instruction at an offset. -/
def machineLength (code : List UInt8) (offset : Nat) : Machine LengthError Nat :=
  match code[offset]? with
  | none => ExceptT.mk none
  | some opcode =>
    match Form.ofOpcode? opcode with
    | none => throw (.unsupportedOpcode opcode)
    | some (.fixed length) => return length
    | some .tableSwitch => tableSwitchLength code offset
    | some .lookupSwitch => lookupSwitchLength code offset
    | some .wide => wideLength code offset

theorem signedAt_eq {start : Nat} (h : start < 0x1000000000) :
    signedAt code start = of (signed? (code.drop start)) := by
  unfold signedAt
  rw [Machine.word_of_lt (by omega), pure_bind]
  split
  · rfl
  · next hstop =>
    have hlength : (code.drop start).length < 4 := by
      rw [List.length_drop]
      omega
    unfold signed?
    split
    · next a b c d rest heq =>
      rw [heq] at hlength
      simp only [List.length_cons] at hlength
      omega
    · rfl

theorem targetCount_eq {low high : Int} : targetCount low high =
    if 0 ≤ high - low + 1 ∧ high - low + 1 < 0x80000000 then .ok (high - low + 1).toNat
    else .error .tableSwitchRange := by
  unfold targetCount int32?
  by_cases hd : -0x80000000 ≤ high - low ∧ high - low < 0x80000000
  · rw [if_pos hd, Option.bind_some]
    by_cases hc : -0x80000000 ≤ high - low + 1 ∧ high - low + 1 < 0x80000000
    · rw [if_pos hc]
      simp only
      split
      · rw [if_neg (by omega)]
      · rw [if_pos (by omega)]
    · rw [if_neg hc, if_neg (by omega)]
  · rw [if_neg hd, Option.bind_none, if_neg (by omega)]

theorem machinePadding_eq (h : offset < 0x100000000) :
    machinePadding offset = pure (padding offset) := by
  unfold machinePadding
  rw [Machine.word_of_lt (by omega), pure_bind]
  rfl

theorem drop_operands (hd : code.drop offset = opcode :: operands) (k : Nat) :
    code.drop (offset + 1 + k) = operands.drop k := by
  rw [← List.drop_drop, ← List.drop_drop, hd]
  rfl

theorem tableSwitchLength_eq (ho : offset < 0x100000000) (hd : code.drop offset = opcode :: operands)
    (hf : Form.ofOpcode? opcode = some .tableSwitch) :
    tableSwitchLength code offset = of (instructionLength offset opcode operands) := by
  have hpad := padding_le offset
  unfold tableSwitchLength instructionLength
  rw [hf]
  simp (disch := omega) only [machinePadding_eq, Machine.word_of_lt, pure_bind, signedAt_eq,
    ← List.drop_drop, drop_operands hd, ← Machine.of_bind, targetCount_eq]
  congr 1
  funext low
  congr 1
  funext high
  split
  · next hcount =>
    show (word _ >>= fun targets => _) = _
    simp (disch := omega) only [Machine.word_of_lt, pure_bind, Nat.mul_comm 4]
    rfl
  · rfl

theorem lookupSwitchLength_eq (ho : offset < 0x100000000)
    (hd : code.drop offset = opcode :: operands)
    (hf : Form.ofOpcode? opcode = some .lookupSwitch) :
    lookupSwitchLength code offset = of (instructionLength offset opcode operands) := by
  have hpad := padding_le offset
  unfold lookupSwitchLength instructionLength
  rw [hf]
  simp (disch := omega) only [machinePadding_eq, Machine.word_of_lt, pure_bind, signedAt_eq,
    ← List.drop_drop, drop_operands hd]
  cases hp : signed? ((operands.drop (padding offset)).drop 4) with
  | error e => rfl
  | ok pairs =>
    have hpairs := signed?_bounds hp
    show (if pairs < 0 then _ else word _ >>= _) = of (if 0 ≤ pairs then _ else _)
    by_cases hneg : pairs < 0
    · rw [if_pos hneg, if_neg (by omega)]
      rfl
    · rw [if_neg hneg, if_pos (by omega)]
      simp (disch := omega) only [Machine.word_of_lt, pure_bind, Nat.mul_comm 8]
      rfl

theorem wideLength_eq (ho : offset < 0x100000000) (hd : code.drop offset = opcode :: operands)
    (hf : Form.ofOpcode? opcode = some .wide) :
    wideLength code offset = of (instructionLength offset opcode operands) := by
  have hnext : code[offset + 1]? = operands[0]? := by
    have hget := congrArg (·[1]?) hd
    simpa using hget
  unfold wideLength instructionLength
  rw [hf, Machine.word_of_lt (by omega), pure_bind, hnext]
  cases operands <;> rfl

theorem machineLength_eq (ho : offset < 0x100000000) (hd : code.drop offset = opcode :: operands) :
    machineLength code offset = of (instructionLength offset opcode operands) := by
  unfold machineLength
  simp only [getElem?_of_drop hd]
  cases hf : Form.ofOpcode? opcode with
  | none =>
    unfold instructionLength
    rw [hf]
    rfl
  | some form =>
    cases form with
    | fixed length =>
      unfold instructionLength
      rw [hf]
      rfl
    | tableSwitch => exact tableSwitchLength_eq ho hd hf
    | lookupSwitch => exact lookupSwitchLength_eq ho hd hf
    | wide => exact wideLength_eq ho hd hf

/-- **The arithmetic of lengths does not overflow,** whatever the operands are. -/
theorem run_machineLength (hc : code.length < 0x100000000) (offset : Nat) :
    (machineLength code offset).run = lengthAt? code offset := by
  cases hd : code.drop offset with
  | nil =>
    unfold machineLength lengthAt?
    rw [List.getElem?_eq_none (List.drop_eq_nil_iff.mp hd), hd]
    rfl
  | cons opcode operands =>
    have hlength := length_of_drop hd
    rw [machineLength_eq (by omega) hd, lengthAt?_of_drop hd]
    rfl

/-! ## The loop in machine words -/

/-- The index in the two bytes from `start` on. -/
def indexAt (code : List UInt8) (start : Nat) : Machine CodeError UInt16 := do
  let stop ← word (start + 2)
  if stop ≤ code.length then of (operandIndex (code.drop start)) else throw .operandOutOfBounds

/-- An offset as it is recorded, in 32 bits. -/
def recorded (offset : Nat) : Nat := offset % 0x100000000

/-- What the instruction at an offset does. -/
def operationAt (pool : Pool) (code : List UInt8) (offset : Nat) : Machine CodeError Operation :=
  match code[offset]? with
  | none => ExceptT.mk none
  | some opcode =>
    match callKind? opcode with
    | none => return .other opcode
    | some kind => do
      let index ← indexAt code (← word (offset + 1))
      return .invoke (← of (callSite pool (recorded offset) kind index))

/-- Goes over the code from an offset on and adds to the instructions found before. Without an end
after `fuel` rounds there is no outcome. -/
def walk (pool : Pool) (code : List UInt8) : Nat → Nat → List Instruction →
    Machine CodeError (List Instruction)
  | 0, offset, found => if code.length ≤ offset then return found else ExceptT.mk none
  | fuel + 1, offset, found =>
    if code.length ≤ offset then return found
    else do
      let length ← ExceptT.adapt .length (machineLength code offset)
      let stop ← word (offset + length)
      if length = 0 ∨ code.length < stop then throw (.overrun offset)
      else do
        let operation ← operationAt pool code offset
        walk pool code fuel stop (found ++ [⟨recorded offset, operation⟩])

theorem recorded_of_lt (h : offset < 0x100000000) : recorded offset = offset := Nat.mod_eq_of_lt h

theorem operationAt_of_callsAt (hc : code.length < 0x100000000) {kind : CallKind} {index : UInt16}
    (h : CallsAt code offset kind index) :
    operationAt pool code offset = of ((callSite pool offset kind index).map .invoke) := by
  obtain ⟨⟨opcode, hopcode, hk⟩, a, b, ha, hb, rfl⟩ := h
  obtain ⟨hlt, hb'⟩ := List.getElem?_eq_some_iff.mp hb
  have hdrop : code.drop (offset + 1) = a :: b :: code.drop (offset + 3) := by
    rw [List.drop_eq_getElem?_toList_append, ha, List.drop_eq_getElem?_toList_append, hb]
    rfl
  unfold operationAt indexAt
  rw [hopcode]
  simp only [hk]
  simp (disch := omega) only [Machine.word_of_lt, pure_bind, recorded_of_lt]
  rw [if_pos (by omega), hdrop]
  show (of (callSite pool offset kind _) >>= _) = _
  cases callSite pool offset kind (Reader.word a b) <;> rfl

theorem operationAt_of_does (hc : code.length < 0x100000000) {operation : Operation}
    (h : Does pool code offset operation) : operationAt pool code offset = pure operation := by
  cases h with
  | call h hs =>
    rw [operationAt_of_callsAt hc h, hs]
    rfl
  | other h hk =>
    unfold operationAt
    rw [h]
    simp only [hk]

theorem walk_of_noLength (hc : code.length < 0x100000000) {e : LengthError}
    (h : lengthAt? code offset = some (.error e)) {fuel : Nat} (hf : code.length - offset ≤ fuel)
    (found : List Instruction) : walk pool code fuel offset found = throw (.length e) := by
  obtain ⟨opcode, operands, hd, -⟩ := lengthAt?_eq_some h
  have hlength := length_of_drop hd
  obtain ⟨rounds, rfl⟩ : ∃ rounds, fuel = rounds + 1 := ⟨fuel - 1, by omega⟩
  have hadapt : ExceptT.adapt CodeError.length (machineLength code offset) = throw (.length e) := by
    show Option.map _ (machineLength code offset).run = _
    rw [run_machineLength hc, h]
    rfl
  rw [walk, if_neg (by omega), hadapt]
  rfl

/-- A round of the loop: an instruction has a length, so less code and less fuel is left. -/
theorem walk_of_length (pool : Pool) (hc : code.length < 0x100000000)
    (h : lengthAt? code offset = some (.ok n))
    {fuel : Nat} (hf : code.length - offset ≤ fuel) (found : List Instruction) :
    ∃ rounds, code.length - (offset + n) ≤ rounds ∧ walk pool code fuel offset found =
      if code.length < offset + n then throw (.overrun offset)
      else operationAt pool code offset >>= fun operation =>
        walk pool code rounds (offset + n) (found ++ [⟨offset, operation⟩]) := by
  obtain ⟨opcode, operands, hd, hr⟩ := lengthAt?_eq_some h
  have hlength := length_of_drop hd
  obtain ⟨hpos, hmax⟩ := instructionLength_bounds hr
  obtain ⟨rounds, rfl⟩ : ∃ rounds, fuel = rounds + 1 := ⟨fuel - 1, by omega⟩
  have hadapt : ExceptT.adapt CodeError.length (machineLength code offset) = pure n := by
    show Option.map _ (machineLength code offset).run = _
    rw [run_machineLength hc, h]
    rfl
  refine ⟨rounds, by omega, ?_⟩
  rw [walk, if_neg (by omega), hadapt, pure_bind, Machine.word_of_lt (by omega), pure_bind,
    recorded_of_lt (by omega)]
  by_cases hover : code.length < offset + n
  · rw [if_pos (Or.inr hover), if_pos hover]
  · rw [if_neg (by omega), if_neg hover]

/-- **The loop comes to its end without an overflow,** and to what the rules give. -/
theorem walk_of_cuts (hc : code.length < 0x100000000) {r : Except CodeError (List Instruction)}
    (h : Cuts pool code offset r) {fuel : Nat} (hf : code.length - offset ≤ fuel)
    (found : List Instruction) : walk pool code fuel offset found = of (r.map (found ++ ·)) := by
  induction h generalizing fuel found with
  | stop =>
    have hdone : walk pool code fuel code.length found = of (.ok found) := by
      cases fuel <;> rw [walk, if_pos (Nat.le_refl _)] <;> rfl
    rw [hdone]
    show of (.ok found) = of (.ok (found ++ []))
    rw [List.append_nil]
  | noLength h => exact walk_of_noLength hc h hf found
  | overrun h hn =>
    obtain ⟨rounds, -, hwalk⟩ := walk_of_length pool hc h hf found
    rw [hwalk, if_pos hn]
    rfl
  | noSite h hn hcall he =>
    obtain ⟨rounds, -, hwalk⟩ := walk_of_length pool hc h hf found
    rw [hwalk, if_neg (Nat.not_lt.mpr hn), operationAt_of_callsAt hc hcall, he]
    rfl
  | @next offset n operation rest h hn hdoes hrest ih =>
    obtain ⟨rounds, hrounds, hwalk⟩ := walk_of_length pool hc h hf found
    rw [hwalk, if_neg (Nat.not_lt.mpr hn), operationAt_of_does hc hdoes, pure_bind, ih hrounds]
    cases rest with
    | error e => rfl
    | ok rest =>
      show of (.ok (found ++ [_] ++ rest)) = of (.ok (found ++ _ :: rest))
      rw [List.append_assoc]
      rfl

/-! ## Any bytes -/

/-- **Any bytes are cut safely.** For any pool and any code of less than 4 GiB, no length overflows and
none is zero, and the loop ends with an outcome after at most as many rounds as there are bytes.
Instructions that are found cover the code without gaps. No index is read beyond the code, and where
an instruction is said to overrun the code, it does. -/
theorem instructions_tile (hc : code.length < 0x100000000) (pool : Pool) :
    (∀ offset, (machineLength code offset).run = lengthAt? code offset) ∧
      (∀ offset n, lengthAt? code offset = some (.ok n) → 1 ≤ n) ∧
      (walk pool code code.length 0 []).run = some (instructions pool code) ∧
      (∀ found, instructions pool code = .ok found → Tiles pool code 0 found) ∧
      instructions pool code ≠ .error .operandOutOfBounds ∧
      ∀ offset, instructions pool code = .error (.overrun offset) →
        ∃ n, lengthAt? code offset = some (.ok n) ∧ 1 ≤ n ∧ code.length < offset + n := by
  have hcuts : Cuts pool code 0 (instructions pool code) :=
    cuts_instructionsFrom pool (Nat.zero_le _)
  refine ⟨run_machineLength hc, ?_, ?_, fun _ h => hcuts.tiles h,
    fun h => (hcuts.error h).1 rfl, fun offset h => (hcuts.error h).2 offset rfl⟩
  · intro offset n h
    obtain ⟨_, _, -, hn⟩ := lengthAt?_eq_some h
    exact (instructionLength_bounds hn).1
  · rw [walk_of_cuts hc hcuts (Nat.sub_le _ _)]
    cases instructions pool code <;> rfl

open Assembly in
/-- A call between two switches, of which the first one has padding that looks like a call. -/
theorem instructions_tile_job :
    let code := assemble id 0 jobProgram
    code.length < 0x100000000 ∧ ∃ found, instructions jobPool code = .ok found ∧
      found.map Instruction.offset = [0, 1, 2, 24, 27, 33] ∧ Tiles jobPool code 0 found := by
  intro code
  have hc : code.length < 0x100000000 := by decide
  obtain ⟨-, -, hwalk, htiles, -⟩ := instructions_tile hc jobPool
  have hoffsets : (walk jobPool code code.length 0 []).run.map
      (Except.map (List.map Instruction.offset)) = some (.ok [0, 1, 2, 24, 27, 33]) := by
    decide +kernel
  rw [hwalk] at hoffsets
  cases hfound : instructions jobPool code with
  | error e =>
    rw [hfound] at hoffsets
    cases hoffsets
  | ok found =>
    rw [hfound] at hoffsets
    exact ⟨hc, found, rfl, Except.ok.inj (Option.some.inj hoffsets), htiles found hfound⟩

end CallGraph.Bytecode
