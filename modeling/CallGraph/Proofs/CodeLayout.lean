import CallGraph.Proofs.Assembly
import CallGraph.Proofs.Grammar

/-!
# Code is cut where its instructions were laid out

Instructions laid out one after the other are found again, one for one, wherever padding puts them.
A wrong length at one place would shift everything behind it, so the offset of an instruction is
said without lengths: it is the number of bytes laid out before.

* `LeadsTo` — the call sites that a constant pool has for an index
* `assemble_append`, `listing_append` — the offset of an instruction is the number of bytes
  before it
* `instructions_of_assemble` — the instructions of a program are found, each at its offset
-/

namespace CallGraph.Assembly

/-! ## Programs -/

/-- The index leads to a method or, for a dynamic call, to what links it at run time, and the
descriptor there can be read. The call site of an instruction depends on its offset. -/
inductive LeadsTo (pool : Pool) : CallKind → UInt16 → (Nat → CallSite) → Prop
  | method {kind : CallKind} {index : UInt16} {owner name : String} {d : MethodDescriptor}
      (hkind : kind ≠ .dynamic) (hmethod : pool.methodRef index = .ok ⟨owner, name, d.string⟩)
      (hd : d.WellFormed) :
      LeadsTo pool kind index fun offset =>
        ⟨owner, name, d.parameters.map TypeDescriptor.sourceName, kind, offset, none⟩
  | dynamic {index bootstrap nameAndType : UInt16} {name : String} {d : MethodDescriptor}
      (hentry : pool.get? index = some (.invokeDynamic bootstrap nameAndType))
      (hname : pool.nameAndType nameAndType = .ok (name, d.string)) (hd : d.WellFormed) :
      LeadsTo pool .dynamic index fun offset =>
        ⟨d.result.sourceName, name, d.parameters.map TypeDescriptor.sourceName, .dynamic, offset,
          some bootstrap.toNat⟩

/-- The entry of a listing says what the instruction does. -/
def Performs (pool : Pool) : Instr UInt16 → Instruction → Prop
  | .call kind index _, entry =>
    ∃ site, LeadsTo pool kind index site ∧ entry.operation = .invoke (site entry.offset)
  | i, entry => entry.operation = .other i.opcode

variable {ι : Type}

/-- The operands are those that the opcode asks for. How many pairs a switch may have is left to the
length of the code. -/
def Instr.IsLegal : Instr ι → Prop
  | lookupSwitch _ _ _ => True
  | i => i.WellFormed

instance : (i : Instr ι) → Decidable i.IsLegal
  | .lookupSwitch _ _ _ => .isTrue trivial
  | .simple opcode operands =>
    inferInstanceAs (Decidable (Instr.WellFormed (.simple opcode operands : Instr ι)))
  | .call kind callee spare =>
    inferInstanceAs (Decidable (Instr.WellFormed (.call kind callee spare)))
  | .tableSwitch fill default low high targets => inferInstanceAs
    (Decidable (Instr.WellFormed (.tableSwitch fill default low high targets : Instr ι)))
  | .wide opcode operands =>
    inferInstanceAs (Decidable (Instr.WellFormed (.wide opcode operands : Instr ι)))

/-! ## Opcodes and padding -/

/-- An opcode in use has operands of its own, or always as many. -/
theorem operandCount?_cases (opcode : UInt8) :
    ((operandCount? opcode).isSome = true ∨ opcode = 0xAA ∨ opcode = 0xAB ∨ opcode = 0xC4 ∨
      ∃ kind, opcode = callOpcode kind) ↔ opcode ≤ 0xCA ∨ 0xFE ≤ opcode := by
  have hall : ∀ b : Fin 256, ((operandCount? (UInt8.ofFin b)).isSome = true ∨
      UInt8.ofFin b = 0xAA ∨ UInt8.ofFin b = 0xAB ∨ UInt8.ofFin b = 0xC4 ∨
      UInt8.ofFin b ∈ [CallKind.virtual, .special, .static, .interface, .dynamic].map callOpcode) ↔
        UInt8.ofFin b ≤ 0xCA ∨ 0xFE ≤ UInt8.ofFin b := by decide +kernel
  have hcall : (∃ kind, opcode = callOpcode kind) ↔
      opcode ∈ [CallKind.virtual, .special, .static, .interface, .dynamic].map callOpcode := by
    constructor
    · rintro ⟨kind, rfl⟩
      exact List.mem_map_of_mem (by cases kind <;> decide)
    · intro h
      obtain ⟨kind, -, rfl⟩ := List.mem_map.mp h
      exact ⟨kind, rfl⟩
  rw [hcall]
  exact hall opcode.toFin

/-- There are instructions for all opcodes in use. -/
theorem exists_isLegal_iff (opcode : UInt8) :
    (∃ i : Instr UInt16, i.IsLegal ∧ i.opcode = opcode) ↔ opcode ≤ 0xCA ∨ 0xFE ≤ opcode := by
  rw [← operandCount?_cases]
  constructor
  · rintro ⟨i, hi, rfl⟩
    cases i with
    | simple opcode operands => exact Or.inl (Option.isSome_iff_exists.mpr ⟨_, hi⟩)
    | call kind callee spare => exact Or.inr (Or.inr (Or.inr (Or.inr ⟨kind, rfl⟩)))
    | tableSwitch fill default low high targets => exact Or.inr (Or.inl rfl)
    | lookupSwitch fill default pairs => exact Or.inr (Or.inr (Or.inl rfl))
    | wide opcode operands => exact Or.inr (Or.inr (Or.inr (Or.inl rfl)))
  · rintro (h | rfl | rfl | rfl | ⟨kind, rfl⟩)
    · obtain ⟨n, hn⟩ := Option.isSome_iff_exists.mp h
      refine ⟨.simple opcode (List.replicate n 0), ?_, rfl⟩
      show operandCount? opcode = some (List.replicate n 0).length
      rw [hn, List.length_replicate]
    · exact ⟨.tableSwitch ⟨#[0, 0, 0], rfl⟩ 0 0 0 [0], by decide, rfl⟩
    · exact ⟨.lookupSwitch ⟨#[0, 0, 0], rfl⟩ 0 [], trivial, rfl⟩
    · exact ⟨.wide 0 [0, 0], by decide, rfl⟩
    · exact ⟨.call kind 0 (List.replicate (spareCount kind) 0), List.length_replicate, rfl⟩

theorem dvd_gap (offset : Nat) : 4 ∣ offset + 1 + gap offset := by
  unfold gap
  omega

/-! ## Offsets -/

theorem Instr.length_bytes (index : ι → UInt16) (offset : Nat) (i : Instr ι) :
    (i.bytes index offset).length = i.size offset :=
  i.length_operands index offset

theorem assemble_append (index : ι → UInt16) (offset : Nat) (xs ys : List (Instr ι)) :
    assemble index offset (xs ++ ys) = assemble index offset xs ++
      assemble index (offset + (assemble index offset xs).length) ys := by
  induction xs generalizing offset with
  | nil => simp [assemble]
  | cons i xs ih =>
    rw [List.cons_append, assemble, assemble, ih, List.append_assoc, List.length_append,
      i.length_bytes, Nat.add_assoc]

theorem listing_append (index : ι → UInt16) (site : CallKind → ι → Nat → CallSite) (offset : Nat)
    (xs ys : List (Instr ι)) :
    listing site offset (xs ++ ys) = listing site offset xs ++
      listing site (offset + (assemble index offset xs).length) ys := by
  induction xs generalizing offset with
  | nil => simp [listing, assemble]
  | cons i xs ih =>
    rw [List.cons_append, listing, listing, assemble, ih, List.length_append, i.length_bytes,
      List.cons_append, Nat.add_assoc]

theorem length_listing (site : CallKind → ι → Nat → CallSite) (offset : Nat)
    (program : List (Instr ι)) : (listing site offset program).length = program.length := by
  induction program generalizing offset with
  | nil => rfl
  | cons i program ih => rw [listing, List.length_cons, ih, List.length_cons]

/-- The offset of an instruction is the number of bytes before it. -/
theorem getElem?_listing (index : ι → UInt16) (site : CallKind → ι → Nat → CallSite)
    {program : List (Instr ι)} {k : Nat} {i : Instr ι} (h : program[k]? = some i) :
    (listing site 0 program)[k]? =
      some ⟨(assemble index 0 (program.take k)).length,
        i.operation site (assemble index 0 (program.take k)).length⟩ := by
  obtain ⟨hk, rfl⟩ := List.getElem?_eq_some_iff.mp h
  have hsplit : program = program.take k ++ program[k] :: program.drop (k + 1) := by
    rw [List.getElem_cons_drop, List.take_append_drop]
  have htake : (listing site 0 (program.take k)).length = k := by
    rw [length_listing, List.length_take, Nat.min_eq_left (Nat.le_of_lt hk)]
  have hlisting := listing_append index site 0 (program.take k) (program[k] :: program.drop (k + 1))
  rw [← hsplit, Nat.zero_add, listing] at hlisting
  rw [hlisting, List.getElem?_append_right (Nat.le_of_eq htake), htake, Nat.sub_self]
  rfl

/-! ## Cutting -/

/-- The index of a call is resolved to the call site. -/
theorem callSite_of_leadsTo {pool : Pool} {kind : CallKind} {index : UInt16}
    {site : Nat → CallSite} (h : LeadsTo pool kind index site) (offset : Nat) :
    Bytecode.callSite pool offset kind index = .ok (site offset) := by
  cases h with
  | method hkind hmethod hd =>
    unfold Bytecode.callSite
    cases kind with
    | dynamic => exact absurd rfl hkind
    | _ =>
      simp only [hmethod, MethodDescriptor.argumentNames_string hd, bind, Except.bind,
        Except.mapError]
      rfl
  | dynamic hentry hname hd =>
    unfold Bytecode.callSite
    simp only [Pool.dynamicCall, hentry, hname, MethodDescriptor.resultName_string hd,
      MethodDescriptor.argumentNames_string hd, bind, Except.bind, Except.mapError]
    rfl

theorem size_le_length_assemble (index : ι → UInt16) (offset : Nat) {program : List (Instr ι)}
    {i : Instr ι} (h : i ∈ program) :
    ∃ at', i.size at' ≤ (assemble index offset program).length := by
  obtain ⟨before, after, rfl⟩ := List.append_of_mem h
  refine ⟨offset + (assemble index offset before).length, ?_⟩
  rw [assemble_append, assemble, List.length_append, List.length_append, i.length_bytes]
  omega

/-- In code of less than 4 GiB no switch has too many pairs. -/
theorem wellFormed_of_isLegal {index : ι → UInt16} {offset : Nat} {program : List (Instr ι)}
    (hsize : (assemble index offset program).length < 0x100000000) {i : Instr ι} (hi : i ∈ program)
    (h : i.IsLegal) : i.WellFormed := by
  cases i with
  | lookupSwitch fill default pairs =>
    obtain ⟨at', hat⟩ := size_le_length_assemble index offset hi
    show pairs.length < 0x80000000
    simp only [Instr.size] at hat
    omega
  | simple opcode operands => exact h
  | call kind callee spare => exact h
  | tableSwitch fill default low high targets => exact h
  | wide opcode operands => exact h

/-- **The instructions of a program are found where they were laid out.** There are instructions for
all opcodes in use, and the operands of switches begin at multiples of four. Whatever the pool and
the program, as long as calls lead to something that can be read and the code has less than 4 GiB,
cutting the code gives one entry for each instruction, in order, at the number of bytes before it:
the call site of a call, and the opcode of any other instruction. -/
theorem instructions_of_assemble :
    (∀ opcode : UInt8, (∃ i : Instr UInt16, i.IsLegal ∧ i.opcode = opcode) ↔
      opcode ≤ 0xCA ∨ 0xFE ≤ opcode) ∧
    (∀ offset, gap offset ≤ 3 ∧ 4 ∣ offset + 1 + gap offset) ∧
    ∀ (pool : Pool) (program : List (Instr UInt16)), (∀ i ∈ program, i.IsLegal) →
      (∀ kind index spare, .call kind index spare ∈ program →
        ∃ site, LeadsTo pool kind index site) →
      (assemble id 0 program).length < 0x100000000 →
      ∃ found, Bytecode.instructions pool (assemble id 0 program) = .ok found ∧
        found.length = program.length ∧
        ∀ (k : Nat) i, program[k]? = some i → ∃ entry, found[k]? = some entry ∧
          entry.offset = (assemble id 0 (program.take k)).length ∧ Performs pool i entry := by
  refine ⟨exists_isLegal_iff, fun offset => ⟨gap_le offset, dvd_gap offset⟩, ?_⟩
  intro pool program hlegal hcalls hsize
  have hsites : ∀ kind index, ∃ site : Nat → CallSite, ∀ spare,
      .call kind index spare ∈ program → LeadsTo pool kind index site := by
    intro kind index
    by_cases h : ∃ spare, .call kind index spare ∈ program
    · obtain ⟨spare, hm⟩ := h
      obtain ⟨site, hsite⟩ := hcalls kind index spare hm
      exact ⟨site, fun _ _ => hsite⟩
    · -- Nobody asks for the site of a call that is not made.
      exact ⟨fun offset => ⟨"", "", [], kind, offset, none⟩, fun spare hm => absurd ⟨spare, hm⟩ h⟩
  choose site hsite using hsites
  refine ⟨listing site 0 program, ?_, length_listing site 0 program, ?_⟩
  · refine instructionsFrom_assemble (fun i hi => wellFormed_of_isLegal hsize hi (hlegal i hi)) ?_ 0
    intro kind index spare hm offset
    exact callSite_of_leadsTo (hsite kind index spare hm) offset
  · intro k i hk
    refine ⟨_, getElem?_listing id site hk, rfl, ?_⟩
    cases i with
    | call kind index spare =>
      exact ⟨_, hsite kind index spare (List.mem_of_getElem? hk), rfl⟩
    | _ => rfl

/-- A pool with a method `run(int[])` of the class `Job`. -/
def jobPool : Pool :=
  ⟨#[.unused, .utf8 "Job", .classRef 1, .utf8 "run", .utf8 "([I)V", .nameAndType 3 4,
    .methodRef 2 5]⟩

/-- A call between two switches, whose operands stand behind one byte and two bytes of padding. The
padding of the first one looks like a call. -/
def jobProgram : List (Instr UInt16) :=
  [.simple 0x2A [], .simple 0x1B [],
   .tableSwitch ⟨#[0xB6, 0, 6], rfl⟩ 0 (-1) 0 [7, 9],
   .call .virtual 6 [],
   .wide 0x84 [0, 1, 0, 0xB6],
   .lookupSwitch ⟨#[1, 2, 3], rfl⟩ 0 [(5, 6)]]

theorem instructions_of_assemble_job :
    (∀ i ∈ jobProgram, i.IsLegal) ∧
      ∃ found, Bytecode.instructions jobPool (assemble id 0 jobProgram) = .ok found ∧
        found.length = 6 ∧
        found[3]? = some ⟨24, .invoke ⟨"Job", "run", ["int[]"], .virtual, 24, none⟩⟩ := by
  have hlegal : ∀ i ∈ jobProgram, i.IsLegal := by decide
  have hjob : LeadsTo jobPool .virtual 6 fun offset =>
      ⟨"Job", "run", ["int[]"], .virtual, offset, none⟩ :=
    .method (d := ⟨[⟨.int, 1⟩], ⟨.void, 0⟩⟩) (by decide) (by decide) (by decide)
  have hcalls : ∀ kind index spare, .call kind index spare ∈ jobProgram →
      ∃ site, LeadsTo jobPool kind index site := by
    intro kind index spare hm
    obtain ⟨rfl, rfl, rfl⟩ : kind = .virtual ∧ index = 6 ∧ spare = [] := by
      simpa [jobProgram] using hm
    exact ⟨_, hjob⟩
  obtain ⟨found, hfound, hlength, hentries⟩ :=
    instructions_of_assemble.2.2 jobPool jobProgram hlegal hcalls (by decide)
  obtain ⟨⟨offset, operation⟩, hentry, hoffset, site, hsite, hperforms⟩ := hentries 3 _ rfl
  obtain rfl : offset = 24 := hoffset
  obtain rfl : operation = .invoke (site 24) := hperforms
  -- A pool has one call site for an index.
  have hunique := (callSite_of_leadsTo hsite 24).symm.trans (callSite_of_leadsTo hjob 24)
  refine ⟨hlegal, found, hfound, hlength, ?_⟩
  rw [hentry, Except.ok.inj hunique]

end CallGraph.Assembly
