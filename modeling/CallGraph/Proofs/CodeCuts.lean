import CallGraph.Proofs.Assembly
import CallGraph.Proofs.Success
import Mathlib.Data.List.Chain

/-!
# Cutting any bytes

The code of a method is whatever bytes a class file has in its place. Cutting them gives instructions
that cover the code without gaps, or else an error for a reason that is there.

* `Cuts` — the ways in which cutting can go, one rule for each
* `cuts_instructionsFrom` — cutting goes by the rules
* `Tiles` — instructions without gaps between them, and `Cuts.tiles`: those that are found are such
-/

namespace CallGraph

namespace Bytecode

variable {pool : Pool} {code operands : List UInt8} {offset n : Nat} {opcode : UInt8}

/-! ## Lengths -/

/-- The length of the instruction at an offset of the code; at the end of the code there is none. -/
def lengthAt? (code : List UInt8) (offset : Nat) : Option (Except LengthError Nat) :=
  match code.drop offset with
  | [] => none
  | opcode :: operands => some (instructionLength offset opcode operands)

theorem padding_le (offset : Nat) : padding offset ≤ 3 := by
  unfold padding
  omega

theorem Form.bounds_of_ofOpcode? (h : ofOpcode? opcode = some (.fixed n)) : 1 ≤ n ∧ n ≤ 5 := by
  have hforms : ∀ entry ∈ forms, ∀ n, entry.2.2 = .fixed n → 1 ≤ n ∧ n ≤ 5 := by simp [forms]
  obtain ⟨entry, hfind, hform⟩ := Option.map_eq_some_iff.mp h
  exact hforms entry (List.mem_of_find?_eq_some hfind) n hform

theorem signed?_bounds {bs : List UInt8} {k : Int} (h : signed? bs = .ok k) :
    -0x80000000 ≤ k ∧ k < 0x80000000 := by
  unfold signed? at h
  split at h
  · next a b c d rest =>
    have hlt := (Reader.doubleWord a b c d).toNat_lt
    have hk := Except.ok.inj h
    split at hk <;> omega
  · cases h

/-- No instruction is empty, and none is longer than a switch with all its pairs. -/
theorem instructionLength_bounds (h : instructionLength offset opcode operands = .ok n) :
    1 ≤ n ∧ n < 0x800000000 := by
  have hpad := padding_le offset
  unfold instructionLength at h
  split at h
  · cases h
  · next length hform =>
    obtain ⟨hlow, hhigh⟩ := Form.bounds_of_ofOpcode? hform
    cases h
    omega
  · obtain ⟨low, -, h⟩ := exists_of_bind_eq_ok h
    obtain ⟨high, -, h⟩ := exists_of_bind_eq_ok h
    dsimp only at h
    split at h
    · cases h
      omega
    · cases h
  · obtain ⟨pairs, hp, h⟩ := exists_of_bind_eq_ok h
    have hpairs := signed?_bounds hp
    split at h
    · cases h
      omega
    · cases h
  · split at h
    · cases h
    · cases h
      split <;> omega

theorem getElem?_of_drop (hd : code.drop offset = opcode :: operands) :
    code[offset]? = some opcode := by
  have hget := congrArg (·[0]?) hd
  simpa using hget

theorem length_of_drop (hd : code.drop offset = opcode :: operands) :
    code.length = offset + 1 + operands.length := by
  have hlength := congrArg List.length hd
  simp only [List.length_drop, List.length_cons] at hlength
  omega

theorem lengthAt?_of_drop (hd : code.drop offset = opcode :: operands) :
    lengthAt? code offset = some (instructionLength offset opcode operands) := by
  unfold lengthAt?
  rw [hd]

theorem lengthAt?_eq_some {r : Except LengthError Nat} (h : lengthAt? code offset = some r) :
    ∃ opcode operands, code.drop offset = opcode :: operands ∧
      instructionLength offset opcode operands = r := by
  unfold lengthAt? at h
  split at h
  · cases h
  · next opcode operands hd => exact ⟨opcode, operands, hd, Option.some.inj h⟩

/-! ## Calls -/

/-- The instruction at an offset is a call, and the two bytes behind its opcode are an index. -/
structure CallsAt (code : List UInt8) (offset : Nat) (kind : CallKind) (index : UInt16) : Prop where
  opcode : ∃ opcode, code[offset]? = some opcode ∧ callKind? opcode = some kind
  index : ∃ a b, code[offset + 1]? = some a ∧ code[offset + 2]? = some b ∧ index = Reader.word a b

theorem eq_callOpcode {kind : CallKind} (h : callKind? opcode = some kind) :
    opcode = Assembly.callOpcode kind := by
  unfold callKind? at h
  split at h
  · next hn => cases h; exact UInt8.toNat_inj.mp hn
  · next hn => cases h; exact UInt8.toNat_inj.mp hn
  · next hn => cases h; exact UInt8.toNat_inj.mp hn
  · next hn => cases h; exact UInt8.toNat_inj.mp hn
  · next hn => cases h; exact UInt8.toNat_inj.mp hn
  · cases h

/-- A call has room for its index. -/
theorem three_le_of_callKind? {kind : CallKind} (hk : callKind? opcode = some kind)
    (h : instructionLength offset opcode operands = .ok n) : 3 ≤ n := by
  unfold instructionLength at h
  rw [eq_callOpcode hk, Assembly.ofOpcode?_callOpcode] at h
  cases h
  omega

/-- Following an index does not read the code. -/
theorem callSite_error {kind : CallKind} {index : UInt16} {e : CodeError}
    (h : callSite pool offset kind index = .error e) :
    e ≠ .operandOutOfBounds ∧ ∀ stop, e ≠ .overrun stop := by
  unfold callSite at h
  split at h
  · cases hc : pool.dynamicCall index with
    | error cause =>
      rw [hc] at h
      cases h
      simp
    | ok call =>
      rw [hc] at h
      cases h
  · cases hm : pool.methodRef index with
    | error cause =>
      rw [hm] at h
      cases h
      simp
    | ok method =>
      simp only [hm, Except.mapError, bind, Except.bind] at h
      split at h
      · next ha =>
        split at ha
        · cases ha
          cases h
          simp
        · cases ha
      · cases h

theorem callSite_offset {kind : CallKind} {index : UInt16} {site : CallSite}
    (h : callSite pool offset kind index = .ok site) : site.offset = offset ∧ site.kind = kind := by
  unfold callSite at h
  split at h
  · obtain ⟨call, -, h⟩ := exists_of_bind_eq_ok h
    cases h
    exact ⟨rfl, rfl⟩
  · obtain ⟨method, -, h⟩ := exists_of_bind_eq_ok h
    obtain ⟨arguments, -, h⟩ := exists_of_bind_eq_ok h
    cases h
    exact ⟨rfl, rfl⟩

/-- What the instruction at an offset does. -/
inductive Does (pool : Pool) (code : List UInt8) (offset : Nat) : Operation → Prop
  | call {kind : CallKind} {index : UInt16} {site : CallSite} (h : CallsAt code offset kind index)
      (hs : callSite pool offset kind index = .ok site) : Does pool code offset (.invoke site)
  | other {opcode : UInt8} (h : code[offset]? = some opcode) (hk : callKind? opcode = none) :
      Does pool code offset (.other opcode)

/-! ## Cutting -/

/-- What comes of cutting the code from an offset on, one rule for each way it can go. -/
inductive Cuts (pool : Pool) (code : List UInt8) : Nat → Except CodeError (List Instruction) → Prop
  | stop : Cuts pool code code.length (.ok [])
  | noLength {offset : Nat} {e : LengthError} (h : lengthAt? code offset = some (.error e)) :
      Cuts pool code offset (.error (.length e))
  | overrun {offset n : Nat} (h : lengthAt? code offset = some (.ok n))
      (hn : code.length < offset + n) : Cuts pool code offset (.error (.overrun offset))
  | noSite {offset n : Nat} {kind : CallKind} {index : UInt16} {e : CodeError}
      (h : lengthAt? code offset = some (.ok n)) (hn : offset + n ≤ code.length)
      (hc : CallsAt code offset kind index) (he : callSite pool offset kind index = .error e) :
      Cuts pool code offset (.error e)
  | next {offset n : Nat} {operation : Operation} {rest : Except CodeError (List Instruction)}
      (h : lengthAt? code offset = some (.ok n)) (hn : offset + n ≤ code.length)
      (hd : Does pool code offset operation) (hr : Cuts pool code (offset + n) rest) :
      Cuts pool code offset (rest.map (⟨offset, operation⟩ :: ·))

/-- The operation of an instruction that lies within the code. -/
theorem operation_cases (pool : Pool) (hd : code.drop offset = opcode :: operands)
    (h : instructionLength offset opcode operands = .ok n) (hn : offset + n ≤ code.length) :
    (∃ operation, Bytecode.operation pool offset opcode operands = .ok operation ∧
        Does pool code offset operation) ∨
      ∃ kind index e, Bytecode.operation pool offset opcode operands = .error e ∧
        CallsAt code offset kind index ∧ callSite pool offset kind index = .error e := by
  have hopcode := getElem?_of_drop hd
  unfold operation
  cases hk : callKind? opcode with
  | none => exact Or.inl ⟨_, rfl, .other hopcode hk⟩
  | some kind =>
    have hthree := three_le_of_callKind? hk h
    have hlength := length_of_drop hd
    match operands, hd with
    | a :: b :: rest, hd =>
      have ha := congrArg (·[1]?) hd
      have hb := congrArg (·[2]?) hd
      simp only [List.getElem?_drop, List.getElem?_cons_succ, List.getElem?_cons_zero] at ha hb
      have hcall : CallsAt code offset kind (Reader.word a b) :=
        ⟨⟨opcode, hopcode, hk⟩, a, b, ha, hb, rfl⟩
      cases hs : callSite pool offset kind (Reader.word a b) with
      | error e =>
        refine Or.inr ⟨kind, _, e, ?_, hcall, hs⟩
        simp only [operandIndex, bind, Except.bind, hs]
      | ok site =>
        refine Or.inl ⟨.invoke site, ?_, .call hcall hs⟩
        simp only [operandIndex, bind, Except.bind, hs, pure, Except.pure]
    | [a], _ =>
      simp only [List.length_cons, List.length_nil] at hlength
      omega
    | [], _ =>
      simp only [List.length_nil] at hlength
      omega

/-- **Cutting goes by the rules.** -/
theorem cuts_instructionsFrom (pool : Pool) (h : offset ≤ code.length) :
    Cuts pool code offset (instructionsFrom pool offset (code.drop offset)) := by
  -- Every instruction leaves less of the code.
  induction hk : code.length - offset using Nat.strongRecOn generalizing offset with
  | ind k ih =>
    cases hd : code.drop offset with
    | nil =>
      have hend : offset = code.length := Nat.le_antisymm h (List.drop_eq_nil_iff.mp hd)
      rw [instructionsFrom, hend]
      exact .stop
    | cons opcode operands =>
      have hlength := length_of_drop hd
      have hat := lengthAt?_of_drop hd
      rw [instructionsFrom]
      cases hn : instructionLength offset opcode operands with
      | error e =>
        rw [hn] at hat
        exact .noLength hat
      | ok n =>
        rw [hn] at hat
        obtain ⟨hpos, -⟩ := instructionLength_bounds hn
        simp only [Except.mapError, bind, Except.bind]
        by_cases hover : code.length < offset + n
        · rw [if_pos (by rw [List.length_take]; omega)]
          exact .overrun hat hover
        · rw [if_neg (by rw [List.length_take]; omega)]
          have hfits : offset + n ≤ code.length := Nat.not_lt.mp hover
          have hrest : operands.drop (n - 1) = code.drop (offset + n) := by
            rw [← List.drop_drop, hd, ← List.drop_succ_cons (a := opcode), Nat.sub_add_cancel hpos]
          have hcuts := ih (code.length - (offset + n)) (by omega) hfits rfl
          rw [hrest]
          rcases operation_cases pool hd hn hfits with
            ⟨operation, ho, hdoes⟩ | ⟨kind, index, e, ho, hcall, he⟩
          · have hnext := Cuts.next hat hfits hdoes hcuts
            rw [ho]
            cases hr : instructionsFrom pool (offset + n) (code.drop (offset + n)) with
            | error e => rwa [hr] at hnext
            | ok rest => rwa [hr] at hnext
          · rw [ho]
            exact .noSite hat hfits hcall he

/-! ## Instructions without gaps -/

/-- The instruction ends at an offset of the code. -/
def EndsAt (code : List UInt8) (i : Instruction) (stop : Nat) : Prop :=
  ∃ n, lengthAt? code i.offset = some (.ok n) ∧ i.offset + n = stop

/-- Instructions cover the code from `start` on, and calls have the index within them. -/
structure Tiles (pool : Pool) (code : List UInt8) (start : Nat) (found : List Instruction) :
    Prop where
  eq_nil_iff : found = [] ↔ code.drop start = []
  head : ∀ i, found.head? = some i → i.offset = start
  chain : found.IsChain fun i j => EndsAt code i j.offset
  last : ∀ i, found.getLast? = some i → EndsAt code i code.length
  calls : ∀ i ∈ found, ∀ site, i.call? = some site → site.offset = i.offset ∧
    ∃ n index, lengthAt? code i.offset = some (.ok n) ∧ 3 ≤ n ∧
      CallsAt code i.offset site.kind index ∧ callSite pool i.offset site.kind index = .ok site

/-- An instruction in front of others. -/
theorem Tiles.cons {operation : Operation} {found : List Instruction}
    (h : lengthAt? code offset = some (.ok n)) (hdoes : Does pool code offset operation)
    (ht : Tiles pool code (offset + n) found) (hn : offset + n ≤ code.length) :
    Tiles pool code offset (⟨offset, operation⟩ :: found) := by
  obtain ⟨opcode, operands, hd, hr⟩ := lengthAt?_eq_some h
  constructor
  · simp [hd]
  · intro i hi
    cases hi
    rfl
  · refine List.isChain_cons.mpr ⟨fun i hi => ?_, ht.chain⟩
    rw [ht.head i hi]
    exact ⟨n, h, rfl⟩
  · intro i hi
    cases found with
    | nil =>
      cases hi
      have hend := List.drop_eq_nil_iff.mp (ht.eq_nil_iff.mp rfl)
      exact ⟨n, h, Nat.le_antisymm hn hend⟩
    | cons j found => exact ht.last i (by rwa [List.getLast?_cons_cons] at hi)
  · intro i hi site hsite
    rcases List.mem_cons.mp hi with rfl | hi
    · cases hdoes with
      | other h hk => cases hsite
      | @call kind index site' hcall hs =>
        obtain rfl : site' = site := Option.some.inj hsite
        obtain ⟨hoffset, rfl⟩ := callSite_offset hs
        obtain ⟨opcode', hopcode, hk⟩ := hcall.opcode
        obtain rfl : opcode = opcode' :=
          Option.some.inj ((getElem?_of_drop hd).symm.trans hopcode)
        exact ⟨hoffset, n, index, h, three_le_of_callKind? hk hr, hcall, hs⟩
    · exact ht.calls i hi site hsite

theorem Cuts.tiles {r : Except CodeError (List Instruction)} (h : Cuts pool code offset r)
    {found : List Instruction} (hr : r = .ok found) : Tiles pool code offset found := by
  induction h generalizing found with
  | stop =>
    cases hr
    refine ⟨by simp, by simp, .nil, by simp, by simp⟩
  | noLength => cases hr
  | overrun => cases hr
  | noSite => cases hr
  | @next offset n operation rest h hn hdoes _ ih =>
    cases rest with
    | error e => cases hr
    | ok rest =>
      cases hr
      exact (ih rfl).cons h hdoes hn

/-- Errors of cutting have their reasons. -/
theorem Cuts.error {r : Except CodeError (List Instruction)} (h : Cuts pool code offset r)
    {e : CodeError} (hr : r = .error e) :
    e ≠ .operandOutOfBounds ∧ ∀ offset, e = .overrun offset →
      ∃ n, lengthAt? code offset = some (.ok n) ∧ 1 ≤ n ∧ code.length < offset + n := by
  induction h generalizing e with
  | stop => cases hr
  | noLength =>
    cases hr
    exact ⟨by simp, by simp⟩
  | @overrun offset n h hn =>
    cases hr
    refine ⟨by simp, fun stop hstop => ?_⟩
    cases hstop
    obtain ⟨_, _, -, hr⟩ := lengthAt?_eq_some h
    exact ⟨n, h, (instructionLength_bounds hr).1, hn⟩
  | @noSite offset n kind index e' h hn hcall he =>
    cases hr
    obtain ⟨hread, hover⟩ := callSite_error he
    exact ⟨hread, fun stop hstop => absurd hstop (hover stop)⟩
  | @next offset n operation rest h hn hdoes _ ih =>
    cases rest with
    | error e' =>
      cases hr
      exact ih rfl
    | ok rest => cases hr

end Bytecode

end CallGraph
