import CallGraph.Class.Decode
import CallGraph.Proofs.Encoding
import CallGraph.Proofs.Grammar
import Mathlib.Data.Finset.Sort
import Mathlib.Data.String.Basic

/-!
# Constant pools of symbols

A symbol is a constant with everything it refers to written out. A list of symbols that has all
parts of its members becomes a constant pool: each symbol gets the index of its first occurrence,
and a long or double constant takes two slots.

* `Symbol.closure` is a symbol and all that it is made of.
* `Pool.reads_bytes`: the pool is read back from its bytes.
* `Pool.get?_index`: the index of a symbol leads to its constant.
* `Symbol.callSite_index`, `Symbol.bootstrapArgument_index`: following the index of a symbol gives
  what the symbol says, whatever the order of the pool.
* `Symbol.references_ofSymbols`: the classes that the constants mention.
-/

namespace CallGraph

/-! ## Symbols -/

/-- A constant with all that it refers to. -/
inductive Symbol
  | utf8 (text : String)
  | integer (bits : UInt32)
  | float (bits : UInt32)
  | long (high low : UInt32)
  | double (high low : UInt32)
  | classRef (type : ClassType)
  | string (text : String)
  | fieldRef (owner : ClassType) (name descriptor : String)
  | methodRef (ofInterface : Bool) (owner : ClassType) (name : String)
    (descriptor : MethodDescriptor)
  | nameAndType (name descriptor : String)
  | methodHandle (kind : UInt8) (reference : Symbol)
  | methodType (descriptor : String)
  | dynamic (bootstrap : UInt16) (name descriptor : String)
  | invokeDynamic (bootstrap : UInt16) (name : String) (descriptor : MethodDescriptor)
  | moduleRef (name : String)
  | packageRef (name : String)
deriving DecidableEq, Repr

namespace Symbol

/-- The symbols that a symbol refers to. -/
def parts : Symbol → List Symbol
  | classRef type => [utf8 type.text]
  | string text => [utf8 text]
  | fieldRef owner name descriptor => [classRef owner, nameAndType name descriptor]
  | methodRef _ owner name descriptor => [classRef owner, nameAndType name descriptor.string]
  | nameAndType name descriptor => [utf8 name, utf8 descriptor]
  | methodHandle _ reference => [reference]
  | methodType descriptor => [utf8 descriptor]
  | dynamic _ name descriptor => [nameAndType name descriptor]
  | invokeDynamic _ name descriptor => [nameAndType name descriptor.string]
  | moduleRef name => [utf8 name]
  | packageRef name => [utf8 name]
  | utf8 _ | integer _ | float _ | long _ _ | double _ _ => []

/-- A symbol, the symbols it refers to, those that they refer to and so on. -/
def closure : Symbol → List Symbol
  | methodHandle kind reference => methodHandle kind reference :: reference.closure
  | s => s :: (s.parts ++ s.parts.flatMap parts)

/-- The constant, given the index of each symbol. -/
def constant (index : Symbol → UInt16) : Symbol → Constant
  | utf8 text => .utf8 text
  | integer bits => .integer bits
  | float bits => .float bits
  | long high low => .long high low
  | double high low => .double high low
  | classRef type => .classRef (index (utf8 type.text))
  | string text => .string (index (utf8 text))
  | fieldRef owner name descriptor =>
    .fieldRef (index (classRef owner)) (index (nameAndType name descriptor))
  | methodRef false owner name descriptor =>
    .methodRef (index (classRef owner)) (index (nameAndType name descriptor.string))
  | methodRef true owner name descriptor =>
    .interfaceMethodRef (index (classRef owner)) (index (nameAndType name descriptor.string))
  | nameAndType name descriptor => .nameAndType (index (utf8 name)) (index (utf8 descriptor))
  | methodHandle kind reference => .methodHandle kind (index reference)
  | methodType descriptor => .methodType (index (utf8 descriptor))
  | dynamic bootstrap name descriptor =>
    .dynamic bootstrap (index (nameAndType name descriptor))
  | invokeDynamic bootstrap name descriptor =>
    .invokeDynamic bootstrap (index (nameAndType name descriptor.string))
  | moduleRef name => .moduleRef (index (utf8 name))
  | packageRef name => .packageRef (index (utf8 name))

theorem mem_closure_self (s : Symbol) : s ∈ s.closure := by
  cases s <;> exact List.mem_cons_self

/-- References end after two steps, except those of method handles. -/
theorem parts_eq_nil_of_mem_parts {s q t : Symbol}
    (hs : ∀ kind reference, s ≠ methodHandle kind reference) (hq : q ∈ s.parts) (ht : t ∈ q.parts) :
    t.parts = [] := by
  cases s with
  | methodHandle kind reference => exact absurd rfl (hs kind reference)
  | _ =>
    simp only [parts, List.mem_cons, List.not_mem_nil, or_false] at hq <;>
    rcases hq with rfl | rfl <;>
    simp only [parts, List.mem_cons, List.not_mem_nil, or_false] at ht <;>
    rcases ht with rfl | rfl <;>
    rfl

theorem closure_eq {s : Symbol} (hs : ∀ kind reference, s ≠ methodHandle kind reference) :
    s.closure = s :: (s.parts ++ s.parts.flatMap parts) := by
  cases s with
  | methodHandle kind reference => exact absurd rfl (hs kind reference)
  | _ => rfl

/-- What a part of a symbol refers to is a part of the symbol. -/
theorem parts_subset_closure {s t : Symbol} (h : t ∈ s.closure) :
    ∀ p ∈ t.parts, p ∈ s.closure := by
  induction s with
  | methodHandle kind reference ih =>
    intro p hp
    rcases List.mem_cons.mp h with rfl | h
    · rw [List.mem_singleton.mp hp]
      exact List.mem_cons_of_mem _ reference.mem_closure_self
    · exact List.mem_cons_of_mem _ (ih h p hp)
  | _ =>
    intro p hp
    rw [closure_eq (by simp)] at h ⊢
    rcases List.mem_cons.mp h with rfl | h
    · exact List.mem_cons_of_mem _ (List.mem_append_left _ hp)
    · rcases List.mem_append.mp h with h | h
      · exact List.mem_cons_of_mem _ (List.mem_append_right _ (List.mem_flatMap.mpr ⟨t, h, hp⟩))
      · obtain ⟨q, hq, ht⟩ := List.mem_flatMap.mp h
        rw [parts_eq_nil_of_mem_parts (by simp) hq ht] at hp
        cases hp

end Symbol

/-! ## Bytes of constants -/

namespace Constant

/-- The tag and the content of a constant; an unused slot takes no bytes. -/
def bytes : Constant → List UInt8
  | unused => []
  | utf8 text => 1 :: (Encoding.u2 (.ofNat text.utf8ByteSize) ++ text.toUTF8.data.toList)
  | integer bits => 3 :: Encoding.u4 bits
  | float bits => 4 :: Encoding.u4 bits
  | long high low => 5 :: (Encoding.u4 high ++ Encoding.u4 low)
  | double high low => 6 :: (Encoding.u4 high ++ Encoding.u4 low)
  | classRef name => 7 :: Encoding.u2 name
  | string text => 8 :: Encoding.u2 text
  | fieldRef owner pair => 9 :: (Encoding.u2 owner ++ Encoding.u2 pair)
  | methodRef owner pair => 10 :: (Encoding.u2 owner ++ Encoding.u2 pair)
  | interfaceMethodRef owner pair => 11 :: (Encoding.u2 owner ++ Encoding.u2 pair)
  | nameAndType name descriptor => 12 :: (Encoding.u2 name ++ Encoding.u2 descriptor)
  | methodHandle kind reference => 15 :: kind :: Encoding.u2 reference
  | methodType descriptor => 16 :: Encoding.u2 descriptor
  | dynamic bootstrap pair => 17 :: (Encoding.u2 bootstrap ++ Encoding.u2 pair)
  | invokeDynamic bootstrap pair => 18 :: (Encoding.u2 bootstrap ++ Encoding.u2 pair)
  | moduleRef name => 19 :: Encoding.u2 name
  | packageRef name => 20 :: Encoding.u2 name

/-- The constant can be written: it is not an unused slot, and the length of a text takes two bytes.
-/
def Writable : Constant → Prop
  | unused => False
  | utf8 text => text.utf8ByteSize < 0x10000
  | _ => True

instance : DecidablePred Writable
  | unused => .isFalse id
  | utf8 _ => inferInstanceAs (Decidable (_ < _))
  | integer _ | float _ | long _ _ | double _ _ | classRef _ | string _ | fieldRef _ _
  | methodRef _ _ | interfaceMethodRef _ _ | nameAndType _ _ | methodHandle _ _ | methodType _
  | dynamic _ _ | invokeDynamic _ _ | moduleRef _ | packageRef _ => .isTrue trivial

/-- The slots of a constant. -/
def slots (c : Constant) : List Constant := if c.isWide then [c, unused] else [c]

theorem decode_toUTF8 (text : String) :
    ClassFile.Text.decode text.toUTF8.data.toList = text := by
  have hbytes : (⟨text.toUTF8.data.toList.toArray⟩ : ByteArray) = text.toUTF8 := by
    rw [Array.toArray_toList]
  have hvalid : String.fromUTF8? text.toUTF8 = some text := dif_pos text.isValidUTF8
  unfold ClassFile.Text.decode
  rw [hbytes, hvalid]

open Reader in
theorem reads_readPair {f : UInt16 → UInt16 → Constant} (a b : UInt16) :
    Reads (readPair f) (Encoding.u2 a ++ Encoding.u2 b) (f a b) :=
  (Reads.u2 a).bind ((Reads.u2 b).map _)

open Reader in
/-- **A constant is read back from its bytes.** -/
theorem reads_bytes {c : Constant} (h : c.Writable) : Reads read c.bytes c := by
  -- After the tag there is one reader for each constructor.
  have htag {tag : UInt8} {content : List UInt8} (hc : Reads (readTagged tag) content c) :
      Reads read (tag :: content) c := (Reads.u1 tag).bind hc
  cases c with
  | unused => exact h.elim
  | utf8 text =>
    have hlength : (UInt16.ofNat text.utf8ByteSize).toNat = text.toUTF8.data.toList.length := by
      rw [UInt16.toNat_ofNat_of_lt' h]
      rfl
    have htake := Reads.take text.toUTF8.data.toList
    rw [← hlength] at htake
    have hread := htake.map fun bs => utf8 (ClassFile.Text.decode bs)
    rw [decode_toUTF8] at hread
    refine htag ?_
    exact (Reads.u2 (.ofNat text.utf8ByteSize)).bind hread
  | integer bits =>
    refine htag ?_
    exact (Reads.u4 bits).map _
  | float bits =>
    refine htag ?_
    exact (Reads.u4 bits).map _
  | long high low =>
    refine htag ?_
    exact (Reads.u4 high).bind ((Reads.u4 low).map _)
  | double high low =>
    refine htag ?_
    exact (Reads.u4 high).bind ((Reads.u4 low).map _)
  | classRef name =>
    refine htag ?_
    exact (Reads.u2 name).map _
  | string text =>
    refine htag ?_
    exact (Reads.u2 text).map _
  | fieldRef owner pair =>
    refine htag ?_
    exact reads_readPair owner pair
  | methodRef owner pair =>
    refine htag ?_
    exact reads_readPair owner pair
  | interfaceMethodRef owner pair =>
    refine htag ?_
    exact reads_readPair owner pair
  | nameAndType name descriptor =>
    refine htag ?_
    exact reads_readPair name descriptor
  | methodHandle kind reference =>
    refine htag ?_
    exact (Reads.u1 kind).bind ((Reads.u2 reference).map _)
  | methodType descriptor =>
    refine htag ?_
    exact (Reads.u2 descriptor).map _
  | dynamic bootstrap pair =>
    refine htag ?_
    exact reads_readPair bootstrap pair
  | invokeDynamic bootstrap pair =>
    refine htag ?_
    exact reads_readPair bootstrap pair
  | moduleRef name =>
    refine htag ?_
    exact (Reads.u2 name).map _
  | packageRef name =>
    refine htag ?_
    exact (Reads.u2 name).map _

open Reader in
theorem reads_readSlots_narrow {c : Constant} {bytes bytes' : List UInt8} {cs : List Constant}
    (hc : Reads read bytes c) (hw : c.isWide = false)
    (hcs : Reads (readSlots cs.length) bytes' cs) :
    Reads (readSlots (c :: cs).length) (bytes ++ bytes') (c :: cs) := by
  cases cs with
  | nil =>
    -- In the last slot no constant is asked for its width.
    intro rest
    have hnil : some (([] : List Constant), bytes' ++ []) = some ([], []) := hcs []
    obtain rfl : bytes' = [] := by simpa using hnil
    rw [List.append_nil]
    exact hc.map _ rest
  | cons d ds =>
    show Reads (readSlots (ds.length + 2)) _ _
    rw [readSlots]
    refine hc.bind ?_
    rw [if_neg (by simp [hw])]
    exact hcs.map _

open Reader in
/-- Constants are read back from their bytes, with an unused slot after each wide one. -/
theorem reads_readSlots {cs : List Constant} (h : ∀ c ∈ cs, c.Writable) :
    Reads (readSlots (cs.flatMap slots).length) (cs.flatMap bytes) (cs.flatMap slots) := by
  induction cs with
  | nil => exact Reads.pure []
  | cons c cs ih =>
    have hc := reads_bytes (h c List.mem_cons_self)
    have hcs := ih fun c hm => h c (List.mem_cons_of_mem _ hm)
    have hslots : (c :: cs).flatMap slots = c.slots ++ cs.flatMap slots := List.flatMap_cons
    rw [hslots, List.flatMap_cons]
    cases hw : c.isWide with
    | false =>
      rw [show c.slots = [c] from if_neg (by simp [hw])]
      exact reads_readSlots_narrow hc hw hcs
    | true =>
      rw [show c.slots = [c, unused] from if_pos hw]
      show Reads (readSlots ((cs.flatMap slots).length + 2)) _ _
      rw [readSlots]
      refine hc.bind ?_
      rw [if_pos hw]
      exact hcs.map _

end Constant

/-! ## Pools -/

namespace Symbol

/-- The number of slots that a symbol takes. -/
def width : Symbol → Nat
  | long _ _ | double _ _ => 2
  | _ => 1

/-- The number of slots before the first occurrence of a symbol. -/
def position : List Symbol → Symbol → Nat
  | [], _ => 0
  | t :: order, s => if t = s then 0 else t.width + position order s

/-- The index of a symbol in a pool. -/
def index (order : List Symbol) (s : Symbol) : UInt16 := .ofNat (1 + position order s)

/-- The constants of a pool. -/
def constants (order : List Symbol) : List Constant := order.map (constant (index order))

/-- The symbols make a constant pool: they have all their parts, and the number of slots and the
length of each text take two bytes. -/
structure IsPool (order : List Symbol) : Prop where
  parts_mem : ∀ s ∈ order, ∀ p ∈ s.parts, p ∈ order
  length_lt : 1 + ((constants order).flatMap Constant.slots).length < 0x10000
  writable : ∀ c ∈ constants order, c.Writable

theorem length_slots_constant (f : Symbol → UInt16) (s : Symbol) :
    (s.constant f).slots.length = s.width := by
  cases s with
  | methodRef ofInterface owner name descriptor => cases ofInterface <;> rfl
  | _ => rfl

theorem getElem?_slots_zero (c : Constant) (rest : List Constant) :
    (c.slots ++ rest)[0]? = some c := by
  unfold Constant.slots
  split <;> rfl

theorem getElem?_position {f : Symbol → UInt16} {order : List Symbol} {s : Symbol} (h : s ∈ order) :
    ((order.map (constant f)).flatMap Constant.slots)[position order s]? = some (s.constant f) := by
  induction order with
  | nil => cases h
  | cons t order ih =>
    rw [List.map_cons, List.flatMap_cons, position]
    by_cases hts : t = s
    · rw [if_pos hts, getElem?_slots_zero, hts]
    · rw [if_neg hts, List.getElem?_append_right (by simp [length_slots_constant]),
        length_slots_constant, Nat.add_sub_cancel_left]
      exact ih ((List.mem_cons.mp h).resolve_left (Ne.symm hts))

end Symbol

namespace Pool

open CallGraph.Symbol

/-- The constant pool of symbols. -/
def ofSymbols (order : List Symbol) : Pool :=
  ⟨(Constant.unused :: (constants order).flatMap Constant.slots).toArray⟩

/-- The bytes of the constant pool of symbols: the number of its slots and its constants. -/
def bytes (order : List Symbol) : List UInt8 :=
  Encoding.u2 (.ofNat (1 + ((constants order).flatMap Constant.slots).length)) ++
    (constants order).flatMap Constant.bytes

variable {order : List Symbol}

/-- **A constant pool is read back from its bytes.** -/
theorem reads_bytes (h : IsPool order) : Reader.Reads read (bytes order) (ofSymbols order) := by
  refine (Reader.Reads.u2 _).bind ?_
  rw [UInt16.toNat_ofNat_of_lt' h.length_lt, Nat.add_sub_cancel_left]
  exact (Constant.reads_readSlots h.writable).map _

theorem toNat_index (h : IsPool order) {s : Symbol} (hs : s ∈ order) :
    (s.index order).toNat = 1 + position order s := by
  have hlt := (List.getElem?_eq_some_iff.mp (getElem?_position (f := Symbol.index order) hs)).1
  have hfits : 1 + ((order.map (constant (Symbol.index order))).flatMap Constant.slots).length <
    0x10000 := h.length_lt
  exact UInt16.toNat_ofNat_of_lt' (show 1 + position order s < 0x10000 by omega)

/-- No symbol has the index that stands for nothing. -/
theorem index_ne_zero (h : IsPool order) {s : Symbol} (hs : s ∈ order) : s.index order ≠ 0 := by
  intro hz
  have hn := toNat_index h hs
  rw [hz, UInt16.toNat_zero] at hn
  omega

/-- **The index of a symbol leads to its constant.** -/
theorem get?_index (h : IsPool order) {s : Symbol} (hs : s ∈ order) :
    (ofSymbols order).get? (s.index order) = some (s.constant (Symbol.index order)) := by
  rw [get?, toNat_index h hs, ofSymbols, List.getElem?_toArray, Nat.add_comm,
    List.getElem?_cons_succ]
  exact getElem?_position hs

/-! ## Following indexes -/

theorem utf8_index (h : IsPool order) {text : String} (hs : .utf8 text ∈ order) :
    (ofSymbols order).utf8 ((Symbol.utf8 text).index order) = .ok text := by
  rw [utf8, get?_index h hs]
  rfl

theorem className_index (h : IsPool order) {type : ClassType} (hs : .classRef type ∈ order)
    (ht : type.WellFormed) :
    (ofSymbols order).className ((Symbol.classRef type).index order) = .ok type.name := by
  have htext := utf8_index h (h.parts_mem _ hs (.utf8 type.text) List.mem_cons_self)
  rw [className, get?_index h hs]
  simp only [constant, htext, bind, Except.bind, ClassType.ofConstant_text ht, Except.mapError]

theorem nameAndType_index (h : IsPool order) {name descriptor : String}
    (hs : .nameAndType name descriptor ∈ order) :
    (ofSymbols order).nameAndType ((Symbol.nameAndType name descriptor).index order) =
      .ok (name, descriptor) := by
  have hname := utf8_index h (h.parts_mem _ hs (.utf8 name) List.mem_cons_self)
  have hdescriptor := utf8_index h
    (h.parts_mem _ hs (.utf8 descriptor) (List.mem_cons_of_mem _ List.mem_cons_self))
  rw [nameAndType, get?_index h hs]
  simp only [constant, hname, hdescriptor, bind, Except.bind, Except.mapError, pure, Except.pure]

theorem methodRef_index (h : IsPool order) {ofInterface : Bool} {owner : ClassType} {name : String}
    {descriptor : MethodDescriptor} (hs : .methodRef ofInterface owner name descriptor ∈ order)
    (ho : owner.WellFormed) :
    (ofSymbols order).methodRef ((Symbol.methodRef ofInterface owner name descriptor).index order) =
      .ok ⟨owner.name, name, descriptor.string⟩ := by
  have howner := className_index h (h.parts_mem _ hs (.classRef owner) List.mem_cons_self) ho
  have hname := nameAndType_index h (h.parts_mem _ hs (.nameAndType name descriptor.string)
    (List.mem_cons_of_mem _ List.mem_cons_self))
  have hmember : (ofSymbols order).member ((Symbol.classRef owner).index order)
      ((Symbol.nameAndType name descriptor.string).index order) =
        .ok ⟨owner.name, name, descriptor.string⟩ := by
    rw [member, howner, hname]
    rfl
  rw [methodRef, get?_index h hs]
  cases ofInterface <;> exact hmember

theorem dynamicCall_index (h : IsPool order) {bootstrap : UInt16} {name : String}
    {descriptor : MethodDescriptor} (hs : .invokeDynamic bootstrap name descriptor ∈ order)
    (hd : descriptor.WellFormed) :
    (ofSymbols order).dynamicCall ((Symbol.invokeDynamic bootstrap name descriptor).index order) =
      .ok ⟨descriptor.result.sourceName, name, descriptor.parameters.map TypeDescriptor.sourceName,
        bootstrap⟩ := by
  have hname := nameAndType_index h
    (h.parts_mem _ hs (.nameAndType name descriptor.string) List.mem_cons_self)
  rw [dynamicCall, get?_index h hs]
  simp only [constant, hname, bind, Except.bind, MethodDescriptor.resultName_string hd,
    MethodDescriptor.argumentNames_string hd, Except.mapError, pure, Except.pure]

end Pool

/-! ## Well-formed symbols -/

namespace Symbol

/-- Class constants name classes or arrays, and what methods take and return has a descriptor. -/
def WellFormed : Symbol → Prop
  | classRef type => type.WellFormed
  | methodRef _ _ _ descriptor => descriptor.WellFormed
  | invokeDynamic _ _ descriptor => descriptor.WellFormed
  | _ => True

instance : DecidablePred WellFormed
  | classRef type => inferInstanceAs (Decidable type.WellFormed)
  | methodRef _ _ _ descriptor => inferInstanceAs (Decidable descriptor.WellFormed)
  | invokeDynamic _ _ descriptor => inferInstanceAs (Decidable descriptor.WellFormed)
  | utf8 _ | integer _ | float _ | long _ _ | double _ _ | string _ | fieldRef _ _ _
  | nameAndType _ _ | methodHandle _ _ | methodType _ | dynamic _ _ _ | moduleRef _
  | packageRef _ => .isTrue trivial

/-- A call of this kind can refer to the symbol. -/
def isCallee (kind : CallKind) : Symbol → Bool
  | methodRef _ _ _ _ => kind ≠ .dynamic
  | invokeDynamic _ _ _ => kind = .dynamic
  | _ => false

/-- The call site of a call that refers to the symbol. -/
def site (kind : CallKind) : Symbol → (offset : Nat) → CallSite
  | methodRef _ owner name descriptor, offset =>
    { owner := owner.name, name, arguments := descriptor.parameters.map TypeDescriptor.sourceName,
      kind, offset, bootstrap := none }
  | invokeDynamic bootstrap name descriptor, offset =>
    { owner := descriptor.result.sourceName, name,
      arguments := descriptor.parameters.map TypeDescriptor.sourceName,
      kind, offset, bootstrap := some bootstrap.toNat }
  | _, offset => { owner := "", name := "", arguments := [], kind, offset, bootstrap := none }

/-- What the symbol is as an argument of a bootstrap method. -/
def argument : Symbol → BootstrapArgument
  | methodHandle _ (methodRef _ owner name descriptor) =>
    .handle ⟨owner.name, name, some (descriptor.parameters.map TypeDescriptor.sourceName)⟩
  | methodHandle _ _ => .unresolved
  | _ => .other

variable {order : List Symbol}

theorem callSite_index (h : IsPool order) (hwf : ∀ s ∈ order, s.WellFormed) {kind : CallKind}
    {s : Symbol} (hs : s ∈ order) (hc : s.isCallee kind = true) (offset : Nat) :
    Bytecode.callSite (.ofSymbols order) offset kind (s.index order) = .ok (s.site kind offset) := by
  cases s with
  | methodRef ofInterface owner name descriptor =>
    have howner : owner.WellFormed :=
      hwf _ (h.parts_mem _ hs (.classRef owner) List.mem_cons_self)
    have hmethod := Pool.methodRef_index h hs howner
    have harguments := MethodDescriptor.argumentNames_string (hwf _ hs)
    have hkind : kind ≠ .dynamic := of_decide_eq_true hc
    unfold Bytecode.callSite
    cases kind with
    | dynamic => exact absurd rfl hkind
    | _ =>
      simp only [hmethod, harguments, bind, Except.bind, Except.mapError]
      rfl
  | invokeDynamic bootstrap name descriptor =>
    have hcall := Pool.dynamicCall_index h hs (hwf _ hs)
    obtain rfl : kind = .dynamic := of_decide_eq_true hc
    unfold Bytecode.callSite
    simp only [hcall, bind, Except.bind, Except.mapError]
    rfl
  | _ => cases hc

theorem bootstrapArgument_index (h : IsPool order) (hwf : ∀ s ∈ order, s.WellFormed)
    {s : Symbol} (hs : s ∈ order) :
    (Pool.ofSymbols order).bootstrapArgument (s.index order) = s.argument := by
  rw [Pool.bootstrapArgument, Pool.get?_index h hs]
  cases s with
  | methodHandle kind reference =>
    have hr : reference ∈ order := h.parts_mem _ hs reference List.mem_cons_self
    cases reference with
    | methodRef ofInterface owner name descriptor =>
      have howner : owner.WellFormed :=
        hwf _ (h.parts_mem _ hr (.classRef owner) List.mem_cons_self)
      have harguments := MethodDescriptor.argumentNames_string (hwf _ hr)
      simp only [constant, Pool.methodRef_index h hr howner, harguments]
      rfl
    | _ =>
      simp only [constant, Pool.methodRef, Pool.get?_index h hr]
      rfl
  | methodRef ofInterface owner name descriptor => cases ofInterface <;> rfl
  | _ => rfl

end Symbol

/-! ## Class constants -/

theorem mapM_eq_ok {α β ε : Type} {f : α → Except ε β} {g : α → β} {as : List α}
    (h : ∀ a ∈ as, f a = .ok (g a)) : as.mapM f = .ok (as.map g) := by
  induction as with
  | nil => rfl
  | cons a as ih =>
    rw [List.mapM_cons, h a List.mem_cons_self, ih fun a ha => h a (List.mem_cons_of_mem _ ha)]
    rfl

namespace Symbol

/-- What a class constant names. -/
def classType? : Symbol → Option ClassType
  | classRef type => some type
  | _ => none

/-- The name of the class that a class constant mentions, perhaps as the class of the elements. -/
def mentioned? (s : Symbol) : Option String := (s.classType?.bind ClassType.className?).map dotted

variable {order : List Symbol}

theorem classConstants_append (cs ds : List Constant) :
    ClassFile.classConstants ⟨(cs ++ ds).toArray⟩ =
      ClassFile.classConstants ⟨cs.toArray⟩ ++ ClassFile.classConstants ⟨ds.toArray⟩ :=
  List.filterMap_append

theorem classConstants_slots (f : Symbol → UInt16) (s : Symbol) :
    ClassFile.classConstants ⟨(s.constant f).slots.toArray⟩ =
      (s.classType?.map fun type => f (utf8 type.text)).toList := by
  cases s with
  | methodRef ofInterface owner name descriptor => cases ofInterface <;> rfl
  | _ => rfl

theorem classConstants_flatMap_slots (f : Symbol → UInt16) (order : List Symbol) :
    ClassFile.classConstants ⟨((order.map (constant f)).flatMap Constant.slots).toArray⟩ =
      (order.filterMap classType?).map fun type => f (utf8 type.text) := by
  induction order with
  | nil => rfl
  | cons s order ih =>
    rw [List.map_cons, List.flatMap_cons, classConstants_append, classConstants_slots, ih,
      List.filterMap_cons]
    cases s.classType? <;> rfl

theorem classConstants_ofSymbols (order : List Symbol) :
    ClassFile.classConstants (.ofSymbols order) =
      (order.filterMap classType?).map fun type => (utf8 type.text).index order :=
  (classConstants_append [.unused] _).trans (classConstants_flatMap_slots (index order) order)

theorem referenceName_index (h : IsPool order) {type : ClassType} (hs : .classRef type ∈ order)
    (ht : type.WellFormed) :
    ClassFile.referenceName (.ofSymbols order) ((utf8 type.text).index order) =
      .ok (type.className?.map dotted) := by
  have htext := Pool.utf8_index h (h.parts_mem _ hs (.utf8 type.text) List.mem_cons_self)
  unfold ClassFile.referenceName
  simp only [htext, Except.mapError, bind, Except.bind, ClassType.elementConstant?_text ht]
  cases hname : type.className? with
  | none => rfl
  | some name =>
    simp only [ClassType.ofConstant_of_not_bracket (ht.1 name hname)]
    rfl

/-- **The references of a class are the classes that its constants mention.** They are in ascending
order, each of them once, and without the class itself. -/
theorem references_ofSymbols (h : IsPool order) (hwf : ∀ s ∈ order, s.WellFormed) (own : String) :
    ClassFile.references (.ofSymbols order) own =
      .ok ((order.filterMap mentioned?).toFinset.erase own).sort := by
  let types := order.filterMap classType?
  have htypes : ∀ type ∈ types, .classRef type ∈ order := by
    intro type htype
    obtain ⟨s, hs, hst⟩ := List.mem_filterMap.mp htype
    cases s with
    | classRef type' => exact Option.some.inj hst ▸ hs
    | _ => cases hst
  have hnames : (ClassFile.classConstants (.ofSymbols order)).mapM
      (ClassFile.referenceName (.ofSymbols order)) =
        .ok (types.map fun type => type.className?.map dotted) := by
    rw [classConstants_ofSymbols, List.mapM_map]
    exact mapM_eq_ok fun type htype =>
      referenceName_index h (htypes type htype) (hwf _ (htypes type htype))
  have hmentioned : (types.map fun type => type.className?.map dotted).filterMap id =
      order.filterMap mentioned? := by
    rw [List.filterMap_map, List.filterMap_filterMap]
    refine List.filterMap_congr fun s _ => ?_
    unfold mentioned?
    cases s.classType? <;> rfl
  unfold ClassFile.references
  simp only [hnames, bind, Except.bind, hmentioned]
  refine congrArg Except.ok (List.Pairwise.eq_of_mem_iff (r := (· < ·)) ?_ ?_ fun name => ?_)
  · exact Std.ExtTreeSet.ordered_toList.imp fun hlt => compare_lt_iff_lt.mp hlt
  · exact (Finset.sortedLT_sort _).pairwise
  · rw [Std.ExtTreeSet.mem_toList, Std.ExtTreeSet.mem_erase, Std.ExtTreeSet.mem_ofList,
      Finset.mem_sort, Finset.mem_erase, List.mem_toFinset, List.contains_iff_mem, ne_eq,
      Std.compare_eq_iff_eq, ne_comm]

end Symbol

end CallGraph
