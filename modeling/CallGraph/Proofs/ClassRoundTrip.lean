import CallGraph.Proofs.Assembly
import CallGraph.Proofs.SymbolicPool
import Mathlib.Data.Nat.Bitwise

/-!
# Class files are read back

A class is described with names, descriptors and calls written out. Its class file refers to all of
them by their indexes in a constant pool, which may have its constants in any order.

* `ClassDescription.bytes` lays out the class file.
* `ClassDescription.toClass` is the class that the description stands for.
* `ClassDescription.ofBytes?_bytes`: the tables of the class file are read back.
* `ClassDescription.ofBytes_bytes`: so is the class, whatever the order of the pool.
-/

namespace CallGraph

open Assembly (Instr assemble listing)

/-! ## Descriptions -/

/-- The code of a method, with the first offset and the number of source lines. -/
structure CodeDescription where
  maxStack : UInt16
  maxLocals : UInt16
  program : List (Instr Symbol)
  lines : List (UInt16 × UInt16)

/-- A method. -/
structure MethodDescription where
  flags : UInt16
  name : String
  descriptor : MethodDescriptor
  code : Option CodeDescription
  visibleAnnotations : List AnnotationType
  invisibleAnnotations : List AnnotationType

/-- An entry of the bootstrap table. -/
structure BootstrapDescription where
  method : Symbol
  arguments : List Symbol

/-- A class; `further` are constants that nothing in the class refers to. -/
structure ClassDescription where
  minorVersion : UInt16
  majorVersion : UInt16
  flags : UInt16
  type : ClassType
  superType : Option ClassType
  interfaces : List ClassType
  further : List Symbol
  methods : List MethodDescription
  bootstrap : List BootstrapDescription

/-- An attribute of a method. -/
inductive MethodAttribute
  | code (code : CodeDescription)
  | annotations (visible : Bool) (types : List AnnotationType)

/-- One table with all entries, or none if there are no entries. -/
def tables {α : Type} (entries : List α) : List (List α) :=
  if entries.isEmpty then [] else [entries]

theorem tables_of_ne_nil {α : Type} {entries : List α} (h : entries ≠ []) :
    tables entries = [entries] :=
  if_neg (by simp [h])

theorem eq_of_mem_tables {α : Type} {entries table : List α} (h : table ∈ tables entries) :
    table = entries := by
  unfold tables at h
  split at h
  · cases h
  · exact List.mem_singleton.mp h

theorem length_tables_le {α : Type} (entries : List α) : (tables entries).length ≤ 1 := by
  unfold tables
  split <;> simp

/-- The attributes of a method. -/
def MethodDescription.attributes (m : MethodDescription) : List MethodAttribute :=
  m.code.toList.map .code ++ ((tables m.visibleAnnotations).map (.annotations true) ++
    (tables m.invisibleAnnotations).map (.annotations false))

theorem MethodDescription.length_attributes (m : MethodDescription) : m.attributes.length ≤ 3 := by
  have hcode : m.code.toList.length ≤ 1 := by cases m.code <;> simp
  have hvisible := length_tables_le m.visibleAnnotations
  have hinvisible := length_tables_le m.invisibleAnnotations
  simp only [attributes, List.length_append, List.length_map]
  omega

/-- The name of an attribute. -/
def MethodAttribute.name : MethodAttribute → String
  | code _ => "Code"
  | annotations true _ => "RuntimeVisibleAnnotations"
  | annotations false _ => "RuntimeInvisibleAnnotations"

/-! ## What descriptions stand for -/

namespace MethodDescription

/-- The flags of a method by the number of their bit. -/
def methodFlags (m : MethodDescription) : MethodFlags where
  isPublic := m.flags.toNat.testBit 0
  isProtected := m.flags.toNat.testBit 2
  isStatic := m.flags.toNat.testBit 3
  isNative := m.flags.toNat.testBit 8
  isAbstract := m.flags.toNat.testBit 10
  isSynthetic := m.flags.toNat.testBit 12

/-- The method that a description stands for. -/
def toMethod (m : MethodDescription) : Method where
  name := m.name
  arguments := m.descriptor.parameters.map TypeDescriptor.sourceName
  flags := m.methodFlags
  annotations := (m.visibleAnnotations ++ m.invisibleAnnotations).map AnnotationType.name
  lines := m.code.elim [] fun c =>
    (c.lines.map fun line => ⟨line.1.toNat, line.2.toNat⟩).mergeSort fun a b => a.start ≤ b.start
  instructions := m.code.elim [] fun c => listing Symbol.site 0 c.program

end MethodDescription

/-! ## Constants -/

/-- The symbols that an instruction refers to. -/
def Assembly.Instr.callees : Instr Symbol → List Symbol
  | call _ callee _ => [callee]
  | _ => []

/-- The symbols that code refers to. -/
def CodeDescription.symbols (c : CodeDescription) : List Symbol :=
  (tables c.lines).map (fun _ => .utf8 "LineNumberTable") ++ c.program.flatMap Instr.callees

/-- The symbols that an attribute refers to. -/
def MethodAttribute.symbols (a : MethodAttribute) : List Symbol :=
  .utf8 a.name :: match a with
    | code c => c.symbols
    | annotations _ types => types.map fun type => .utf8 type.text

/-- The symbols that a method refers to. -/
def MethodDescription.symbols (m : MethodDescription) : List Symbol :=
  .utf8 m.name :: .utf8 m.descriptor.string :: m.attributes.flatMap MethodAttribute.symbols

theorem MethodDescription.mem_symbols_of_attribute {m : MethodDescription} {a : MethodAttribute}
    (ha : a ∈ m.attributes) {s : Symbol} (hs : s ∈ a.symbols) : s ∈ m.symbols :=
  List.mem_cons_of_mem _ (List.mem_cons_of_mem _ (List.mem_flatMap.mpr ⟨a, ha, hs⟩))

/-- The symbols that an entry of the bootstrap table refers to. -/
def BootstrapDescription.symbols (b : BootstrapDescription) : List Symbol := b.method :: b.arguments

namespace ClassDescription

/-- The symbols that a class refers to. -/
def symbols (d : ClassDescription) : List Symbol :=
  .classRef d.type :: (d.superType.toList ++ d.interfaces).map .classRef ++
    (d.further ++ (d.methods.flatMap MethodDescription.symbols ++
      ((tables d.bootstrap).map (fun _ => .utf8 "BootstrapMethods") ++
        d.bootstrap.flatMap BootstrapDescription.symbols)))

variable {d : ClassDescription}

theorem mem_symbols_of_type {type : ClassType}
    (h : type = d.type ∨ type ∈ d.superType ∨ type ∈ d.interfaces) :
    .classRef type ∈ d.symbols := by
  refine List.mem_append_left _ ?_
  rcases h with rfl | h
  · exact List.mem_cons_self
  · refine List.mem_cons_of_mem _ (List.mem_map.mpr ⟨type, ?_, rfl⟩)
    rw [List.mem_append, Option.mem_toList]
    exact h

theorem mem_symbols_of_method {m : MethodDescription} (hm : m ∈ d.methods) {s : Symbol}
    (hs : s ∈ m.symbols) : s ∈ d.symbols :=
  List.mem_append_right _ (List.mem_append_right _ (List.mem_append_left _
    (List.mem_flatMap.mpr ⟨m, hm, hs⟩)))

theorem mem_symbols_of_tables {entries : List BootstrapDescription}
    (h : entries ∈ tables d.bootstrap) : .utf8 "BootstrapMethods" ∈ d.symbols :=
  List.mem_append_right _ (List.mem_append_right _ (List.mem_append_right _
    (List.mem_append_left _ (List.mem_map.mpr ⟨entries, h, rfl⟩))))

theorem mem_symbols_of_entry {entry : BootstrapDescription} (h : entry ∈ d.bootstrap) {s : Symbol}
    (hs : s ∈ entry.symbols) : s ∈ d.symbols :=
  List.mem_append_right _ (List.mem_append_right _ (List.mem_append_right _
    (List.mem_append_right _ (List.mem_flatMap.mpr ⟨entry, h, hs⟩))))

/-- The constants of a class: the symbols it refers to and all their parts. -/
def constants (d : ClassDescription) : List Symbol := d.symbols.flatMap Symbol.closure

/-- The class that a description stands for. -/
def toClass (d : ClassDescription) : Class where
  name := d.type.name
  superName := d.superType.map ClassType.name
  interfaces := d.interfaces.map ClassType.name
  isInterface := d.flags.toNat.testBit 9
  isAbstract := d.flags.toNat.testBit 10
  references := ((d.constants.filterMap Symbol.mentioned?).toFinset.erase d.type.name).sort
  methods := d.methods.map MethodDescription.toMethod
  bootstrap := d.bootstrap.map fun entry => entry.arguments.map Symbol.argument

end ClassDescription

/-! ## Layout -/

/-- An attribute: its name, its length and its content. -/
def attributeBytes (index : Symbol → UInt16) (name : String) (content : List UInt8) : List UInt8 :=
  Encoding.u2 (index (.utf8 name)) ++ (Encoding.u4 (.ofNat content.length) ++ content)

/-- A line number table. -/
def lineTableBytes (index : Symbol → UInt16) (lines : List (UInt16 × UInt16)) : List UInt8 :=
  attributeBytes index "LineNumberTable"
    (Encoding.table (fun line => Encoding.u2 line.1 ++ Encoding.u2 line.2) lines)

/-- The content of a code attribute, with no exception handlers. -/
def CodeDescription.bytes (index : Symbol → UInt16) (c : CodeDescription) : List UInt8 :=
  let code := assemble index 0 c.program
  (Encoding.u2 c.maxStack ++ Encoding.u2 c.maxLocals) ++ (Encoding.u4 (.ofNat code.length) ++
    (code ++ (Encoding.u2 0 ++ Encoding.table (lineTableBytes index) (tables c.lines))))

/-- The content of an attribute. An annotation is its type and the number of its elements. -/
def MethodAttribute.content (index : Symbol → UInt16) : MethodAttribute → List UInt8
  | code c => c.bytes index
  | annotations _ types =>
    Encoding.table (fun type => Encoding.u2 (index (.utf8 type.text)) ++ Encoding.u2 0) types

/-- An attribute of a method. -/
def MethodAttribute.bytes (index : Symbol → UInt16) (a : MethodAttribute) : List UInt8 :=
  attributeBytes index a.name (a.content index)

/-- A method. -/
def MethodDescription.bytes (index : Symbol → UInt16) (m : MethodDescription) : List UInt8 :=
  Encoding.u2 m.flags ++ (Encoding.u2 (index (.utf8 m.name)) ++
    (Encoding.u2 (index (.utf8 m.descriptor.string)) ++
      Encoding.table (MethodAttribute.bytes index) m.attributes))

/-- A bootstrap table. -/
def bootstrapTableBytes (index : Symbol → UInt16) (entries : List BootstrapDescription) :
    List UInt8 :=
  attributeBytes index "BootstrapMethods" (Encoding.table (fun entry =>
    Encoding.u2 (index entry.method) ++
      Encoding.table (fun argument => Encoding.u2 (index argument)) entry.arguments) entries)

/-- The class file of a class whose constant pool has its constants in the given order. There are no
fields. -/
def ClassDescription.bytes (d : ClassDescription) (order : List Symbol) : List UInt8 :=
  let index := Symbol.index order
  Encoding.u4 0xCAFEBABE ++ ((Encoding.u2 d.minorVersion ++ Encoding.u2 d.majorVersion) ++
    (Pool.bytes order ++ (Encoding.u2 d.flags ++ (Encoding.u2 (index (.classRef d.type)) ++
      (Encoding.u2 (d.superType.elim 0 fun type => index (.classRef type)) ++
        (Encoding.table (fun type => Encoding.u2 (index (.classRef type))) d.interfaces ++
          (Encoding.u2 0 ++ (Encoding.table (MethodDescription.bytes index) d.methods ++
            Encoding.table (bootstrapTableBytes index) (tables d.bootstrap)))))))))

/-! ## Conditions -/

/-- The operands of the instruction fit its opcode, and a call refers to what it can call. -/
def Assembly.Instr.IsLinked (i : Instr Symbol) : Prop :=
  i.WellFormed ∧ match i with
    | call kind callee _ => callee.isCallee kind = true
    | _ => True

/-- The instructions or the annotation types can be laid out. -/
def MethodAttribute.WellFormed : MethodAttribute → Prop
  | code c => ∀ i ∈ c.program, i.IsLinked
  | annotations _ types => ∀ type ∈ types, type.WellFormed

/-- The descriptor and the attributes of the method can be laid out. -/
structure MethodDescription.WellFormed (m : MethodDescription) : Prop where
  descriptor : m.descriptor.WellFormed
  attributes : ∀ a ∈ m.attributes, a.WellFormed

/-- The constants and the methods of the class can be laid out. -/
structure ClassDescription.WellFormed (d : ClassDescription) : Prop where
  constants : ∀ s ∈ d.constants, s.WellFormed
  methods : ∀ m ∈ d.methods, m.WellFormed

/-- The length of the code takes four bytes and the number of its lines two. -/
structure CodeDescription.Fits (c : CodeDescription) (order : List Symbol) : Prop where
  program : (assemble (Symbol.index order) 0 c.program).length < 0x100000000
  lines : c.lines.length < 0x10000

/-- The code fits, or the number of annotations takes two bytes. -/
def MethodAttribute.Fits (a : MethodAttribute) (order : List Symbol) : Prop :=
  match a with
  | code c => c.Fits order
  | annotations _ types => types.length < 0x10000

/-- The number of slots, the lengths of texts and all counts take two bytes each. -/
structure ClassDescription.Fits (d : ClassDescription) (order : List Symbol) : Prop where
  slots : 1 + ((Symbol.constants order).flatMap Constant.slots).length < 0x10000
  texts : ∀ c ∈ Symbol.constants order, c.Writable
  interfaces : d.interfaces.length < 0x10000
  methods : d.methods.length < 0x10000
  attributes : ∀ m ∈ d.methods, ∀ a ∈ m.attributes, a.Fits order
  bootstrap : d.bootstrap.length < 0x10000
  arguments : ∀ entry ∈ d.bootstrap, entry.arguments.length < 0x10000

instance (i : Instr Symbol) : Decidable i.IsLinked :=
  match i with
  | .call _ _ _ => inferInstanceAs (Decidable (_ ∧ _ = true))
  | .simple _ _ | .tableSwitch _ _ _ _ _ | .lookupSwitch _ _ _ | .wide _ _ =>
    inferInstanceAs (Decidable (_ ∧ True))

instance : DecidablePred MethodAttribute.WellFormed
  | .code c => inferInstanceAs (Decidable (∀ i ∈ c.program, i.IsLinked))
  | .annotations _ types => inferInstanceAs (Decidable (∀ type ∈ types, type.WellFormed))

instance (m : MethodDescription) : Decidable m.WellFormed :=
  decidable_of_iff (_ ∧ _) ⟨fun h => ⟨h.1, h.2⟩, fun h => ⟨h.1, h.2⟩⟩

instance (d : ClassDescription) : Decidable d.WellFormed :=
  decidable_of_iff (_ ∧ _) ⟨fun h => ⟨h.1, h.2⟩, fun h => ⟨h.1, h.2⟩⟩

instance (c : CodeDescription) (order : List Symbol) : Decidable (c.Fits order) :=
  decidable_of_iff (_ ∧ _) ⟨fun h => ⟨h.1, h.2⟩, fun h => ⟨h.1, h.2⟩⟩

instance (a : MethodAttribute) (order : List Symbol) : Decidable (a.Fits order) :=
  match a with
  | .code c => inferInstanceAs (Decidable (c.Fits order))
  | .annotations _ _ => inferInstanceAs (Decidable (_ < _))

instance (d : ClassDescription) (order : List Symbol) : Decidable (d.Fits order) :=
  decidable_of_iff (_ ∧ _ ∧ _ ∧ _ ∧ _ ∧ _ ∧ _)
    ⟨fun ⟨a, b, c, e, f, g, h⟩ => ⟨a, b, c, e, f, g, h⟩,
      fun ⟨a, b, c, e, f, g, h⟩ => ⟨a, b, c, e, f, g, h⟩⟩

/-! ## Reading -/

/-- The line number table that is read. -/
def lineTable (lines : List (UInt16 × UInt16)) : Attribute :=
  .lineNumbers (lines.map fun line => ⟨line.1.toNat, line.2.toNat⟩)

/-- The attribute of a method that is read. -/
def MethodAttribute.attribute (index : Symbol → UInt16) : MethodAttribute → Attribute
  | code c => .code (assemble index 0 c.program) ((tables c.lines).map lineTable)
  | annotations _ types => .annotations (types.map fun type => index (.utf8 type.text))

/-- The method that is read. -/
def MethodDescription.info (index : Symbol → UInt16) (m : MethodDescription) : MethodInfo :=
  ⟨m.flags, index (.utf8 m.name), index (.utf8 m.descriptor.string),
    m.attributes.map (MethodAttribute.attribute index)⟩

/-- The bootstrap table that is read. -/
def bootstrapTable (index : Symbol → UInt16) (entries : List BootstrapDescription) : Attribute :=
  .bootstrapMethods (entries.map fun entry => ⟨index entry.method, entry.arguments.map index⟩)

/-- The class file that is read. -/
def ClassDescription.file (d : ClassDescription) (order : List Symbol) : ClassFile where
  pool := .ofSymbols order
  flags := d.flags
  thisClass := Symbol.index order (.classRef d.type)
  superClass := d.superType.elim 0 fun type => Symbol.index order (.classRef type)
  interfaces := d.interfaces.map fun type => Symbol.index order (.classRef type)
  methods := d.methods.map (MethodDescription.info (Symbol.index order))
  attributes := (tables d.bootstrap).map (bootstrapTable (Symbol.index order))

section Reading

open Reader

variable {order : List Symbol} (h : Symbol.IsPool order)

include h

/-- An attribute is read by its name. -/
theorem reads_attribute {name : String} {content : List UInt8} {depth : Nat} {a : Attribute}
    (hname : .utf8 name ∈ order)
    (hcontent : Reads (Attribute.readNamed (Attribute.read (.ofSymbols order) depth) depth name
      (UInt32.ofNat content.length).toNat) content a) :
    Reads (Attribute.read (.ofSymbols order) (depth + 1))
      (attributeBytes (Symbol.index order) name content) a := by
  refine (Reads.u2 _).bind ((Reads.u4 _).bind ?_)
  rw [Pool.get?_index h hname]
  exact hcontent

theorem reads_lineTable {lines : List (UInt16 × UInt16)} {depth : Nat}
    (hname : .utf8 "LineNumberTable" ∈ order) (hn : lines.length < 0x10000) :
    Reads (Attribute.read (.ofSymbols order) (depth + 1))
      (lineTableBytes (Symbol.index order) lines) (lineTable lines) := by
  refine reads_attribute h hname ?_
  refine (Reads.counted hn fun line _ => ?_).map Attribute.lineNumbers
  exact (Reads.u2 line.1).bind ((Reads.u2 line.2).map _)

theorem reads_code {c : CodeDescription} {depth : Nat} (hsymbols : ∀ s ∈ c.symbols, s ∈ order)
    (hfits : c.Fits order) :
    Reads (Attribute.readCode (Attribute.read (.ofSymbols order) (depth + 1)))
      (c.bytes (Symbol.index order)) ((MethodAttribute.code c).attribute (Symbol.index order)) := by
  have hnested : Reads (counted (Attribute.read (.ofSymbols order) (depth + 1)))
      (Encoding.table (lineTableBytes (Symbol.index order)) (tables c.lines))
      ((tables c.lines).map lineTable) := by
    have hcount : (tables c.lines).length < 0x10000 :=
      Nat.lt_of_le_of_lt (length_tables_le _) (by decide)
    refine Reads.counted hcount fun lines hlines => ?_
    have hname := hsymbols _ (List.mem_append_left _ (List.mem_map.mpr ⟨lines, hlines, rfl⟩))
    obtain rfl := eq_of_mem_tables hlines
    exact reads_lineTable h hname hfits.lines
  have htake := Reads.take (assemble (Symbol.index order) 0 c.program)
  rw [← UInt32.toNat_ofNat_of_lt' hfits.program] at htake
  refine (Reads.skip (Encoding.u2 c.maxStack ++ Encoding.u2 c.maxLocals)).bind ?_
  exact (Reads.u4 _).bind (htake.bind ((Reads.skipRows 8).bind (hnested.map _)))

omit h in
theorem reads_annotations {types : List AnnotationType} (hn : types.length < 0x10000) (depth : Nat)
    (index : Symbol → UInt16) :
    Reads (Attribute.readAnnotations depth)
      ((MethodAttribute.annotations true types).content index)
      (types.map fun type => index (.utf8 type.text)) := by
  refine Reads.counted hn fun type _ => ?_
  -- An annotation without elements: the depth of values does not matter.
  exact (Reads.u2 _).bind ((Reads.counted_zero _).map _)

/-- An attribute of a method is read back. -/
theorem reads_methodAttribute {a : MethodAttribute} {depth : Nat}
    (hsymbols : ∀ s ∈ a.symbols, s ∈ order) (hfits : a.Fits order) :
    Reads (Attribute.read (.ofSymbols order) (depth + 2)) (a.bytes (Symbol.index order))
      (a.attribute (Symbol.index order)) := by
  refine reads_attribute h (hsymbols _ List.mem_cons_self) ?_
  cases a with
  | code c => exact reads_code h (fun s hs => hsymbols s (List.mem_cons_of_mem _ hs)) hfits
  | annotations visible types =>
    have hread :=
      (reads_annotations hfits (depth + 1) (Symbol.index order)).map Attribute.annotations
    cases visible with
    | true =>
      refine Reads.atLeast ?_ hread
      rw [UInt32.toNat_ofNat']
      exact Nat.mod_le _ _
    | false => exact hread

/-- A method is read back. -/
theorem reads_method {m : MethodDescription} {depth : Nat} (hsymbols : ∀ s ∈ m.symbols, s ∈ order)
    (hfits : ∀ a ∈ m.attributes, a.Fits order) :
    Reads (ClassFile.readMember (.ofSymbols order) (depth + 2)) (m.bytes (Symbol.index order))
      (m.info (Symbol.index order)) := by
  have hattribute : ∀ a ∈ m.attributes, Reads (Attribute.read (.ofSymbols order) (depth + 2))
      (a.bytes (Symbol.index order)) (a.attribute (Symbol.index order)) := fun a ha =>
    reads_methodAttribute h
      (fun s hs => hsymbols s (MethodDescription.mem_symbols_of_attribute ha hs)) (hfits a ha)
  have hcount : m.attributes.length < 0x10000 := Nat.lt_of_le_of_lt m.length_attributes (by decide)
  exact (Reads.u2 _).bind ((Reads.u2 _).bind ((Reads.u2 _).bind
    ((Reads.counted hcount hattribute).map _)))

theorem reads_bootstrapTable {entries : List BootstrapDescription} {depth : Nat}
    (hname : .utf8 "BootstrapMethods" ∈ order) (hn : entries.length < 0x10000)
    (harguments : ∀ entry ∈ entries, entry.arguments.length < 0x10000) :
    Reads (Attribute.read (.ofSymbols order) (depth + 1))
      (bootstrapTableBytes (Symbol.index order) entries)
      (bootstrapTable (Symbol.index order) entries) := by
  refine reads_attribute h hname ?_
  refine (Reads.counted hn fun entry hentry => ?_).map Attribute.bootstrapMethods
  refine (Reads.u2 _).bind (Reads.map ?_ _)
  exact Reads.counted (harguments entry hentry) fun argument _ => Reads.u2 _

/-- **The tables of a class file are read back.** -/
theorem ClassDescription.reads_bytes {d : ClassDescription} {depth : Nat}
    (hsymbols : ∀ s ∈ d.symbols, s ∈ order) (hfits : d.Fits order) :
    Reads (ClassFile.reader (depth + 2)) (d.bytes order) (d.file order) := by
  have hmethods : ∀ m ∈ d.methods, Reads (ClassFile.readMember (.ofSymbols order) (depth + 2))
      (m.bytes (Symbol.index order)) (m.info (Symbol.index order)) := by
    intro m hm
    exact reads_method h (fun s hs => hsymbols s (mem_symbols_of_method hm hs))
      (hfits.attributes m hm)
  have htables : ∀ entries ∈ tables d.bootstrap,
      Reads (Attribute.read (.ofSymbols order) (depth + 2))
        (bootstrapTableBytes (Symbol.index order) entries)
        (bootstrapTable (Symbol.index order) entries) := by
    intro entries hentries
    have hname := hsymbols _ (mem_symbols_of_tables hentries)
    obtain rfl := eq_of_mem_tables hentries
    exact reads_bootstrapTable h hname hfits.bootstrap hfits.arguments
  have hcount : (tables d.bootstrap).length < 0x10000 :=
    Nat.lt_of_le_of_lt (length_tables_le _) (by decide)
  refine (Reads.u4 _).bind ?_
  rw [if_neg (by simp [ClassFile.magic])]
  refine (Reads.skip (Encoding.u2 d.minorVersion ++ Encoding.u2 d.majorVersion)).bind ?_
  refine (Pool.reads_bytes h).bind ?_
  refine (Reads.u2 _).bind ((Reads.u2 _).bind ((Reads.u2 _).bind ?_))
  refine (Reads.counted hfits.interfaces fun type _ => Reads.u2 _).bind ?_
  refine (Reads.counted_zero _).bind ?_
  refine (Reads.counted hfits.methods hmethods).bind ?_
  exact (Reads.counted hcount htables).map _

end Reading

/-! ## Resolving -/

theorem hasFlag_eq_testBit (flags : UInt16) {bit : UInt16} {k : Nat} (hbit : bit.toNat = 1 <<< k) :
    hasFlag flags bit = flags.toNat.testBit k := by
  have hand : (flags &&& bit).toNat = (flags.toNat.testBit k).toNat * 1 <<< k := by
    rw [UInt16.toNat_and, hbit, Nat.one_shiftLeft, Nat.and_two_pow]
  have hpos : 1 <<< k ≠ 0 := by
    rw [Nat.one_shiftLeft]
    exact (Nat.two_pow_pos k).ne'
  unfold hasFlag
  rw [Bool.eq_iff_iff, bne_iff_ne, ne_eq, ← UInt16.toNat_inj, hand, UInt16.toNat_zero]
  cases flags.toNat.testBit k <;> simp [hpos]

namespace MethodDescription

theorem annotationTypes_attributes (index : Symbol → UInt16) (m : MethodDescription) :
    Attribute.annotationTypes (m.attributes.map (MethodAttribute.attribute index)) =
      (m.visibleAnnotations ++ m.invisibleAnnotations).map fun type => index (.utf8 type.text) := by
  have happend (as bs : List Attribute) : Attribute.annotationTypes (as ++ bs) =
      Attribute.annotationTypes as ++ Attribute.annotationTypes bs := List.flatMap_append
  have hcode : Attribute.annotationTypes
      ((m.code.toList.map .code).map (MethodAttribute.attribute index)) = [] := by
    cases m.code <;> rfl
  have htables (visible : Bool) (types : List AnnotationType) : Attribute.annotationTypes
      (((tables types).map (.annotations visible)).map (MethodAttribute.attribute index)) =
        types.map fun type => index (.utf8 type.text) := by
    cases types with
    | nil => rfl
    | cons type types => exact List.append_nil _
  rw [attributes, List.map_append, List.map_append, happend, happend, hcode, htables, htables,
    List.nil_append, List.map_append]

theorem code?_attributes (index : Symbol → UInt16) (m : MethodDescription) :
    Attribute.code? (m.attributes.map (MethodAttribute.attribute index)) =
      m.code.map fun c => (assemble index 0 c.program, (tables c.lines).map lineTable) := by
  unfold attributes
  cases m.code with
  | some c => rfl
  | none =>
    -- There are only annotations to look through.
    cases m.visibleAnnotations <;> cases m.invisibleAnnotations <;> rfl

theorem lineEntries_tables (lines : List (UInt16 × UInt16)) :
    Attribute.lineEntries ((tables lines).map lineTable) =
      lines.map fun line => ⟨line.1.toNat, line.2.toNat⟩ := by
  cases lines with
  | nil => rfl
  | cons line lines => exact List.append_nil _

variable {order : List Symbol} {m : MethodDescription}

/-- The code of a method is cut into the instructions it was laid out from. -/
theorem instructions_assemble (h : Symbol.IsPool order) (hwf : ∀ s ∈ order, s.WellFormed)
    {program : List (Instr Symbol)} (hprogram : ∀ i ∈ program, i.IsLinked)
    (hcallees : ∀ s ∈ program.flatMap Instr.callees, s ∈ order) :
    Bytecode.instructions (.ofSymbols order) (assemble (Symbol.index order) 0 program) =
      .ok (listing Symbol.site 0 program) := by
  refine Assembly.instructionsFrom_assemble (fun i hi => (hprogram i hi).1) ?_ 0
  intro kind callee spare hi offset
  have hcallee : callee ∈ order :=
    hcallees callee (List.mem_flatMap.mpr ⟨_, hi, List.mem_singleton_self callee⟩)
  exact Symbol.callSite_index h hwf hcallee (hprogram _ hi).2 offset

/-- The code and the lines of a method are resolved. -/
theorem body_attributes (h : Symbol.IsPool order) (hwf : ∀ s ∈ order, s.WellFormed)
    (hm : ∀ a ∈ m.attributes, a.WellFormed) (hsymbols : ∀ s ∈ m.symbols, s ∈ order) :
    MethodInfo.body (.ofSymbols order)
        (m.attributes.map (MethodAttribute.attribute (Symbol.index order))) =
      .ok (m.toMethod.lines, m.toMethod.instructions) := by
  unfold MethodInfo.body
  rw [code?_attributes]
  cases hc : m.code with
  | none => simp only [Option.map_none, toMethod, hc, Option.elim_none]
  | some c =>
    have hmem : MethodAttribute.code c ∈ m.attributes := by
      unfold attributes
      simp [hc]
    have hinstructions := instructions_assemble h hwf (hm _ hmem) fun s hs => hsymbols s
      (mem_symbols_of_attribute hmem (List.mem_cons_of_mem _ (List.mem_append_right _ hs)))
    simp only [Option.map_some, hinstructions, lineEntries_tables, toMethod, hc, Option.elim_some,
      bind, Except.bind]
    rfl

/-- **A method is resolved to what its description says.** -/
theorem decode_info (h : Symbol.IsPool order) (hwf : ∀ s ∈ order, s.WellFormed)
    (hm : m.WellFormed) (hsymbols : ∀ s ∈ m.symbols, s ∈ order) :
    MethodInfo.decode (.ofSymbols order) (m.info (Symbol.index order)) = .ok m.toMethod := by
  have hname := Pool.utf8_index h (hsymbols (.utf8 m.name) List.mem_cons_self)
  have hdescriptor := Pool.utf8_index h (hsymbols (.utf8 m.descriptor.string)
    (List.mem_cons_of_mem _ List.mem_cons_self))
  have harguments := MethodDescriptor.argumentNames_string hm.descriptor
  have hannotation (visible : Bool) {types : List AnnotationType} {type : AnnotationType}
      (ha : .annotations visible types ∈ m.attributes) (htype : type ∈ types) :
      MethodInfo.annotationName (.ofSymbols order) (Symbol.index order (.utf8 type.text)) =
        .ok type.name := by
    have htext : .utf8 type.text ∈ order := hsymbols _ (mem_symbols_of_attribute ha
      (List.mem_cons_of_mem _ (List.mem_map.mpr ⟨type, htype, rfl⟩)))
    rw [MethodInfo.annotationName, Pool.utf8_index h htext]
    exact congrArg Except.ok (AnnotationType.ofTypeDescriptor_text (hm.attributes _ ha type htype))
  have hannotations : (Attribute.annotationTypes
      (m.attributes.map (MethodAttribute.attribute (Symbol.index order)))).mapM
        (MethodInfo.annotationName (.ofSymbols order)) = .ok m.toMethod.annotations := by
    rw [annotationTypes_attributes, List.mapM_map]
    refine mapM_eq_ok fun type htype => ?_
    rcases List.mem_append.mp htype with htype | htype
    · refine hannotation true ?_ htype
      rw [attributes, tables_of_ne_nil (List.ne_nil_of_mem htype)]
      simp
    · refine hannotation false ?_ htype
      rw [attributes, tables_of_ne_nil (List.ne_nil_of_mem htype)]
      simp
  have hbody := body_attributes h hwf hm.attributes hsymbols
  have hflags : MethodFlags.ofBits m.flags = m.methodFlags := by
    unfold MethodFlags.ofBits methodFlags
    simp only [hasFlag_eq_testBit m.flags (show (0x0001 : UInt16).toNat = 1 <<< 0 from rfl),
      hasFlag_eq_testBit m.flags (show (0x0004 : UInt16).toNat = 1 <<< 2 from rfl),
      hasFlag_eq_testBit m.flags (show (0x0008 : UInt16).toNat = 1 <<< 3 from rfl),
      hasFlag_eq_testBit m.flags (show (0x0100 : UInt16).toNat = 1 <<< 8 from rfl),
      hasFlag_eq_testBit m.flags (show (0x0400 : UInt16).toNat = 1 <<< 10 from rfl),
      hasFlag_eq_testBit m.flags (show (0x1000 : UInt16).toNat = 1 <<< 12 from rfl)]
  unfold MethodInfo.decode
  simp only [info, hname, hdescriptor, harguments, hannotations, hbody, hflags, Except.mapError, bind,
    Except.bind]
  rfl

end MethodDescription

namespace ClassDescription

variable {order : List Symbol} {d : ClassDescription}

theorem mem_constants_of_mem_symbols {s : Symbol} (hs : s ∈ d.symbols) : s ∈ d.constants :=
  List.mem_flatMap.mpr ⟨s, hs, s.mem_closure_self⟩

/-- The constants of a class make a pool in any order. -/
theorem isPool (hmem : ∀ s, s ∈ order ↔ s ∈ d.constants) (hfits : d.Fits order) :
    Symbol.IsPool order where
  parts_mem := by
    intro s hs p hp
    rw [hmem] at hs ⊢
    obtain ⟨root, hroot, hs⟩ := List.mem_flatMap.mp hs
    exact List.mem_flatMap.mpr ⟨root, hroot, Symbol.parts_subset_closure hs p hp⟩
  length_lt := hfits.slots
  writable := hfits.texts

/-- **The tables of a class file are read back from its bytes.** -/
theorem ofBytes?_bytes (hmem : ∀ s, s ∈ order ↔ s ∈ d.constants) (hfits : d.Fits order) :
    ClassFile.ofBytes? (d.bytes order) = some (d.file order) := by
  have hsymbols : ∀ s ∈ d.symbols, s ∈ order := fun s hs =>
    (hmem s).mpr (mem_constants_of_mem_symbols hs)
  -- The number of bytes bounds the depth of attributes, which is at most two.
  have hlength : 4 ≤ (d.bytes order).length := by
    rw [bytes, List.length_append, Encoding.length_u4]
    exact Nat.le_add_right _ _
  obtain ⟨depth, hdepth⟩ := Nat.exists_eq_add_of_le' (Nat.le_trans (by decide : 2 ≤ 4) hlength)
  have hread : (ClassFile.reader (depth + 2)).run (d.bytes order ++ []) = some (d.file order, []) :=
    reads_bytes (isPool hmem hfits) hsymbols hfits []
  rw [List.append_nil, ← hdepth] at hread
  unfold ClassFile.ofBytes?
  rw [hread]

/-- The names and flags of a class are resolved. -/
theorem header_file (h : Symbol.IsPool order) (hmem : ∀ s, s ∈ order ↔ s ∈ d.constants)
    (hwf : ∀ s ∈ order, s.WellFormed) :
    (d.file order).header = .ok ⟨d.toClass.name, d.toClass.superName, d.toClass.interfaces,
      d.toClass.isInterface, d.toClass.isAbstract, d.toClass.references⟩ := by
  have hclass {type : ClassType} (ht : type = d.type ∨ type ∈ d.superType ∨ type ∈ d.interfaces) :
      .classRef type ∈ order ∧ (Pool.ofSymbols order).className
        (Symbol.index order (.classRef type)) = .ok type.name := by
    have hs := (hmem _).mpr (mem_constants_of_mem_symbols (mem_symbols_of_type ht))
    exact ⟨hs, Pool.className_index h hs (hwf _ hs)⟩
  have hname : (d.file order).pool.className (d.file order).thisClass = .ok d.type.name :=
    (hclass (.inl rfl)).2
  have hsuper : (d.file order).superName = .ok (d.superType.map ClassType.name) := by
    unfold ClassFile.superName file
    cases hst : d.superType with
    | none => rfl
    | some type =>
      obtain ⟨hs, htype⟩ := hclass (.inr (.inl hst))
      simp only [Option.elim_some, if_neg (Pool.index_ne_zero h hs), htype]
      rfl
  have hinterfaces : (d.file order).interfaces.mapM (d.file order).pool.className =
      .ok (d.interfaces.map ClassType.name) := by
    rw [file, List.mapM_map]
    exact mapM_eq_ok fun type htype => (hclass (.inr (.inr htype))).2
  have hreferences : ClassFile.references (d.file order).pool d.type.name =
      .ok d.toClass.references := by
    -- The order of the pool is lost in the set of what its constants mention.
    have hset : (order.filterMap Symbol.mentioned?).toFinset =
        (d.constants.filterMap Symbol.mentioned?).toFinset := by
      ext name
      simp only [List.mem_toFinset, List.mem_filterMap, hmem]
    rw [toClass, ← hset]
    exact Symbol.references_ofSymbols h hwf d.type.name
  have hinterface : hasFlag (d.file order).flags 0x0200 = d.flags.toNat.testBit 9 :=
    hasFlag_eq_testBit d.flags rfl
  have habstract : hasFlag (d.file order).flags 0x0400 = d.flags.toNat.testBit 10 :=
    hasFlag_eq_testBit d.flags rfl
  unfold ClassFile.header
  simp only [hname, hsuper, hinterfaces, hreferences, hinterface, habstract, Except.mapError, bind,
    Except.bind]
  rfl

theorem bootstrap_file (h : Symbol.IsPool order) (hmem : ∀ s, s ∈ order ↔ s ∈ d.constants)
    (hwf : ∀ s ∈ order, s.WellFormed) : (d.file order).bootstrap = d.toClass.bootstrap := by
  have hentries : Attribute.bootstrapEntries (d.file order).attributes = d.bootstrap.map fun entry =>
      ⟨Symbol.index order entry.method, entry.arguments.map (Symbol.index order)⟩ := by
    unfold file
    cases d.bootstrap <;> rfl
  unfold ClassFile.bootstrap
  rw [hentries, List.map_map]
  refine List.map_congr_left fun entry hentry => ?_
  show (entry.arguments.map (Symbol.index order)).map (Pool.ofSymbols order).bootstrapArgument = _
  rw [List.map_map]
  refine List.map_congr_left fun argument hargument => ?_
  have hs : argument ∈ d.symbols := mem_symbols_of_entry hentry (List.mem_cons_of_mem _ hargument)
  exact Symbol.bootstrapArgument_index h hwf ((hmem _).mpr (mem_constants_of_mem_symbols hs))

/-- **A class file is read back, whatever the order of its constant pool.** Given a class whose
class constants, descriptors, annotation types and instructions can be laid out, and a list of its
constants in any order, perhaps with repetitions: if all counts and lengths fit their fields, the
bytes of the class file are decoded to the class. -/
theorem ofBytes_bytes (hwf : d.WellFormed) (hmem : ∀ s, s ∈ order ↔ s ∈ d.constants)
    (hfits : d.Fits order) : Class.ofBytes (d.bytes order) = .ok d.toClass := by
  have hpool := isPool hmem hfits
  have hsymbols : ∀ s ∈ order, s.WellFormed := fun s hs => hwf.constants s ((hmem s).mp hs)
  have hmethods : (d.file order).methods.mapM (MethodInfo.decode (d.file order).pool) =
      .ok d.toClass.methods := by
    rw [file, List.mapM_map]
    refine mapM_eq_ok fun m hm => ?_
    exact MethodDescription.decode_info hpool hsymbols (hwf.methods m hm) fun s hs =>
      (hmem s).mpr (mem_constants_of_mem_symbols (mem_symbols_of_method hm hs))
  unfold Class.ofBytes Class.decodeBytes
  rw [ofBytes?_bytes hmem hfits]
  show (d.file order).decode = _
  unfold ClassFile.decode
  simp only [header_file hpool hmem hsymbols, hmethods, bootstrap_file hpool hmem hsymbols,
    Except.mapError, bind, Except.bind]
  rfl

/-- A class that runs what it is given: it calls a method by an interface and makes one at run time.
-/
def runner : ClassDescription where
  minorVersion := 0
  majorVersion := 52
  flags := 0x0021
  type := .plain "p/Runner"
  superType := some (.plain "p/Base")
  interfaces := [.plain "p/Task"]
  further := [.long 0 7, .classRef (.array ⟨.object "p/Item", 2⟩)]
  methods := [{
    flags := 0x0001
    name := "run"
    descriptor := ⟨[⟨.int, 1⟩], ⟨.void, 0⟩⟩
    code := some {
      maxStack := 1
      maxLocals := 2
      program := [
        .call .dynamic (.invokeDynamic 0 "make" ⟨[], ⟨.object "p/Task", 0⟩⟩) [0, 0],
        .call .interface (.methodRef true (.plain "p/Task") "run" ⟨[], ⟨.void, 0⟩⟩) [1, 0],
        .tableSwitch (.replicate 3 0) 12 0 1 [12, 12],
        .simple 0xB1 []]
      lines := [(5, 8), (0, 7)] }
    visibleAnnotations := [.named "p/Traced"]
    invisibleAnnotations := [] }]
  bootstrap := [{
    method := .methodHandle 6 (.methodRef false (.plain "p/Links") "link" ⟨[], ⟨.void, 0⟩⟩)
    arguments := [.methodType "()V",
      .methodHandle 6 (.methodRef false (.plain "p/Runner") "body" ⟨[], ⟨.void, 0⟩⟩)] }]

/-- What `runner` stands for, spelled out. -/
def runnerClass : Class where
  name := "p.Runner"
  superName := some "p.Base"
  interfaces := ["p.Task"]
  isInterface := false
  isAbstract := false
  references := ["p.Base", "p.Item", "p.Links", "p.Task"]
  methods := [{
    name := "run"
    arguments := ["int[]"]
    flags := { isPublic := true }
    annotations := ["p.Traced"]
    lines := [⟨0, 7⟩, ⟨5, 8⟩]
    instructions := [
      ⟨0, .invoke ⟨"p.Task", "make", [], .dynamic, 0, some 0⟩⟩,
      ⟨5, .invoke ⟨"p.Task", "run", [], .interface, 5, none⟩⟩,
      ⟨10, .other 0xAA⟩, ⟨32, .other 0xB1⟩] }]
  bootstrap := [[.other, .handle ⟨"p.Runner", "body", some []⟩]]

theorem toClass_runner : runner.toClass = runnerClass := by
  have hmentioned :
      (runner.constants.filterMap Symbol.mentioned?).toFinset.erase runner.type.name =
        ["p.Base", "p.Item", "p.Links", "p.Task"].toFinset := by decide +kernel
  have hreferences : runner.toClass.references = runnerClass.references := by
    rw [toClass, hmentioned]
    exact (List.toFinset_sort (· ≤ ·) (by decide)).mpr (by decide)
  have hlines : (([(5, 8), (0, 7)] : List (UInt16 × UInt16)).map fun line =>
      (⟨line.1.toNat, line.2.toNat⟩ : LineEntry)).mergeSort (fun a b => a.start ≤ b.start) =
        [⟨0, 7⟩, ⟨5, 8⟩] := by
    simp [List.mergeSort]
  have hmethods : runner.toClass.methods = runnerClass.methods := by
    show [Method.mk _ _ _ _ (List.mergeSort _ _) _] = _
    rw [hlines]
    decide +kernel
  calc runner.toClass
    _ = { runner.toClass with
          references := runner.toClass.references, methods := runner.toClass.methods } := rfl
    _ = { runner.toClass with
          references := runnerClass.references, methods := runnerClass.methods } := by
      rw [hreferences, hmethods]
    _ = runnerClass := by decide +kernel

theorem ofBytes_bytes_runner :
    Class.ofBytes (runner.bytes runner.constants.eraseDups.reverse) = .ok runnerClass := by
  rw [← toClass_runner]
  exact ofBytes_bytes (by decide +kernel) (fun s => by rw [List.mem_reverse, List.mem_eraseDups])
    (by decide +kernel)

end ClassDescription

end CallGraph
