import CallGraph.Class.Decode
import CallGraph.Proofs.CodeCuts
import CallGraph.Proofs.Grammar
import CallGraph.Proofs.SymbolicPool

/-!
# The classes that a class mentions

A class constant is read twice: under its own name, where a superclass, an interface or the owner of
a method is called by it, and as a reference, for which an array stands for the class of its
elements. Both readings agree, so no class that a class file uses is missing from the references.

* `Class.Lists` — what the references of a class have for a class constant
* `ClassFile.mem_references` — the references are the classes that the constants mention
* `Class.Names` — names that class constants are called by
* `Class.references_complete` — nothing that is used is missing, and nothing else is there
-/

namespace CallGraph

open Std (ExtTreeSet)

/-! ## Class constants -/

namespace Pool

variable {pool : Pool} {index : UInt16}

/-- The constant at an index is a class constant with a text. -/
def ClassAt (pool : Pool) (index : UInt16) (text : String) : Prop :=
  ∃ name, pool.get? index = some (.classRef name) ∧ pool.utf8 name = .ok text

/-- There is a class constant with a text. -/
def HasClass (pool : Pool) (text : String) : Prop :=
  ∃ name, .classRef name ∈ pool.slots ∧ pool.utf8 name = .ok text

/-- The constant at an index refers to a method of the class at another index. -/
def OwnerAt (pool : Pool) (index owner : UInt16) : Prop :=
  ∃ nameAndType, pool.get? index = some (.methodRef owner nameAndType) ∨
    pool.get? index = some (.interfaceMethodRef owner nameAndType)

theorem ClassAt.hasClass {text : String} (h : pool.ClassAt index text) : pool.HasClass text := by
  obtain ⟨name, hget, htext⟩ := h
  exact ⟨name, Array.mem_of_getElem? hget, htext⟩

theorem classAt_of_className {name : String} (h : pool.className index = .ok name) :
    ∃ text, pool.ClassAt index text ∧ ClassName.ofConstant text = .ok name := by
  unfold className at h
  split at h
  · cases h
  · next constant hget =>
    obtain ⟨text, htext, h⟩ := exists_of_bind_eq_ok h
    exact ⟨text, ⟨constant, hget, htext⟩, mapError_eq_ok_iff.mp h⟩
  · cases h

theorem of_member {owner nameAndType : UInt16} {method : MethodRef}
    (h : pool.member owner nameAndType = .ok method) : pool.className owner = .ok method.owner := by
  obtain ⟨name, hname, h⟩ := exists_of_bind_eq_ok h
  obtain ⟨pair, -, h⟩ := exists_of_bind_eq_ok h
  cases h
  exact mapError_eq_ok_iff.mp hname

theorem ownerAt_of_methodRef {method : MethodRef} (h : pool.methodRef index = .ok method) :
    ∃ owner, pool.OwnerAt index owner ∧ pool.className owner = .ok method.owner := by
  unfold methodRef at h
  split at h
  · cases h
  · next owner nameAndType hget => exact ⟨owner, ⟨nameAndType, Or.inl hget⟩, of_member h⟩
  · next owner nameAndType hget => exact ⟨owner, ⟨nameAndType, Or.inr hget⟩, of_member h⟩
  · cases h

theorem ownerAt_of_callSite {offset : Nat} {kind : CallKind} {site : CallSite}
    (h : Bytecode.callSite pool offset kind index = .ok site) (hk : kind ≠ .dynamic) :
    ∃ owner, pool.OwnerAt index owner ∧ pool.className owner = .ok site.owner := by
  unfold Bytecode.callSite at h
  split at h
  · exact absurd rfl hk
  · obtain ⟨method, hmethod, h⟩ := exists_of_bind_eq_ok h
    obtain ⟨arguments, -, h⟩ := exists_of_bind_eq_ok h
    cases h
    exact ownerAt_of_methodRef (mapError_eq_ok_iff.mp hmethod)

theorem ownerAt_of_handle {handle : MethodHandle}
    (h : pool.bootstrapArgument index = .handle handle) :
    ∃ kind reference owner, pool.get? index = some (.methodHandle kind reference) ∧
      pool.OwnerAt reference owner ∧ pool.className owner = .ok handle.owner := by
  unfold bootstrapArgument at h
  split at h
  · cases h
  · next kind reference hget =>
    split at h
    · cases h
    · next method hmethod =>
      cases h
      obtain ⟨owner, howner, hname⟩ := ownerAt_of_methodRef hmethod
      exact ⟨kind, reference, owner, hget, howner, hname⟩
  · cases h

end Pool

/-! ## References -/

namespace ClassFile

theorem mem_classConstants {pool : Pool} {name : UInt16} :
    name ∈ classConstants pool ↔ .classRef name ∈ pool.slots := by
  unfold classConstants
  rw [List.mem_filterMap, ← Array.mem_toList_iff]
  constructor
  · rintro ⟨constant, hm, h⟩
    split at h
    · cases h
      exact hm
    · cases h
  · intro hm
    exact ⟨_, hm, rfl⟩

/-- The class is named by a class constant, or is the element class of an array that is. -/
def Mentions (pool : Pool) (reference : String) : Prop :=
  ∃ text element, pool.HasClass text ∧ ClassName.elementConstant? text = some element ∧
    ClassName.ofConstant element = .ok reference

theorem referenceName_eq_some_iff {pool : Pool} {name : UInt16} {reference : String} :
    referenceName pool name = .ok (some reference) ↔
      ∃ text element, pool.utf8 name = .ok text ∧ ClassName.elementConstant? text = some element ∧
        ClassName.ofConstant element = .ok reference := by
  constructor
  · intro h
    obtain ⟨text, htext, h⟩ := exists_of_bind_eq_ok h
    split at h
    · cases h
    · next element helement =>
      obtain ⟨found, hfound, h⟩ := exists_of_bind_eq_ok h
      cases h
      exact ⟨text, element, mapError_eq_ok_iff.mp htext, helement, mapError_eq_ok_iff.mp hfound⟩
  · rintro ⟨text, element, htext, helement, hname⟩
    simp only [referenceName, htext, bind, Except.mapError, Except.bind, helement, hname]
    rfl

theorem some_mem_iff_mentions {pool : Pool} {names : List (Option String)}
    (h : (classConstants pool).mapM (referenceName pool) = .ok names) {reference : String} :
    some reference ∈ names ↔ Mentions pool reference := by
  simp only [mem_iff_of_mapM_eq_ok h, mem_classConstants, referenceName_eq_some_iff, Mentions,
    Pool.HasClass]
  constructor
  · rintro ⟨name, hm, text, element, htext, hread⟩
    exact ⟨text, element, ⟨name, hm, htext⟩, hread⟩
  · rintro ⟨text, element, ⟨name, hm, htext⟩, hread⟩
    exact ⟨name, hm, text, element, htext, hread⟩

/-- **The references are the classes that the constants mention,** except the class itself. -/
theorem mem_references {pool : Pool} {own : String} {references : List String}
    (h : ClassFile.references pool own = .ok references) :
    references.Pairwise (· < ·) ∧
      ∀ reference, reference ∈ references ↔ reference ≠ own ∧ Mentions pool reference := by
  obtain ⟨names, hnames, h⟩ := exists_of_bind_eq_ok h
  cases h
  refine ⟨ExtTreeSet.ordered_toList.imp fun hlt => compare_lt_iff_lt.mp hlt, fun reference => ?_⟩
  rw [ExtTreeSet.mem_toList, ExtTreeSet.mem_erase, ExtTreeSet.mem_ofList, List.contains_iff_mem,
    ← some_mem_iff_mentions hnames, ne_eq, ne_eq, Std.compare_eq_iff_eq, eq_comm (b := reference)]
  simp

/-- The parts of a class that come from a class file. -/
structure Decodes (file : ClassFile) (c : Class) : Prop where
  references : ClassFile.references file.pool c.name = .ok c.references
  superName : file.superName = .ok c.superName
  interfaces : file.interfaces.mapM file.pool.className = .ok c.interfaces
  methods : file.methods.mapM (MethodInfo.decode file.pool) = .ok c.methods
  bootstrap : file.bootstrap = c.bootstrap

theorem decodes_of_decode {file : ClassFile} {c : Class} (h : file.decode = .ok c) :
    file.Decodes c := by
  obtain ⟨header, hheader, h⟩ := exists_of_bind_eq_ok h
  obtain ⟨methods, hmethods, h⟩ := exists_of_bind_eq_ok h
  cases h
  obtain ⟨name, -, hheader⟩ := exists_of_bind_eq_ok hheader
  obtain ⟨superName, hsuper, hheader⟩ := exists_of_bind_eq_ok hheader
  obtain ⟨interfaces, hinterfaces, hheader⟩ := exists_of_bind_eq_ok hheader
  obtain ⟨references, hreferences, hheader⟩ := exists_of_bind_eq_ok hheader
  cases hheader
  exact ⟨hreferences, mapError_eq_ok_iff.mp hsuper, mapError_eq_ok_iff.mp hinterfaces,
    mapError_eq_ok_iff.mp hmethods, rfl⟩

end ClassFile

/-! ## Constants and references -/

namespace Class

variable {c : Class} {pool : Pool}

/-- What the references of a class have for a class constant with a text. -/
structure Lists (c : Class) (text : String) : Prop where
  plain : text.toList.head? ≠ some '[' → ClassName.ofConstant text = .ok (dotted text) ∧
    (dotted text ∈ c.references ∨ dotted text = c.name)
  array : ∀ n (w : String), 1 ≤ n → n ≤ 255 → ';' ∉ w.toList → w.toList.head? ≠ some '[' →
    text.toList = List.replicate n '[' ++ 'L' :: w.toList ++ [';'] →
    ClassName.ofConstant text = .ok (dotted w ++ String.join (List.replicate n "[]")) ∧
      (dotted w ∈ c.references ∨ dotted w = c.name)

/-- The class constant at an index is called by a name, and the references have it. -/
def Names (c : Class) (pool : Pool) (index : UInt16) (name : String) : Prop :=
  ∃ text, pool.ClassAt index text ∧ ClassName.ofConstant text = .ok name ∧ c.Lists text

/-- The call sites of a method that are not dynamic: each has the index of a method in its operand,
and the references have the owner of that method. -/
def NamesOwners (c : Class) (pool : Pool) (info : MethodInfo) (method : Method) : Prop :=
  ∀ i ∈ method.instructions, ∀ site, i.call? = some site → site.kind ≠ .dynamic →
    ∃ code nested index owner, Attribute.code? info.attributes = some (code, nested) ∧
      Bytecode.CallsAt code i.offset site.kind index ∧ pool.OwnerAt index owner ∧
      c.Names pool owner site.owner

/-- A bootstrap argument that is a method handle refers to a method, and the references have its
owner. -/
def NamesHandle (c : Class) (pool : Pool) (index : UInt16) (argument : BootstrapArgument) : Prop :=
  ∀ handle, argument = .handle handle → ∃ kind reference owner,
    pool.get? index = some (.methodHandle kind reference) ∧ pool.OwnerAt reference owner ∧
      c.Names pool owner handle.owner

theorem lists_of_hasClass
    (h : ∀ r, r ∈ c.references ↔ r ≠ c.name ∧ ClassFile.Mentions pool r) {text : String}
    (ht : pool.HasClass text) : c.Lists text := by
  -- Both readings of a constant start from the class that it stands for.
  have hlisted {t : ClassType} (hw : t.WellFormed) (htext : text = t.text) {w : String}
      (hclass : t.className? = some w) :
      ClassName.ofConstant text = .ok t.name ∧ (dotted w ∈ c.references ∨ dotted w = c.name) := by
    subst htext
    refine ⟨ClassType.ofConstant_text hw, ?_⟩
    by_cases hown : dotted w = c.name
    · exact Or.inr hown
    · refine Or.inl ((h _).mpr ⟨hown, _, w, ht, ?_, ?_⟩)
      · rw [ClassType.elementConstant?_text hw, hclass]
      · exact ClassType.ofConstant_of_not_bracket (hw.1 w hclass)
  constructor
  · intro hplain
    refine hlisted (t := .plain text) ⟨?_, trivial⟩ rfl rfl
    rintro _ ⟨⟩
    exact hplain
  · intro n w hn hn' hw hhead htext
    refine hlisted (t := .array ⟨.object w, n⟩) ⟨?_, hn, hn', hw⟩ ?_ rfl
    · rintro _ ⟨⟩
      exact hhead
    · apply String.toList_inj.mp
      rw [htext]
      simp [ClassType.text, TypeDescriptor.text, ElementType.text]

section
variable (h : ∀ text, pool.HasClass text → c.Lists text)
include h

theorem names_of_className {index : UInt16} {name : String}
    (hn : pool.className index = .ok name) : c.Names pool index name := by
  obtain ⟨text, hat, htext⟩ := Pool.classAt_of_className hn
  exact ⟨text, hat, htext, h text hat.hasClass⟩

theorem namesOwners_of_decode {info : MethodInfo} {method : Method}
    (hm : info.decode pool = .ok method) : c.NamesOwners pool info method := by
  obtain ⟨name, -, hm⟩ := exists_of_bind_eq_ok hm
  obtain ⟨descriptor, -, hm⟩ := exists_of_bind_eq_ok hm
  obtain ⟨arguments, -, hm⟩ := exists_of_bind_eq_ok hm
  obtain ⟨annotations, -, hm⟩ := exists_of_bind_eq_ok hm
  obtain ⟨⟨lines, instructions⟩, hbody, hm⟩ := exists_of_bind_eq_ok hm
  cases hm
  intro i hi site hsite hkind
  have hbody := mapError_eq_ok_iff.mp hbody
  unfold MethodInfo.body at hbody
  split at hbody
  · cases hbody
    cases hi
  · next code nested hcode =>
    obtain ⟨found, hfound, hbody⟩ := exists_of_bind_eq_ok hbody
    cases hbody
    have htiles := (Bytecode.cuts_instructionsFrom pool (Nat.zero_le code.length)).tiles hfound
    obtain ⟨-, n, index, -, -, hcalls, hread⟩ := htiles.calls i hi site hsite
    obtain ⟨owner, howner, hname⟩ := Pool.ownerAt_of_callSite hread hkind
    exact ⟨code, nested, index, owner, hcode, hcalls, howner, names_of_className h hname⟩

theorem namesHandle_bootstrapArgument (index : UInt16) :
    c.NamesHandle pool index (pool.bootstrapArgument index) := by
  intro handle hhandle
  obtain ⟨kind, reference, owner, hget, howner, hname⟩ := Pool.ownerAt_of_handle hhandle
  exact ⟨kind, reference, owner, hget, howner, names_of_className h hname⟩

end

theorem names_superName {file : ClassFile} (h : ∀ text, file.pool.HasClass text → c.Lists text)
    (hs : file.superName = .ok c.superName) :
    (file.superClass = 0 ∧ c.superName = none) ∨
      ∃ name, c.superName = some name ∧ c.Names file.pool file.superClass name := by
  unfold ClassFile.superName at hs
  split at hs
  · next hzero => exact Or.inl ⟨hzero, (Except.ok.inj hs).symm⟩
  · obtain ⟨name, hname, hsome⟩ := exists_of_map_eq_ok hs
    exact Or.inr ⟨name, hsome.symm, names_of_className h hname⟩

/-- **The references are complete.** They ascend, they are the classes that the class constants
mention, without the class itself, and whatever is named by a class constant is among them: the
superclass, the interfaces, the owners of called methods and the owners of method handles. -/
theorem references_complete {bs : List UInt8} {c : Class} (h : ofBytes bs = .ok c) :
    c.references.Pairwise (· < ·) ∧ c.name ∉ c.references ∧
      ∃ file, ClassFile.ofBytes? bs = some file ∧
        (∀ r, r ∈ c.references ↔ r ≠ c.name ∧ ClassFile.Mentions file.pool r) ∧
        (∀ text, file.pool.HasClass text → c.Lists text) ∧
        ((file.superClass = 0 ∧ c.superName = none) ∨
          ∃ name, c.superName = some name ∧ c.Names file.pool file.superClass name) ∧
        List.Forall₂ (c.Names file.pool) file.interfaces c.interfaces ∧
        List.Forall₂ (c.NamesOwners file.pool) file.methods c.methods ∧
        List.Forall₂ (fun entry => List.Forall₂ (c.NamesHandle file.pool) entry.arguments)
          (Attribute.bootstrapEntries file.attributes) c.bootstrap := by
  unfold ofBytes decodeBytes at h
  split at h
  · cases h
  · next file hfile =>
    have hdecodes := ClassFile.decodes_of_decode h
    obtain ⟨hordered, hmem⟩ := ClassFile.mem_references hdecodes.references
    have hlists (text : String) (ht : file.pool.HasClass text) := lists_of_hasClass hmem ht
    refine ⟨hordered, fun hown => ((hmem _).mp hown).1 rfl, file, hfile, hmem, hlists, ?_⟩
    refine ⟨names_superName hlists hdecodes.superName, ?_, ?_, ?_⟩
    · exact (mapM_eq_ok_iff.mp hdecodes.interfaces).imp fun _ _ => names_of_className hlists
    · exact (mapM_eq_ok_iff.mp hdecodes.methods).imp fun _ _ => namesOwners_of_decode hlists
    · rw [← hdecodes.bootstrap, ClassFile.bootstrap, List.forall₂_map_right_iff, List.forall₂_same]
      intro entry _
      rw [List.forall₂_map_right_iff, List.forall₂_same]
      intro index _
      exact namesHandle_bootstrapArgument hlists index

/-- A class with a method that calls `clone` on an array of arrays, and with a handle to that `clone`
in the bootstrap table. -/
def cloner : List UInt8 :=
  let constants : List Constant :=
    [.utf8 "p/Job", .classRef 1, .utf8 "java/lang/Object", .classRef 3, .utf8 "[[Lp/Item;",
      .classRef 5, .utf8 "clone", .utf8 "()V", .nameAndType 7 8, .methodRef 6 9, .methodHandle 5 10,
      .utf8 "Code", .utf8 "BootstrapMethods"]
  let code : List UInt8 := [0xB6, 0, 10]
  Encoding.u4 ClassFile.magic ++ Encoding.u4 52 ++ Encoding.u2 14 ++
    constants.flatMap Constant.bytes ++ [0, 1, 0, 2, 0, 4, 0, 0, 0, 0] ++
    [0, 1, 0, 1, 0, 7, 0, 8, 0, 1, 0, 12] ++ Encoding.u4 15 ++ [0, 1, 0, 1] ++
    Encoding.u4 (.ofNat code.length) ++ code ++ [0, 0, 0, 0] ++
    [0, 1, 0, 13] ++ Encoding.u4 8 ++ [0, 1, 0, 11, 0, 1, 0, 11]

theorem references_complete_cloner :
    ∃ c file, ofBytes cloner = .ok c ∧ ClassFile.ofBytes? cloner = some file ∧
      c.references = ["java.lang.Object", "p.Item"] ∧ c.superName = some "java.lang.Object" ∧
      (c.methods.flatMap fun m => m.instructions.filterMap Instruction.call?).map CallSite.owner =
        ["p.Item[][]"] ∧
      c.references.Pairwise (· < ·) ∧
      (∀ r, r ∈ c.references ↔ r ≠ c.name ∧ ClassFile.Mentions file.pool r) ∧
      List.Forall₂ (c.NamesOwners file.pool) file.methods c.methods := by
  have hview : (ofBytes cloner).toOption.map (fun c => (c.references, c.superName,
      (c.methods.flatMap fun m => m.instructions.filterMap Instruction.call?).map CallSite.owner)) =
        some (["java.lang.Object", "p.Item"], some "java.lang.Object", ["p.Item[][]"]) := by
    decide +kernel
  cases hc : ofBytes cloner with
  | error e =>
    rw [hc] at hview
    cases hview
  | ok c =>
    rw [hc] at hview
    obtain ⟨hreferences, hview⟩ := Prod.mk.inj (Option.some.inj hview)
    obtain ⟨hsuper, howners⟩ := Prod.mk.inj hview
    obtain ⟨hordered, -, file, hfile, hmem, -, -, -, hmethods, -⟩ := references_complete hc
    exact ⟨c, file, rfl, hfile, hreferences, hsuper, howners, hordered, hmem, hmethods⟩

end Class

end CallGraph
