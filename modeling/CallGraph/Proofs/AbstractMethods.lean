import CallGraph.Proofs.Failure

/-!
# Abstract methods and subclasses

An abstract method of a class leads to the method of each subclass. But methods are told apart by name
and arguments only, and of the inheritable methods of a class with one signature the last one stands
for all. Where a method with another result type follows an abstract one, as it does when a compiler
bridges the two, the abstract method is out of sight, and the edges to the subclasses are missing.

* `superToChild_iff_abstract` — an abstract method leads to a subclass exactly if the last inheritable
  method with its signature is abstract
* `not_superToChild_suppliers` — an archive in which the last one is not
-/

namespace CallGraph

/-- The superclasses of a class are classes of the archive, up to one whose superclass belongs to the
platform or is not stated. -/
inductive Rooted (classes : List Class) : Class → Prop
  | top {c : Class}
      (platform : ∀ super, c.superName = some super → ClassName.isPlatform super = true) :
      Rooted classes c
  | step {c parent : Class} (known : parent ∈ classes) (concrete : parent.isInterface = false)
      (superclass : c.superName = some parent.name)
      (outside : ClassName.isPlatform parent.name = false) (up : Rooted classes parent) :
      Rooted classes c

/-- The abstract method `m` of one class is left to a subclass of it. -/
structure LeavesTo (classes : List Class) (parent child : Class) (m : Method) : Prop where
  parent_mem : parent ∈ classes
  parent_concrete : parent.isInterface = false
  parent_outside : ClassName.isPlatform parent.name = false
  rooted : Rooted classes parent
  child_mem : child ∈ classes
  child_concrete : child.isInterface = false
  superclass : child.superName = some parent.name
  declared : m ∈ parent.methods
  ordinary : m.isInitializer = false
  bound : m.flags.isStatic = false
  abstract : m.flags.isAbstract = true

/-- The edge from a method of a class to that of a subclass. -/
def superToChildEdge (parent child : Class) (m : Method) : Edge :=
  .inferred ⟨parent.name, m.signature⟩ .superToChild ⟨child.name, m.signature⟩

namespace Facts

variable {classes : List Class} (usage : Usage) (archive : Nat)

/-- The entry of a class with a name of its own. -/
theorem exists_entry_beforeWalk (hd : (classes.map Class.name).Nodup) {c : Class}
    (hc : c ∈ classes) (hi : c.isInterface = false) (hinv : ∃ c' ∈ classes, c'.Involves c.name) :
    ∃ info, (beforeWalk usage archive classes).lineage[c.name]? = some info ∧
      info.superName = c.superName.getD objectName :=
  (superName_beforeWalk usage archive classes c.name _).mpr
    ⟨hinv, c, concrete?_of_nodup (hd.sublist (List.filter_sublist.map _)) hc hi, rfl⟩

/-- A class that leads up to the platform through the archive does so in the forest. -/
theorem ancestry_of_rooted (hd : (classes.map Class.name).Nodup) {c : Class}
    (h : Rooted classes c) (hc : c ∈ classes) (hi : c.isInterface = false)
    (hinv : ∃ c' ∈ classes, c'.Involves c.name) :
    ∃ rest, Ancestry (beforeWalk usage archive classes) c.name rest := by
  induction h with
  | @top c hp =>
    obtain ⟨info, hinfo, hs⟩ := exists_entry_beforeWalk usage archive hd hc hi hinv
    refine ⟨[], .top hinfo ?_⟩
    rw [hs]
    cases hsuper : c.superName with
    | none => exact isPlatform_objectName
    | some super => exact hp super hsuper
  | @step c parent hm hcon hsuper ho _ ih =>
    -- The class itself brings its superclass into the forest.
    obtain ⟨rest, hup⟩ := ih hm hcon ⟨c, hc, parent.name, hsuper, ho, Or.inr rfl⟩
    obtain ⟨info, hinfo, hs⟩ := exists_entry_beforeWalk usage archive hd hc hi hinv
    rw [hsuper, Option.getD_some] at hs
    exact ⟨_, .step hinfo (hs ▸ ho) (hs ▸ hup)⟩

/-- The subclass stands below its superclass in the forest. -/
theorem ancestry_subclass (hd : (classes.map Class.name).Nodup) {parent child : Class} {m : Method}
    (h : LeavesTo classes parent child m) {rest : List String}
    (hup : Ancestry (beforeWalk usage archive classes) parent.name rest) :
    Ancestry (beforeWalk usage archive classes) child.name (parent.name :: rest) := by
  obtain ⟨info, hinfo, hs⟩ := exists_entry_beforeWalk usage archive hd h.child_mem h.child_concrete
    ⟨child, h.child_mem, parent.name, h.superclass, h.parent_outside, Or.inl rfl⟩
  rw [h.superclass, Option.getD_some] at hs
  rw [← hs] at hup ⊢
  exact .step hinfo (hs ▸ h.parent_outside) hup

/-- What a class declares is not changed by the contracts of its interfaces. -/
theorem method?_beforeWalk (hd : (classes.map Class.name).Nodup) {c : Class} (hc : c ∈ classes)
    (hi : c.isInterface = false) (hinv : ∃ c' ∈ classes, c'.Involves c.name) {s : String} {m : Method}
    (hm : c.lastInheritable? s = some m) :
    (beforeWalk usage archive classes).method? c.name s = some (.ofMethod m) := by
  have hcon := concrete?_of_nodup (hd.sublist (List.filter_sublist.map _)) hc hi
  have hown : (((ofUsage usage).index classes).extract archive classes).1.method? c.name s =
      some (.ofMethod m) := by
    unfold method?
    rw [lineage_extract_index, if_pos ((contains_participants_index usage classes c.name).mpr hinv),
      hcon]
    show (declaredMethods c)[s]? = _
    rw [getElem?_declaredMethods, hm, Option.map_some]
  unfold beforeWalk
  rw [method?_propagateContracts, hown, Option.some_or]

end Facts

/-! ## Exactly when the edge is drawn -/

/-- Of the methods with the signature of an inheritable one, there is a last. -/
theorem exists_lastInheritable {c : Class} {m : Method} (hm : m ∈ c.methods)
    (hi : Facts.isInheritable m = true) : ∃ last, c.lastInheritable? m.signature = some last := by
  have hmem : m ∈ (c.methods.filter Facts.isInheritable).filter (·.signature = m.signature) :=
    List.mem_filter.mpr ⟨List.mem_filter.mpr ⟨hm, hi⟩, decide_eq_true rfl⟩
  exact ⟨_, List.getLast?_eq_some_getLast (List.ne_nil_of_mem hmem)⟩

theorem LeavesTo.isInheritable {classes : List Class} {parent child : Class} {m : Method}
    (h : LeavesTo classes parent child m) : Facts.isInheritable m = true := by
  simp [Facts.isInheritable, h.ordinary, h.bound, h.abstract]

namespace Facts

/-- The walk hands an abstract method down to a subclass, and any other method up if at all. -/
theorem superToChild_mem_hierarchyEdges {facts : Facts} (h : IsForest facts)
    (hw : Walked facts.usage facts.lineage facts.steps facts.hierarchyWalk)
    {parent child : String} {rest : List String} (ha : Ancestry facts child (parent :: rest))
    (signature : String) :
    Edge.inferred ⟨parent, signature⟩ .superToChild ⟨child, signature⟩ ∈ facts.hierarchyEdges ↔
      (facts.resolveHierarchy.1.method? parent signature).any (·.isAbstract) = true := by
  rw [mem_hierarchyEdges h hw, Option.any_eq_true]
  constructor
  · rintro ⟨parent', child', rest', s, access, -, hm, ⟨habs, he⟩ | ⟨-, -, -, he⟩⟩
    · obtain ⟨rfl, rfl⟩ := MethodKey.mk.inj (congrArg Edge.caller he)
      exact ⟨access, hm, habs⟩
    · exact absurd (congrArg Edge.kind he) (by simp [Edge.inferred])
  · rintro ⟨access, hm, habs⟩
    exact ⟨parent, child, rest, signature, access, ha, hm, Or.inl ⟨habs, rfl⟩⟩

end Facts

namespace Engine

variable {engine : Engine} {index : Nat} {classes : List Class}

/-- **An abstract method leads to a subclass exactly if no other method takes its place:** the last
inheritable method of the class with the same name and arguments has to be abstract. -/
theorem superToChild_iff_abstract {summary : Summary} (hd : (classes.map Class.name).Nodup)
    (hok : (engine.processClasses index classes).result = .ok summary) {parent child : Class}
    {m : Method} (h : LeavesTo classes parent child m) :
    superToChildEdge parent child m ∈ (engine.processClasses index classes).hierarchyEdges ↔
      (parent.lastInheritable? m.signature).any (·.flags.isAbstract) = true := by
  obtain ⟨hierarchy, hw⟩ := exists_forestWalk_of_ok hok
  have hf := Facts.isForest_beforeWalk engine.initialUsage index classes
  obtain ⟨hwalk, -, hedges⟩ := Facts.walked_of_resolveHierarchy hf (Prod.ext rfl hw)
  have hinv : ∃ c ∈ classes, c.Involves parent.name :=
    ⟨child, h.child_mem, parent.name, h.superclass, h.parent_outside, Or.inr rfl⟩
  obtain ⟨rest, hup⟩ := Facts.ancestry_of_rooted engine.initialUsage index hd h.rooted h.parent_mem
    h.parent_concrete hinv
  have hdown := Facts.ancestry_subclass engine.initialUsage index hd h hup
  obtain ⟨last, hlast⟩ := exists_lastInheritable h.declared h.isInheritable
  have hown := Facts.method?_beforeWalk engine.initialUsage index hd h.parent_mem h.parent_concrete
    hinv hlast
  -- What a class declares itself is not touched by what it inherits.
  have hafter := (Facts.method?_resolveHierarchy hf hwalk hup m.signature (.ofMethod last)).mpr
    ((Facts.foundAlong_cons _ _ _ _ _).mpr (Or.inl hown))
  rw [hierarchyEdges_of_ok hw, hedges, superToChildEdge,
    Facts.superToChild_mem_hierarchyEdges hf hwalk hdown, hafter, hlast]
  rfl

/-- A source of values, which leaves its method to a subclass. -/
def source (methods : List Method) : Class :=
  ⟨"Source", some "java.lang.Object", ["java.util.function.Supplier"], false, true, [], methods, []⟩

def constant : Class :=
  ⟨"Constant", some "Source", [], false, false, [],
    [⟨"get", [], { isPublic := true }, [], [], []⟩], []⟩

def suppliers (methods : List Method) : List Class := [source methods, constant]

def getter : Method := ⟨"get", [], { isPublic := true, isAbstract := true }, [], [], []⟩

/-- What a compiler adds to a source, since the interface asks for a wider result type. -/
def bridge : Method := ⟨"get", [], { isPublic := true, isSynthetic := true }, [], [], []⟩

theorem leavesTo_suppliers {methods : List Method} (h : getter ∈ methods) :
    LeavesTo (suppliers methods) (source methods) constant getter where
  parent_mem := List.mem_cons_self
  parent_concrete := rfl
  parent_outside := (by decide : ClassName.isPlatform "Source" = false)
  rooted := .top fun super hs => by
    obtain rfl := Option.some.inj hs
    decide
  child_mem := List.mem_cons_of_mem _ List.mem_cons_self
  child_concrete := rfl
  superclass := rfl
  declared := h
  ordinary := by decide
  bound := rfl
  abstract := rfl

theorem superToChild_iff_abstract_suppliers :
    LeavesTo (suppliers [bridge, getter]) (source [bridge, getter]) constant getter ∧
      superToChildEdge (source [bridge, getter]) constant getter ∈
        ((start {}).processClasses 1 (suppliers [bridge, getter])).hierarchyEdges := by
  have hl : LeavesTo (suppliers [bridge, getter]) (source [bridge, getter]) constant getter :=
    leavesTo_suppliers (by decide)
  have hok : ((start {}).processClasses 1 (suppliers [bridge, getter])).result =
      .ok ⟨1, 2, 0, 1, 0⟩ := by decide +kernel
  exact ⟨hl, (superToChild_iff_abstract (by decide) hok hl).mpr (by decide)⟩

/-- **An abstract method can lead nowhere.** The bridge after it takes its place, and nothing connects
the source with the constant. -/
theorem not_superToChild_suppliers :
    ((suppliers [getter, bridge]).map Class.name).Nodup ∧
      (∃ summary, ((start {}).processClasses 1 (suppliers [getter, bridge])).result =
        .ok summary) ∧
      LeavesTo (suppliers [getter, bridge]) (source [getter, bridge]) constant getter ∧
      superToChildEdge (source [getter, bridge]) constant getter ∉
        ((start {}).processClasses 1 (suppliers [getter, bridge])).hierarchyEdges := by
  have hok : ((start {}).processClasses 1 (suppliers [getter, bridge])).result =
      .ok ⟨1, 2, 0, 0, 0⟩ := by decide +kernel
  exact ⟨by decide, ⟨_, hok⟩, leavesTo_suppliers (by decide), by decide +kernel⟩

end Engine

end CallGraph
