import CallGraph.Proofs.Indexing
import CallGraph.Proofs.Occurrence

/-!
# The forest that registration builds

Registration records inheritance twice: every class has an entry with the name of its superclass,
and every superclass has a list of its subclasses. `Facts.IsForest` says that the two records tell
the same story. Every pass that comes before the walk keeps it.

* `isForest_register` — registering a class keeps the forest
* `isForest_propagateContracts` — so does handing contracts to abstract classes
* `lineage_foldl_register` — the entry of a name is that of the first class with this name
* `extract_sameForest` — visiting classes on the way changes nothing about the forest
* `isForest_beforeWalk` — so the walk over the classes of an archive begins with a forest
-/

namespace CallGraph

open Std (ExtTreeMap ExtTreeSet)

/-- The entry of a class that has just been registered. -/
def Lineage.ofClass (c : Class) : Lineage :=
  ⟨c.isAbstract, c.superName.getD objectName, Facts.declaredMethods c⟩

/-- A method that can be reached this way takes part in inheritance. -/
def Access.IsInheritable (access : Access) : Prop :=
  access.isAbstract = true ∨ access.isPublic = true ∨ access.isProtected = true

/-- How a declared method can be reached. -/
def Access.ofMethod (m : Method) : Access :=
  ⟨m.flags.isAbstract, m.flags.isPublic, m.flags.isProtected⟩

/-- The last inheritable method with a signature that a class declares. -/
def Class.lastInheritable? (c : Class) (signature : String) : Option Method :=
  ((c.methods.filter Facts.isInheritable).filter (·.signature = signature)).getLast?

namespace Facts

/-- The subclasses listed under a class. -/
def childrenOf (children : ExtTreeMap String (List String)) (parent : String) : List String :=
  children[parent]?.getD []

/-- The entries of the classes and the lists of their subclasses fit together. -/
structure IsForest (facts : Facts) : Prop where
  /-- A class is listed exactly under its superclass, unless that belongs to the platform. -/
  mem_childrenOf : ∀ parent child, child ∈ childrenOf facts.children parent ↔
    ∃ info, facts.lineage[child]? = some info ∧ info.superName = parent ∧
      ClassName.isPlatform parent = false
  nodup : ∀ parent, (childrenOf facts.children parent).Nodup
  ne_nil : ∀ parent : String, facts.children[parent]? ≠ some []
  participates : ∀ name, name ∈ facts.lineage → name ∈ facts.participants
  inheritable : ∀ (name : String) (info : Lineage) (signature : String) (access : Access),
    facts.lineage[name]? = some info → info.methods[signature]? = some access →
    access.IsInheritable

/-- Nothing that registration reads or writes differs. -/
structure SameForest (facts facts' : Facts) : Prop where
  participants : facts.participants = facts'.participants
  lineage : facts.lineage = facts'.lineage
  children : facts.children = facts'.children

theorem SameForest.refl (facts : Facts) : SameForest facts facts := ⟨rfl, rfl, rfl⟩

theorem SameForest.symm {a b : Facts} (h : SameForest a b) : SameForest b a :=
  ⟨h.participants.symm, h.lineage.symm, h.children.symm⟩

theorem SameForest.trans {a b c : Facts} (h : SameForest a b) (h' : SameForest b c) :
    SameForest a c :=
  ⟨h.participants.trans h'.participants, h.lineage.trans h'.lineage, h.children.trans h'.children⟩

theorem SameForest.isForest {a b : Facts} (h : SameForest a b) (ha : IsForest a) : IsForest b where
  mem_childrenOf := by rw [← h.children, ← h.lineage]; exact ha.mem_childrenOf
  nodup := by rw [← h.children]; exact ha.nodup
  ne_nil := by rw [← h.children]; exact ha.ne_nil
  participates := by rw [← h.lineage, ← h.participants]; exact ha.participates
  inheritable := by rw [← h.lineage]; exact ha.inheritable

/-- Whether a class has subclasses can be told from the entries of the classes. -/
theorem IsForest.mem_children {facts : Facts} (h : IsForest facts) (parent : String) :
    parent ∈ facts.children ↔ ∃ (child : String) (info : Lineage),
      facts.lineage[child]? = some info ∧ info.superName = parent ∧
        ClassName.isPlatform parent = false := by
  rw [ExtTreeMap.mem_iff_isSome_getElem?, Option.isSome_iff_exists]
  constructor
  · rintro ⟨names, hn⟩
    obtain ⟨child, hc⟩ := List.exists_mem_of_ne_nil names fun he => h.ne_nil parent (he ▸ hn)
    have hm : child ∈ childrenOf facts.children parent := by
      rw [childrenOf, hn]
      exact hc
    exact ⟨child, (h.mem_childrenOf parent child).mp hm⟩
  · rintro ⟨child, hc⟩
    have hm := (h.mem_childrenOf parent child).mpr hc
    unfold childrenOf at hm
    cases hn : facts.children[parent]? with
    | none =>
      rw [hn] at hm
      simp at hm
    | some names => exact ⟨names, rfl⟩

/-! ## Declared methods -/

theorem getElem?_foldl_insert_method (methods : List Method) (table : ExtTreeMap String Access)
    (s : String) :
    (methods.foldl (fun table m => table.insert m.signature
      ⟨m.flags.isAbstract, m.flags.isPublic, m.flags.isProtected⟩) table)[s]? =
      ((methods.filter (·.signature = s)).getLast?.map Access.ofMethod).or table[s]? := by
  induction methods generalizing table with
  | nil => simp
  | cons m rest ih =>
    rw [List.foldl_cons, ih, ExtTreeMap.getElem?_insert]
    by_cases hs : m.signature = s
    · rw [List.filter_cons_of_pos (by simpa using hs), List.getLast?_cons]
      cases (rest.filter (·.signature = s)).getLast? <;> simp [hs, Access.ofMethod]
    · rw [List.filter_cons_of_neg (by simpa using hs)]
      simp [hs]

/-- **Of the inheritable methods with a signature the last one counts.** -/
theorem getElem?_declaredMethods (c : Class) (s : String) :
    (declaredMethods c)[s]? = (c.lastInheritable? s).map .ofMethod := by
  unfold declaredMethods Class.lastInheritable?
  rw [getElem?_foldl_insert_method]
  simp

theorem inheritable_declaredMethods {c : Class} {s : String} {a : Access}
    (h : (declaredMethods c)[s]? = some a) : a.IsInheritable := by
  rw [getElem?_declaredMethods] at h
  obtain ⟨m, hm, rfl⟩ := Option.map_eq_some_iff.mp h
  obtain ⟨hm, -⟩ := List.mem_filter.mp (List.mem_of_getLast? hm)
  have hmi := (List.mem_filter.mp hm).2
  simp only [isInheritable, Bool.and_eq_true, Bool.or_eq_true] at hmi
  exact or_assoc.mp hmi.2

/-! ## Registration -/

/-- What registering a class does: nothing, or one new entry. -/
theorem register_cases (facts : Facts) (c : Class) :
    (facts.register c = facts ∧
      (c.isInterface = true ∨ c.name ∉ facts.participants ∨ c.name ∈ facts.lineage)) ∨
    (c.isInterface = false ∧ c.name ∈ facts.participants ∧ c.name ∉ facts.lineage ∧
      (facts.register c).participants = facts.participants ∧
      (facts.register c).lineage = facts.lineage.insert c.name (.ofClass c) ∧
      (facts.register c).children =
        if ClassName.isPlatform (c.superName.getD objectName) then facts.children
        else facts.children.alter (c.superName.getD objectName)
          fun names => some (names.getD [] ++ [c.name])) := by
  unfold register
  split
  · next h =>
    simp only [Bool.or_eq_true, Bool.not_eq_true', ← Bool.not_eq_true, ExtTreeSet.contains_iff_mem,
      ExtTreeMap.contains_iff_mem, or_assoc] at h
    exact Or.inl ⟨rfl, h⟩
  · next h =>
    simp only [Bool.or_eq_true, Bool.not_eq_true', ← Bool.not_eq_true, ExtTreeSet.contains_iff_mem,
      ExtTreeMap.contains_iff_mem, not_or, Classical.not_not] at h
    obtain ⟨⟨hi, hp⟩, hl⟩ := h
    exact Or.inr ⟨by simpa using hi, hp, hl, rfl, rfl, rfl⟩

theorem childrenOf_alter_push (children : ExtTreeMap String (List String))
    (super name parent : String) :
    childrenOf (children.alter super fun names => some (names.getD [] ++ [name])) parent =
      if super = parent then childrenOf children parent ++ [name]
      else childrenOf children parent := by
  unfold childrenOf
  rw [ExtTreeMap.getElem?_alter]
  by_cases h : super = parent
  · subst h
    simp
  · simp [h]

/-- The lists of subclasses after registering a new class. -/
theorem childrenOf_push_unless (children : ExtTreeMap String (List String))
    (super name parent : String) :
    childrenOf (if ClassName.isPlatform super then children
      else children.alter super fun names => some (names.getD [] ++ [name])) parent =
      if super = parent ∧ ClassName.isPlatform parent = false then
        childrenOf children parent ++ [name]
      else childrenOf children parent := by
  by_cases hs : super = parent
  · subst hs
    by_cases hp : ClassName.isPlatform super = true
    · simp [hp]
    · simp [hp, childrenOf_alter_push]
  · by_cases hp : ClassName.isPlatform super = true
    · simp [hp, hs]
    · simp [hp, hs, childrenOf_alter_push]

/-- A class without an entry is in no list yet. -/
theorem IsForest.not_mem_childrenOf {facts : Facts} (h : IsForest facts) {name : String}
    (hn : name ∉ facts.lineage) (parent : String) : name ∉ childrenOf facts.children parent := by
  intro hm
  obtain ⟨info, hi, -⟩ := (h.mem_childrenOf parent name).mp hm
  rw [ExtTreeMap.getElem?_eq_none hn] at hi
  simp at hi

/-- **Registering a class keeps the forest.** -/
theorem isForest_register {facts : Facts} (h : IsForest facts) (c : Class) :
    IsForest (facts.register c) := by
  rcases register_cases facts c with ⟨he, -⟩ | ⟨-, hpart, hnew, hp, hl, hc⟩
  · rw [he]
    exact h
  have hunlisted := h.not_mem_childrenOf hnew
  constructor
  case mem_childrenOf =>
    intro parent child
    rw [hc, hl, childrenOf_push_unless, ExtTreeMap.getElem?_insert]
    by_cases hn : c.name = child
    · -- The new class is listed under its superclass and, being new, nowhere else.
      subst hn
      simp only [Std.ReflCmp.compare_self, if_true, Option.some.injEq, exists_eq_left',
        Lineage.ofClass]
      by_cases hs : c.superName.getD objectName = parent ∧ ClassName.isPlatform parent = false
      · rw [if_pos hs]
        simp [hs.1, hs.2]
      · rw [if_neg hs]
        simp [hunlisted parent, hs]
    · have hcmp : compare c.name child ≠ .eq := by simpa using hn
      rw [if_neg hcmp, ← h.mem_childrenOf]
      split
      · simp [Ne.symm hn]
      · rfl
  case nodup =>
    intro parent
    rw [hc, childrenOf_push_unless]
    split
    · refine List.nodup_append.mpr ⟨h.nodup parent, by simp, ?_⟩
      intro a ha b hb hab
      rw [List.mem_singleton] at hb
      subst hab hb
      exact hunlisted parent ha
    · exact h.nodup parent
  case ne_nil =>
    intro parent
    rw [hc]
    split
    · exact h.ne_nil parent
    · rw [ExtTreeMap.getElem?_alter]
      split
      · simp
      · exact h.ne_nil parent
  case participates =>
    intro name hname
    rw [hl, ExtTreeMap.mem_insert] at hname
    rw [hp]
    rcases hname with he | hm
    · rw [← Std.LawfulEqCmp.eq_of_compare he]
      exact hpart
    · exact h.participates name hm
  case inheritable =>
    intro name info s a hi ha
    rw [hl, ExtTreeMap.getElem?_insert] at hi
    split at hi
    · obtain rfl := Option.some.inj hi
      exact inheritable_declaredMethods ha
    · exact h.inheritable name info s a hi ha

/-- The entry of a name after registering a class. -/
theorem lineage_register (facts : Facts) (c : Class) (name : String) :
    (facts.register c).lineage[name]? =
      facts.lineage[name]?.or
        (if !c.isInterface && c.name = name && facts.participants.contains name then
          some (.ofClass c) else none) := by
  rcases register_cases facts c with ⟨he, hskip⟩ | ⟨hi, hpart, hnew, -, hl, -⟩
  · rw [he]
    by_cases hn : c.name = name
    · subst hn
      rcases hskip with hi | hp | hm
      · simp [hi]
      · have hpf : facts.participants.contains c.name = false := by
          rw [← Bool.not_eq_true, ExtTreeSet.contains_iff_mem]
          exact hp
        simp [hpf]
      · obtain ⟨info, hinfo⟩ := Option.isSome_iff_exists.mp
          (ExtTreeMap.mem_iff_isSome_getElem?.mp hm)
        simp [hinfo]
    · simp [hn]
  · rw [hl, ExtTreeMap.getElem?_insert]
    by_cases hn : c.name = name
    · subst hn
      simp [hi, ExtTreeMap.getElem?_eq_none hnew, hpart]
    · simp [hn]

theorem participants_register (facts : Facts) (c : Class) :
    (facts.register c).participants = facts.participants := by
  rcases register_cases facts c with ⟨he, -⟩ | ⟨-, -, -, hp, -, -⟩
  · rw [he]
  · exact hp

/-- The class that a name stands for in the forest. -/
def concrete? (classes : List Class) (name : String) : Option Class :=
  classes.find? fun c => !c.isInterface && c.name = name

/-- **Of the classes of a name the first one that is no interface is registered**, provided that
the name takes part in inheritance. -/
theorem lineage_foldl_register (facts : Facts) (classes : List Class) (name : String) :
    (classes.foldl register facts).lineage[name]? =
      facts.lineage[name]?.or
        (if facts.participants.contains name then (concrete? classes name).map .ofClass
          else none) := by
  unfold concrete?
  induction classes generalizing facts with
  | nil => simp
  | cons c rest ih =>
    rw [List.foldl_cons, ih, lineage_register, participants_register, Option.or_assoc,
      List.find?_cons]
    cases !c.isInterface && decide (c.name = name) <;>
      cases facts.participants.contains name <;> simp

theorem isForest_foldl_register {facts : Facts} (h : IsForest facts) (classes : List Class) :
    IsForest (classes.foldl register facts) := by
  induction classes generalizing facts with
  | nil => exact h
  | cons c rest ih => exact ih (isForest_register h c)

/-! ## The other passes -/

theorem isForest_ofUsage (usage : Usage) : IsForest (ofUsage usage) where
  mem_childrenOf := by simp [ofUsage, childrenOf]
  nodup := by simp [ofUsage, childrenOf]
  ne_nil := by simp [ofUsage]
  participates := by simp [ofUsage]
  inheritable := by simp [ofUsage]

theorem isForest_indexClass {facts : Facts} (h : IsForest facts) (c : Class) :
    IsForest (facts.indexClass c) where
  mem_childrenOf := by rw [lineage_indexClass, children_indexClass]; exact h.mem_childrenOf
  nodup := by rw [children_indexClass]; exact h.nodup
  ne_nil := by rw [children_indexClass]; exact h.ne_nil
  participates := by
    intro name hm
    rw [lineage_indexClass] at hm
    exact (mem_participants_indexClass facts c name).mpr (Or.inl (h.participates name hm))
  inheritable := by rw [lineage_indexClass]; exact h.inheritable

theorem isForest_index {facts : Facts} (h : IsForest facts) (classes : List Class) :
    IsForest (facts.index classes) := by
  unfold index
  induction classes generalizing facts with
  | nil => exact h
  | cons c rest ih => exact ih (isForest_indexClass h c)

theorem register_congr {a b : Facts} (h : SameForest a b) (c : Class) :
    SameForest (a.register c) (b.register c) := by
  unfold register
  rw [h.participants, h.lineage, h.children]
  split
  · exact h
  · exact ⟨rfl, rfl, rfl⟩

theorem visitMethods_sameForest (facts : Facts) (c : Class) (archive : Nat)
    (methods : List Method) : SameForest (facts.visitMethods c archive methods).1 facts := by
  have hframe := visitMethods_frame (p := fun f => (f.participants, f.lineage, f.children))
    (fun _ _ _ _ _ => rfl) (fun facts key m => by unfold noteAnnotations; split <;> rfl)
    facts c archive methods
  obtain ⟨hp, hlc⟩ := Prod.mk.inj hframe
  obtain ⟨hl, hc⟩ := Prod.mk.inj hlc
  exact ⟨hp, hl, hc⟩

/-- Visiting classes while they are registered makes no difference to the forest. -/
theorem extract_sameForest {facts facts' : Facts} (h : SameForest facts facts') (archive : Nat)
    (classes : List Class) :
    SameForest (facts.extract archive classes).1 (classes.foldl register facts') := by
  induction classes generalizing facts facts' with
  | nil => exact h
  | cons c rest ih =>
    have hvisit : SameForest ((facts.register c).visit c archive).1 (facts.register c) :=
      visitMethods_sameForest _ c archive c.methods
    exact ih (hvisit.trans (register_congr h c))

/-! ## Contracts -/

theorem getElem?_foldl_insertIfNew (signatures : List String) (table : ExtTreeMap String Access)
    (s : String) :
    (signatures.foldl (fun table s => table.insertIfNew s contractAccess) table)[s]? =
      table[s]?.or (if s ∈ signatures then some contractAccess else none) := by
  induction signatures generalizing table with
  | nil => simp
  | cons signature rest ih =>
    rw [List.foldl_cons, ih, ExtTreeMap.getElem?_insertIfNew]
    by_cases hs : signature = s
    · subst hs
      by_cases hm : signature ∈ table
      · simp [hm]
      · simp [hm]
    · simp [hs, Ne.symm hs]

theorem inheritable_foldl_insertIfNew (signatures : List String) (table : ExtTreeMap String Access)
    (ht : ∀ (s : String) (a : Access), table[s]? = some a → a.IsInheritable)
    (s : String) (a : Access)
    (h : (signatures.foldl (fun table s => table.insertIfNew s contractAccess) table)[s]? =
      some a) : a.IsInheritable := by
  rw [getElem?_foldl_insertIfNew, Option.or_eq_some_iff] at h
  rcases h with h | ⟨-, h⟩
  · exact ht s a h
  · split at h
    · obtain rfl := Option.some.inj h
      exact Or.inl rfl
    · simp at h

/-- Handing out contracts changes the methods of classes and nothing else. -/
theorem lineage_propagateContracts (facts : Facts) (name : String) :
    ∃ extend : Lineage → Lineage,
      facts.propagateContracts.lineage[name]? = facts.lineage[name]?.map extend ∧
      ∀ info, (extend info).superName = info.superName ∧
        (extend info).isAbstract = info.isAbstract ∧
        ((∀ (s : String) (a : Access), info.methods[s]? = some a → a.IsInheritable) →
          ∀ (s : String) (a : Access), (extend info).methods[s]? = some a → a.IsInheritable) := by
  refine ⟨_, ExtTreeMap.getElem?_map, ?_⟩
  intro info
  split
  · exact ⟨rfl, rfl, fun ht => inheritable_foldl_insertIfNew _ _ ht⟩
  · exact ⟨rfl, rfl, fun ht => ht⟩

theorem isForest_propagateContracts {facts : Facts} (h : IsForest facts) :
    IsForest facts.propagateContracts where
  mem_childrenOf := by
    intro parent child
    obtain ⟨extend, hl, he⟩ := lineage_propagateContracts facts child
    refine (h.mem_childrenOf parent child).trans ?_
    rw [hl]
    constructor
    · rintro ⟨info, hi, hs, hp⟩
      exact ⟨extend info, by rw [hi]; rfl, by rw [(he info).1]; exact hs, hp⟩
    · rintro ⟨info', hi', hs, hp⟩
      obtain ⟨info, hi, rfl⟩ := Option.map_eq_some_iff.mp hi'
      exact ⟨info, hi, by rw [← (he info).1]; exact hs, hp⟩
  nodup := h.nodup
  ne_nil := h.ne_nil
  participates := by
    intro name hm
    obtain ⟨extend, hl, -⟩ := lineage_propagateContracts facts name
    rw [ExtTreeMap.mem_iff_isSome_getElem?, hl, Option.isSome_map] at hm
    exact h.participates name (ExtTreeMap.mem_iff_isSome_getElem?.mpr hm)
  inheritable := by
    intro name info' s a hi' ha
    obtain ⟨extend, hl, he⟩ := lineage_propagateContracts facts name
    rw [hl] at hi'
    obtain ⟨info, hi, rfl⟩ := Option.map_eq_some_iff.mp hi'
    exact (he info).2.2 (fun s a => h.inheritable name info s a hi) s a ha

/-! ## The classes of an archive -/

/-- A name takes part in inheritance if some class of the archive involves it. -/
theorem contains_participants_index (usage : Usage) (classes : List Class) (name : String) :
    ((ofUsage usage).index classes).participants.contains name = true ↔
      ∃ c ∈ classes, c.Involves name := by
  rw [ExtTreeSet.contains_iff_mem, mem_participants_index]
  simp [ofUsage]

/-- The entry of a name when all classes have been visited. -/
theorem lineage_extract_index (usage : Usage) (archive : Nat) (classes : List Class)
    (name : String) :
    (((ofUsage usage).index classes).extract archive classes).1.lineage[name]? =
      if ((ofUsage usage).index classes).participants.contains name then
        (concrete? classes name).map .ofClass
      else none := by
  have hempty : ((ofUsage usage).index classes).lineage[name]? = none := by
    rw [lineage_index]
    simp [ofUsage]
  rw [(extract_sameForest (.refl ((ofUsage usage).index classes)) archive classes).lineage,
    lineage_foldl_register, hempty, Option.none_or]

/-- The facts about the classes of an archive when the walk begins. -/
def beforeWalk (usage : Usage) (archive : Nat) (classes : List Class) : Facts :=
  (((ofUsage usage).index classes).extract archive classes).1.propagateContracts

theorem isForest_extract_index (usage : Usage) (archive : Nat) (classes : List Class) :
    IsForest (((ofUsage usage).index classes).extract archive classes).1 := by
  have hindex : IsForest ((ofUsage usage).index classes) :=
    isForest_index (isForest_ofUsage usage) classes
  have hextract := extract_sameForest (.refl ((ofUsage usage).index classes)) archive classes
  exact hextract.symm.isForest (isForest_foldl_register hindex classes)

theorem isForest_beforeWalk (usage : Usage) (archive : Nat) (classes : List Class) :
    IsForest (beforeWalk usage archive classes) :=
  isForest_propagateContracts (isForest_extract_index usage archive classes)

end Facts

end CallGraph
