import CallGraph.Facts

/-!
# What the first look over the classes finds

`Facts.index` goes through the classes once. Each table it fills has a rule of its own for classes
of the same name; here each rule is said about the whole list of classes.

* `mem_participants_index` — who takes part in inheritance: any class counts, interfaces as well
* `implementors_index` — whom a name stands for as an implementor: the first class that qualifies
* `contracts_index` — what an interface asks for: the first interface of the name that has methods
-/

namespace CallGraph

open Std (ExtTreeMap ExtTreeSet)

/-- A class has a superclass outside the platform, and `name` is its name or that of the
superclass. -/
def Class.Involves (c : Class) (name : String) : Prop :=
  ∃ super, c.superName = some super ∧ ClassName.isPlatform super = false ∧
    (c.name = name ∨ super = name)

/-- A class that implements interfaces under its name. -/
def Class.isImplementor (c : Class) : Bool :=
  !c.isInterface && !c.interfaces.isEmpty && !c.methods.isEmpty

/-- The class that implements interfaces under a name. -/
def implementor? (classes : List Class) (name : String) : Option Class :=
  classes.find? fun c => c.isImplementor && c.name = name

/-- The interface that states the contract of a name. -/
def contract? (classes : List Class) (name : String) : Option Class :=
  classes.find? fun c => c.isInterface && !c.methods.isEmpty && c.name = name

/-- What is recorded about a class that implements interfaces. -/
def Implementor.ofClass (c : Class) : Implementor :=
  ⟨c.interfaces, Facts.signaturesOf Facts.isDispatchTarget c⟩

namespace Facts

/-! ## What the first look leaves alone -/

theorem lineage_indexClass (facts : Facts) (c : Class) :
    (facts.indexClass c).lineage = facts.lineage := by
  unfold indexClass indexSuper indexInterface indexImplementor
  split <;> split <;> split <;> rfl

theorem children_indexClass (facts : Facts) (c : Class) :
    (facts.indexClass c).children = facts.children := by
  unfold indexClass indexSuper indexInterface indexImplementor
  split <;> split <;> split <;> rfl

theorem lineage_index (facts : Facts) (classes : List Class) :
    (facts.index classes).lineage = facts.lineage := by
  unfold index
  induction classes generalizing facts with
  | nil => rfl
  | cons c rest ih => rw [List.foldl_cons, ih, lineage_indexClass]

/-! ## Participants -/

theorem mem_participants_indexSuper (facts : Facts) (c : Class) (name : String) :
    name ∈ (facts.indexSuper c).participants ↔ name ∈ facts.participants ∨ c.Involves name := by
  unfold indexSuper Class.Involves
  cases hs : c.superName with
  | none => simp
  | some super =>
    by_cases hp : ClassName.isPlatform super = true
    · simp [hp]
    · have hpf : ClassName.isPlatform super = false := by simpa using hp
      simp only [hpf, Bool.false_eq_true, if_false, ExtTreeSet.mem_insert,
        Std.LawfulEqCmp.compare_eq_iff_eq, Option.some.injEq, exists_eq_left', true_and]
      constructor
      · rintro (h | h | h)
        · exact Or.inr (Or.inr h)
        · exact Or.inr (Or.inl h)
        · exact Or.inl h
      · rintro (h | h | h)
        · exact Or.inr (Or.inr h)
        · exact Or.inr (Or.inl h)
        · exact Or.inl h

theorem mem_participants_indexClass (facts : Facts) (c : Class) (name : String) :
    name ∈ (facts.indexClass c).participants ↔ name ∈ facts.participants ∨ c.Involves name := by
  have hframe : (if c.isInterface then facts.indexInterface c
      else facts.indexImplementor c).participants = facts.participants := by
    unfold indexInterface indexImplementor
    split <;> split <;> rfl
  unfold indexClass
  rw [mem_participants_indexSuper, hframe]

/-- A name takes part in inheritance if some class involves it. -/
theorem mem_participants_index (facts : Facts) (classes : List Class) (name : String) :
    name ∈ (facts.index classes).participants ↔
      name ∈ facts.participants ∨ ∃ c ∈ classes, c.Involves name := by
  unfold index
  induction classes generalizing facts with
  | nil => simp
  | cons c rest ih =>
    rw [List.foldl_cons, ih, mem_participants_indexClass]
    simp [or_assoc]

/-! ## Implementors -/

theorem implementors_indexClass (facts : Facts) (c : Class) (name : String) :
    (facts.indexClass c).implementors[name]? =
      facts.implementors[name]?.or
        (if c.isImplementor && c.name = name then some (.ofClass c) else none) := by
  have hsuper : ∀ f : Facts, (f.indexSuper c).implementors = f.implementors := by
    intro f
    unfold indexSuper
    split <;> rfl
  unfold indexClass
  rw [hsuper]
  unfold Class.isImplementor indexInterface indexImplementor
  by_cases hi : c.isInterface = true
  · simp only [hi, if_true]
    split <;> simp
  · by_cases he : (c.interfaces.isEmpty || c.methods.isEmpty) = true
    · have hq : (!c.interfaces.isEmpty && !c.methods.isEmpty) = false := by
        rw [← Bool.not_or, he, Bool.not_true]
      simp [hi, he, hq]
    · have hq : (!c.interfaces.isEmpty && !c.methods.isEmpty) = true := by
        simpa using he
      simp only [hi, he, Bool.and_assoc, hq, Bool.false_eq_true, if_false, Bool.false_or]
      by_cases hn : c.name = name
      · subst hn
        cases hk : facts.implementors[c.name]? with
        | none =>
          have : facts.implementors.contains c.name = false := by
            simp [ExtTreeMap.contains_eq_isSome_getElem?, hk]
          simp [this, Implementor.ofClass]
        | some known =>
          have : facts.implementors.contains c.name = true := by
            simp [ExtTreeMap.contains_eq_isSome_getElem?, hk]
          simp [this, hk]
      · split
        · simp [hn]
        · simp [hn, ExtTreeMap.getElem?_insert]

/-- The first class of a name that qualifies is the implementor of that name. -/
theorem implementors_index (facts : Facts) (classes : List Class) (name : String) :
    (facts.index classes).implementors[name]? =
      facts.implementors[name]?.or ((implementor? classes name).map .ofClass) := by
  unfold index implementor?
  induction classes generalizing facts with
  | nil => simp
  | cons c rest ih =>
    rw [List.foldl_cons, ih, implementors_indexClass, Option.or_assoc, List.find?_cons]
    cases c.isImplementor && decide (c.name = name) <;> simp

/-! ## Contracts -/

theorem contracts_indexClass (facts : Facts) (c : Class) (name : String) :
    (facts.indexClass c).contracts[name]? =
      facts.contracts[name]?.or
        (if c.isInterface && !c.methods.isEmpty && c.name = name then
          some (signaturesOf (·.flags.isAbstract) c) else none) := by
  have hsuper : ∀ f : Facts, (f.indexSuper c).contracts = f.contracts := by
    intro f
    unfold indexSuper
    split <;> rfl
  unfold indexClass
  rw [hsuper]
  unfold indexInterface indexImplementor
  by_cases hi : c.isInterface = true
  · by_cases he : c.methods.isEmpty = true
    · simp [hi, he]
    · simp only [hi, he, if_true, Bool.false_eq_true, if_false, Bool.not_false, Bool.true_and,
        ExtTreeMap.getElem?_insertIfNew]
      by_cases hn : c.name = name
      · subst hn
        by_cases hk : c.name ∈ facts.contracts
        · simp [hk]
        · simp [hk]
      · simp [hn]
  · simp only [hi, Bool.false_eq_true, if_false, Bool.false_and, Option.or_none]
    split <;> rfl

/-- The first interface of a name that has methods states the contract of that name. -/
theorem contracts_index (facts : Facts) (classes : List Class) (name : String) :
    (facts.index classes).contracts[name]? =
      facts.contracts[name]?.or
        ((contract? classes name).map (signaturesOf (·.flags.isAbstract))) := by
  unfold index contract?
  induction classes generalizing facts with
  | nil => simp
  | cons c rest ih =>
    rw [List.foldl_cons, ih, contracts_indexClass, Option.or_assoc, List.find?_cons]
    cases c.isInterface && !c.methods.isEmpty && decide (c.name = name) <;> simp

/-! ## Signatures -/

theorem mem_signaturesOf {p : Method → Bool} {c : Class} {signature : String} :
    signature ∈ signaturesOf p c ↔ ∃ m ∈ c.methods, p m = true ∧ m.signature = signature := by
  unfold signaturesOf
  rw [List.mem_eraseDups, List.mem_map]
  simp only [List.mem_filter, and_assoc]

theorem nodup_eraseDups (names : List String) : names.eraseDups.Nodup := by
  generalize hn : names.length = n
  induction n using Nat.strongRecOn generalizing names with
  | ind n ih =>
    cases names with
    | nil => simp
    | cons name names =>
      rw [List.eraseDups_cons, List.nodup_cons, List.mem_eraseDups]
      refine ⟨by simp, ih _ ?_ _ rfl⟩
      rw [← hn, List.length_cons]
      exact Nat.lt_succ_of_le (List.length_filter_le _ _)

/-- However many methods share a signature, it counts once. -/
theorem nodup_signaturesOf (p : Method → Bool) (c : Class) : (signaturesOf p c).Nodup :=
  nodup_eraseDups _

end Facts

end CallGraph
