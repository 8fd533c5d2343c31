import CallGraph.Proofs.ByteOrder
import CallGraph.Proofs.Outcome

/-!
# When an archive fails

The walk stops at a top class without subclasses. Whether there is one can be read off the classes
of the archive: such a class takes part in inheritance only through an interface or through a class
that another one of the same name keeps out of the forest.

* `mem_tops_beforeWalk`, `mem_children_beforeWalk` — the top classes and the classes with
  subclasses, in terms of the classes of the archive
* `processClasses_fails_iff` — exactly when an archive fails, and with which message
-/

namespace CallGraph

open Std (ExtTreeMap ExtTreeSet)

/-- A class is at the top of the forest although nothing is below it. -/
structure Stranded (classes : List Class) (name : String) : Prop where
  /-- The class has no superclass, or one of the platform. -/
  top : ∃ c, Facts.concrete? classes name = some c ∧
    ∀ super, c.superName = some super → ClassName.isPlatform super = true
  /-- Some class, possibly an interface, brings the name into the forest. -/
  involved : ∃ c ∈ classes, c.Involves name
  /-- No registered class has the name as its superclass. -/
  childless : ¬ ∃ c ∈ classes, Facts.concrete? classes c.name = some c ∧
    c.superName = some name ∧ ClassName.isPlatform name = false

namespace Facts

theorem isPlatform_objectName : ClassName.isPlatform objectName = true := by decide

/-- A superclass outside the platform is one that the class states. -/
theorem superName_eq_some {c : Class} {super : String} (h : c.superName.getD objectName = super)
    (ho : ClassName.isPlatform super = false) : c.superName = some super := by
  cases hs : c.superName with
  | none =>
    rw [hs, Option.getD_none] at h
    rw [← h, isPlatform_objectName] at ho
    simp at ho
  | some stated =>
    rw [hs, Option.getD_some] at h
    rw [h]

theorem concrete?_name {classes : List Class} {name : String} {c : Class} (h : concrete? classes name = some c) :
    c ∈ classes ∧ c.isInterface = false ∧ c.name = name := by
  have hp := List.find?_some h
  simp only [Bool.and_eq_true, Bool.not_eq_true', decide_eq_true_eq] at hp
  exact ⟨List.mem_of_find?_eq_some h, hp.1, hp.2⟩

/-! ## The forest of an archive -/

/-- The superclass that the forest records for a name. -/
theorem superName_beforeWalk (usage : Usage) (archive : Nat) (classes : List Class)
    (name super : String) :
    (∃ info, (beforeWalk usage archive classes).lineage[name]? = some info ∧
      info.superName = super) ↔
    (∃ c ∈ classes, c.Involves name) ∧
      ∃ c, concrete? classes name = some c ∧ c.superName.getD objectName = super := by
  obtain ⟨extend, hl, he⟩ := lineage_propagateContracts
    (((ofUsage usage).index classes).extract archive classes).1 name
  have hpart := contains_participants_index usage classes name
  unfold beforeWalk
  rw [hl, lineage_extract_index]
  constructor
  · rintro ⟨info', hi', hs⟩
    obtain ⟨info, hi, rfl⟩ := Option.map_eq_some_iff.mp hi'
    rw [(he info).1] at hs
    split at hi
    · next hp =>
      obtain ⟨c, hc, rfl⟩ := Option.map_eq_some_iff.mp hi
      exact ⟨hpart.mp hp, c, hc, hs⟩
    · simp at hi
  · rintro ⟨hp, c, hc, hs⟩
    rw [if_pos (hpart.mpr hp), hc]
    exact ⟨extend (.ofClass c), rfl, by rw [(he _).1]; exact hs⟩

theorem mem_tops_beforeWalk (usage : Usage) (archive : Nat) (classes : List Class)
    (name : String) :
    name ∈ (beforeWalk usage archive classes).tops ↔
      (∃ c ∈ classes, c.Involves name) ∧ ∃ c, concrete? classes name = some c ∧
        ∀ super, c.superName = some super → ClassName.isPlatform super = true := by
  rw [mem_tops]
  constructor
  · rintro ⟨info, hi, hp⟩
    obtain ⟨hinv, c, hc, hs⟩ := (superName_beforeWalk usage archive classes name _).mp ⟨info, hi, rfl⟩
    refine ⟨hinv, c, hc, ?_⟩
    intro super hsuper
    rw [hsuper, Option.getD_some] at hs
    rw [hs]
    exact hp
  · rintro ⟨hinv, c, hc, hp⟩
    obtain ⟨info, hi, hs⟩ := (superName_beforeWalk usage archive classes name _).mpr ⟨hinv, c, hc, rfl⟩
    refine ⟨info, hi, ?_⟩
    rw [hs]
    cases hsuper : c.superName with
    | none => exact isPlatform_objectName
    | some super => exact hp super hsuper

theorem mem_children_beforeWalk (usage : Usage) (archive : Nat) (classes : List Class)
    (name : String) :
    name ∈ (beforeWalk usage archive classes).children ↔
      ∃ c ∈ classes, concrete? classes c.name = some c ∧ c.superName = some name ∧
        ClassName.isPlatform name = false := by
  rw [(isForest_beforeWalk usage archive classes).mem_children]
  constructor
  · rintro ⟨child, info, hi, hs, ho⟩
    obtain ⟨-, c, hc, hs'⟩ := (superName_beforeWalk usage archive classes child name).mp ⟨info, hi, hs⟩
    obtain ⟨hcm, -, rfl⟩ := concrete?_name hc
    exact ⟨c, hcm, hc, superName_eq_some hs' ho, ho⟩
  · rintro ⟨c, hcm, hc, hs, ho⟩
    obtain ⟨info, hi, hsuper⟩ := (superName_beforeWalk usage archive classes c.name name).mpr
      ⟨⟨c, hcm, name, hs, ho, Or.inl rfl⟩, c, hc, by rw [hs]; rfl⟩
    exact ⟨c.name, info, hi, hsuper, ho⟩

/-- **The walk stops at the stranded classes.** -/
theorem stranded_iff (usage : Usage) (archive : Nat) (classes : List Class) (name : String) :
    Stranded classes name ↔ name ∈ (beforeWalk usage archive classes).tops ∧
      (beforeWalk usage archive classes).children.contains name = false := by
  rw [mem_tops_beforeWalk, ← Bool.not_eq_true, ExtTreeMap.contains_iff_mem, mem_children_beforeWalk]
  constructor
  · rintro ⟨htop, hinv, hno⟩
    exact ⟨⟨hinv, htop⟩, hno⟩
  · rintro ⟨⟨hinv, htop⟩, hno⟩
    exact ⟨htop, hinv, hno⟩

/-! ## Which class is named -/

/-- The tops come in ascending order. -/
theorem sorted_tops (facts : Facts) : facts.tops.Pairwise (· < ·) := by
  unfold tops
  rw [List.pairwise_map]
  refine (List.Pairwise.filter _ ExtTreeMap.ordered_keys_toList).imp ?_
  intro a b h
  exact compareOfLessAndEq_eq_lt.mp h

/-- The first member of an ascending list with a property is the least one. -/
theorem le_of_find?_sorted {names : List String} (hs : names.Pairwise (· < ·))
    {p : String → Bool} {name : String} (hf : names.find? p = some name) {other : String}
    (hm : other ∈ names) (hp : p other = true) : name ≤ other := by
  obtain ⟨-, before, after, rfl, hnone⟩ := List.find?_eq_some_iff_append.mp hf
  rw [List.mem_append, List.mem_cons] at hm
  rcases hm with hm | rfl | hm
  · have := hnone other hm
    simp [hp] at this
  · exact Std.le_refl other
  · obtain ⟨-, hafter, -⟩ := List.pairwise_append.mp hs
    exact Std.le_of_lt ((List.pairwise_cons.mp hafter).1 other hm)

end Facts

/-! ## Archives without stranded classes -/

theorem concrete?_of_nodup {classes : List Class}
    (hd : ((classes.filter (!·.isInterface)).map Class.name).Nodup) {c : Class} (hc : c ∈ classes)
    (hi : c.isInterface = false) : Facts.concrete? classes c.name = some c := by
  cases hf : Facts.concrete? classes c.name with
  | none =>
    have := List.find?_eq_none.mp hf c hc
    simp [hi] at this
  | some first =>
    obtain ⟨hm, hi', hn⟩ := Facts.concrete?_name hf
    have hmem : first ∈ classes.filter (!·.isInterface) := List.mem_filter.mpr ⟨hm, by simp [hi']⟩
    have hmem' : c ∈ classes.filter (!·.isInterface) := List.mem_filter.mpr ⟨hc, by simp [hi]⟩
    rw [List.inj_on_of_nodup_map hd hmem hmem' hn]

/-- Where every class has a name of its own and interfaces stay out of inheritance, a class is
brought into the forest by itself or by a subclass that is in it. -/
theorem not_stranded {classes : List Class}
    (hd : ((classes.filter (!·.isInterface)).map Class.name).Nodup)
    (hi : ∀ c ∈ classes, c.isInterface = true → ∀ super, c.superName = some super →
      ClassName.isPlatform super = true) (name : String) : ¬ Stranded classes name := by
  rintro ⟨⟨first, hfirst, hplat⟩, ⟨c, hc, super, hs, ho, hname⟩, hno⟩
  have hcon : c.isInterface = false := by
    rw [← Bool.not_eq_true]
    intro h
    rw [hi c hc h super hs] at ho
    simp at ho
  have hreg := concrete?_of_nodup hd hc hcon
  rcases hname with rfl | rfl
  · -- The class that brings the name in is the class of the name, and no top class.
    rw [hreg] at hfirst
    obtain rfl := Option.some.inj hfirst
    rw [hplat super hs] at ho
    simp at ho
  · -- The class that brings the name in is registered below it.
    exact hno ⟨c, hc, hreg, hs, ho⟩

namespace Engine

/-- **Exactly when an archive fails.** It fails if some class is stranded, with the least stranded
class, in the order of bytes, as the only cause. It never does if the classes have names of their
own and interfaces have superclasses of the platform or none, whatever other superclasses are
missing. -/
theorem processClasses_fails_iff (engine : Engine) (index : Nat) (classes : List Class) :
    ((∃ e, (engine.processClasses index classes).result = .error e) ↔
      ∃ name, Stranded classes name) ∧
    (∀ e, (engine.processClasses index classes).result = .error e →
      ∃ name, e = .noSubclasses name ∧
        e.message = "can't find subclasses of top superclass " ++ name ∧
        Stranded classes name ∧
        ∀ other, Stranded classes other → Text.bytes name ≤ Text.bytes other) ∧
    (((classes.filter (!·.isInterface)).map Class.name).Nodup →
      (∀ c ∈ classes, c.isInterface = true → ∀ super, c.superName = some super →
        ClassName.isPlatform super = true) →
      ∃ summary, (engine.processClasses index classes).result = .ok summary) := by
  have hf := Facts.isForest_beforeWalk engine.initialUsage index classes
  have hstranded := Facts.stranded_iff engine.initialUsage index classes
  cases ht : (Facts.beforeWalk engine.initialUsage index classes).tops.find?
      (fun t => !(Facts.beforeWalk engine.initialUsage index classes).children.contains t) with
  | none =>
    have hnone : ∀ name, ¬ Stranded classes name := by
      intro name hs
      obtain ⟨hm, hc⟩ := (hstranded name).mp hs
      have := List.find?_eq_none.mp ht name hm
      simp [hc] at this
    have hok : ∃ summary, (engine.processClasses index classes).result = .ok summary :=
      (processClasses_of_ok (Facts.walked_hierarchyWalk hf ht).edges).1
    obtain ⟨summary, hok⟩ := hok
    rw [hok]
    refine ⟨?_, ?_, fun _ _ => ⟨summary, rfl⟩⟩
    · simp [hnone]
    · simp
  | some top =>
    obtain ⟨hp, -⟩ := List.find?_eq_some_iff_append.mp ht
    have htop : Stranded classes top :=
      (hstranded top).mpr ⟨List.mem_of_find?_eq_some ht, by simpa using hp⟩
    have herr := (processClasses_of_error (Facts.hierarchyWalk_error hf ht)).1
    rw [herr]
    refine ⟨?_, ?_, fun hd hi => absurd htop (not_stranded hd hi top)⟩
    · exact ⟨fun _ => ⟨top, htop⟩, fun _ => ⟨_, rfl⟩⟩
    · rintro e he
      obtain rfl := Except.error.inj he
      refine ⟨top, rfl, rfl, htop, ?_⟩
      intro other hother
      obtain ⟨hm, hc⟩ := (hstranded other).mp hother
      have hle : top ≤ other :=
        Facts.le_of_find?_sorted (Facts.sorted_tops _) ht hm (by simp [hc])
      exact fun hlt => hle ((Text.bytes_lt_iff other top).mp hlt)

/-- Two classes that only interfaces extend, and one that extends itself. -/
def strays : List Class :=
  [⟨"View", some "Widget", [], true, true, [], [], []⟩,
   ⟨"Widget", none, [], false, false, [], [], []⟩,
   ⟨"Panel", some "Frame", [], true, true, [], [], []⟩,
   ⟨"Frame", some "java.lang.Object", [], false, false, [], [], []⟩,
   ⟨"Mirror", some "Mirror", [], false, false, [], [], []⟩]

theorem processClasses_fails_iff_strays :
    ((start {}).processClasses 1 strays).result = .error (.noSubclasses "Frame") ∧
      Stranded strays "Frame" ∧
      (∀ other, Stranded strays other → Text.bytes "Frame" ≤ Text.bytes other) ∧
      ∃ summary, ((start {}).processClasses 1 (strays.filter (!·.isInterface))).result =
        .ok summary := by
  have herr : ((start {}).processClasses 1 strays).result = .error (.noSubclasses "Frame") := by
    decide +kernel
  obtain ⟨-, hleast, -⟩ := processClasses_fails_iff (start {}) 1 strays
  obtain ⟨name, hname, -, hs, hle⟩ := hleast _ herr
  obtain rfl := HierarchyError.noSubclasses.inj hname
  obtain ⟨-, -, hok⟩ := processClasses_fails_iff (start {}) 1 (strays.filter (!·.isInterface))
  exact ⟨herr, hs, hle, hok (by decide) (by decide)⟩

end Engine

end CallGraph
