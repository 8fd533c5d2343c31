import CallGraph.Proofs.Indexing
import CallGraph.Proofs.Occurrence
import Mathlib.Data.String.Basic

/-!
# The annotations of an archive

Annotations are noted under the rendered key of their method while classes are visited. Methods that
render alike share a key; the first of them that has annotations stands for all.

* `Class.annotated?` — the method whose annotations a key has
* `Facts.annotations_extract` — what is noted when all classes have been visited
* `Class.Annotated` — the annotations of classes in the order in which they are reported
-/

namespace CallGraph

open Std (ExtTreeMap ExtTreeSet)

/-! ## First come, first noted -/

namespace Class

/-- All methods with their classes, in order. -/
def declarations (classes : List Class) : List (Class × Method) :=
  classes.flatMap fun c => c.methods.map (Prod.mk c)

/-- The first of the methods with a rendered key that has annotations. -/
def annotated? (declared : List (Class × Method)) (key : String) : Option Method :=
  (declared.find? fun d => (d.1.key d.2).text = key ∧ d.2.annotations ≠ []).map Prod.snd

theorem annotated?_append (before after : List (Class × Method)) (key : String) :
    annotated? (before ++ after) key = (annotated? before key).or (annotated? after key) := by
  unfold annotated?
  rw [List.find?_append, Option.map_or]

theorem annotated?_singleton (c : Class) (m : Method) (key : String) :
    annotated? [(c, m)] key =
      if (c.key m).text = key ∧ m.annotations ≠ [] then some m else none := by
  unfold annotated?
  split
  · next h => simp [h]
  · next h => simp [h]

theorem isSome_annotated? (classes : List Class) (key : String) :
    (annotated? (declarations classes) key).isSome = true ↔
      ∃ c ∈ classes, ∃ m ∈ c.methods, m.annotations ≠ [] ∧ (c.key m).text = key := by
  unfold annotated? declarations
  rw [Option.isSome_map, List.find?_isSome]
  simp only [List.mem_flatMap, List.mem_map, decide_eq_true_eq]
  constructor
  · rintro ⟨_, ⟨c, hc, m, hm, rfl⟩, hkey, ha⟩
    exact ⟨c, hc, m, hm, ha, hkey⟩
  · rintro ⟨c, hc, m, hm, ha, hkey⟩
    exact ⟨(c, m), ⟨c, hc, m, hm, rfl⟩, hkey, ha⟩

end Class

namespace Facts

/-- The annotations of a method, without repetitions and in order. -/
def annotationSet (m : Method) : ExtTreeSet String := ExtTreeSet.ofList m.annotations compare

theorem annotations_noteAnnotations (facts : Facts) (c : Class) (m : Method) (key : String) :
    (facts.noteAnnotations (c.key m) m).annotations[key]? =
      facts.annotations[key]?.or ((Class.annotated? [(c, m)] key).map annotationSet) := by
  rw [Class.annotated?_singleton]
  unfold noteAnnotations
  split
  · next hnone => simp [List.isEmpty_iff.mp hnone]
  · next hsome =>
    have hsome : m.annotations ≠ [] := by simpa using hsome
    simp only [ExtTreeMap.getElem?_insertIfNew, Std.compare_eq_iff_eq]
    by_cases hkey : (c.key m).text = key
    · subst hkey
      by_cases hm : (c.key m).text ∈ facts.annotations
      · simp [hm]
      · simp [hm, hsome, annotationSet]
    · simp [hkey]

theorem annotations_visitMethods (facts : Facts) (c : Class) (archive : Nat) (methods : List Method)
    (key : String) :
    (facts.visitMethods c archive methods).1.annotations[key]? =
      facts.annotations[key]?.or
        ((Class.annotated? (methods.map (Prod.mk c)) key).map annotationSet) := by
  induction methods generalizing facts with
  | nil => simp [visitMethods, Class.annotated?]
  | cons m methods ih =>
    have hvisit : (facts.visitMethod c archive m).1.annotations =
        (facts.noteAnnotations (c.key m) m).annotations :=
      takeCalls_frame (p := Facts.annotations) (fun _ _ _ _ _ => rfl) _ _ m archive _
    rw [visitMethods, ih, hvisit, annotations_noteAnnotations, Option.or_assoc, ← Option.map_or,
      ← Class.annotated?_append]
    rfl

/-- **Each key has the annotations of the first method that has any.** -/
theorem annotations_extract (facts : Facts) (archive : Nat) (classes : List Class) (key : String) :
    (facts.extract archive classes).1.annotations[key]? =
      facts.annotations[key]?.or
        ((Class.annotated? (Class.declarations classes) key).map annotationSet) := by
  induction classes generalizing facts with
  | nil => simp [extract, Class.declarations, Class.annotated?]
  | cons c classes ih =>
    have hregister : (facts.register c).annotations = facts.annotations := by
      unfold register
      split <;> rfl
    rw [extract, ih, visit, annotations_visitMethods, hregister, Option.or_assoc, ← Option.map_or,
      ← Class.annotated?_append]
    rfl

/-- The annotations of all methods have been noted when the classes have been visited. -/
theorem mem_annotations_extract (facts : Facts) (archive : Nat) (classes : List Class) (text : String) :
    text ∈ (facts.extract archive classes).1.annotations ↔ text ∈ facts.annotations ∨
      ∃ c ∈ classes, ∃ m ∈ c.methods, m.annotations ≠ [] ∧ (c.key m).text = text := by
  rw [ExtTreeMap.mem_iff_isSome_getElem?, annotations_extract, Option.isSome_or, Bool.or_eq_true,
    Option.isSome_map, Class.isSome_annotated?, ← ExtTreeMap.mem_iff_isSome_getElem?]

theorem annotations_indexClass (facts : Facts) (c : Class) :
    (facts.indexClass c).annotations = facts.annotations := by
  unfold indexClass indexSuper indexInterface indexImplementor
  split <;> split <;> split <;> rfl

theorem annotations_index (facts : Facts) (classes : List Class) :
    (facts.index classes).annotations = facts.annotations := by
  unfold index
  induction classes generalizing facts with
  | nil => rfl
  | cons c classes ih => rw [List.foldl_cons, ih, annotations_indexClass]

/-! ## The order of the stream -/

/-- The noted annotations, each with its key. -/
def annotationPairs (facts : Facts) : List (String × String) :=
  facts.annotations.toList.flatMap fun entry => entry.2.toList.map (Prod.mk entry.1)

theorem annotationRecords_eq (facts : Facts) :
    facts.annotationRecords = facts.annotationPairs.map fun p => .annotated p.1 p.2 := by
  simp [annotationRecords, annotationPairs, List.map_flatMap, Function.comp_def]

theorem mem_annotationPairs (facts : Facts) (key type : String) :
    (key, type) ∈ facts.annotationPairs ↔
      ∃ types, facts.annotations[key]? = some types ∧ type ∈ types := by
  simp only [annotationPairs, List.mem_flatMap, List.mem_map, Prod.mk.injEq, Prod.exists,
    ExtTreeMap.mem_toList_iff_getElem?_eq_some, ExtTreeSet.mem_toList]
  constructor
  · rintro ⟨_, types, hget, _, hm, rfl, rfl⟩
    exact ⟨types, hget, hm⟩
  · rintro ⟨types, hget, hm⟩
    exact ⟨key, types, hget, type, hm, rfl, rfl⟩

theorem pairwise_annotationPairs (facts : Facts) :
    facts.annotationPairs.Pairwise (Prod.Lex (· < ·) (· < ·)) := by
  refine List.pairwise_flatMap.mpr ⟨fun entry _ => ?_, ?_⟩
  · rw [List.pairwise_map]
    exact ExtTreeSet.ordered_toList.imp fun h => .right _ (compare_lt_iff_lt.mp h)
  · refine ExtTreeMap.ordered_keys_toList.imp fun h p hp q hq => ?_
    obtain ⟨_, -, rfl⟩ := List.mem_map.mp hp
    obtain ⟨_, -, rfl⟩ := List.mem_map.mp hq
    exact .left _ _ (compare_lt_iff_lt.mp h)

end Facts

/-- The annotations of the methods of classes, by key and then by annotation, each one once. -/
structure Class.Annotated (classes : List Class) (pairs : List (String × String)) : Prop where
  ascending : pairs.Pairwise (Prod.Lex (· < ·) (· < ·))
  mem_iff : ∀ key type, (key, type) ∈ pairs ↔
    ∃ m, annotated? (declarations classes) key = some m ∧ type ∈ m.annotations

end CallGraph
