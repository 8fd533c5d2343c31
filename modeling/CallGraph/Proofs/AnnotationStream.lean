import CallGraph.Proofs.Annotations
import CallGraph.Proofs.Streams

/-!
# The stream of annotations

Annotations are reported once an archive is done. With a stream for them they are written there;
without one they are counted.

* `Engine.annotated_visited` — what has been noted when all classes have been visited
* `Engine.annotations_written` — what is written of it
-/

namespace CallGraph

open Std (ExtTreeMap ExtTreeSet)

/-- Without annotations among the records, a stream for them makes no difference. -/
theorem Sink.writeAll_of_plain (sink : Sink) {records : List Record}
    (h : records.filter (·.isAnnotated) = []) :
    (sink.writeAll records).2.annotations = "" ∧ (sink.writeAll records).1 = sink := by
  rw [annotations_writeAll, fst_writeAll, h]
  obtain ⟨format, keeps, dropped⟩ := sink
  cases keeps <;> exact ⟨rfl, rfl⟩

namespace Engine

variable {engine : Engine} {index : Nat} {classes : List Class}

theorem annotated_visited (engine : Engine) (index : Nat) (classes : List Class) :
    Class.Annotated classes (engine.visited index classes).1.annotationPairs := by
  refine ⟨Facts.pairwise_annotationPairs _, fun key type => ?_⟩
  have hstart : ((Facts.ofUsage engine.initialUsage).index classes).annotations[key]? = none := by
    rw [Facts.annotations_index]
    exact ExtTreeMap.getElem?_empty
  rw [Facts.mem_annotationPairs, visited, Facts.annotations_extract, hstart, Option.none_or]
  simp [Facts.annotationSet, ExtTreeSet.mem_ofList]

theorem annotationStream_of_result_error {e : HierarchyError}
    (h : (engine.processClasses index classes).result = .error e) :
    (engine.processClasses index classes).annotationStream = [] := by
  cases hwalk : (engine.forestWalk index classes).edges with
  | error e' => exact annotationStream_of_error hwalk
  | ok hierarchy =>
    obtain ⟨⟨summary, hok⟩, -⟩ := processClasses_of_ok hwalk
    rw [hok] at h
    cases h

/-- **What is written of the annotations of an archive.** The stream has them in order if the archive
does not fail, and nothing else; without a stream they are counted, and nothing else changes. -/
theorem annotations_written (engine : Engine) (index : Nat) (classes : List Class) (sink : Sink) :
    let out := engine.processClasses index classes
    let kept := { sink with keepsAnnotations := true }.writeAll out.records
    let lost := { sink with keepsAnnotations := false }.writeAll out.records
    (∀ summary, out.result = .ok summary → ∃ pairs, Class.Annotated classes pairs ∧
        out.annotationStream = pairs.map (fun p => .annotated p.1 p.2) ∧
        kept.2.annotations =
          Record.lines sink.format (pairs.map fun p => .annotated p.1 p.2) ∧
        lost.1 = { sink with
          keepsAnnotations := false, dropped := sink.dropped + pairs.length }) ∧
      (∀ e, out.result = .error e → out.annotationStream = [] ∧ kept.2.annotations = "" ∧
        lost.1 = { sink with keepsAnnotations := false }) ∧
      kept.1 = { sink with keepsAnnotations := true } ∧
      lost.2 = { edges := kept.2.edges, annotations := "" } ∧
      ∀ path located e, (engine.processArchive path located).result = .error e →
        (sink.writeAll (engine.processArchive path located).records).2.annotations = "" ∧
          (sink.writeAll (engine.processArchive path located).records).1 = sink := by
  intro out kept lost
  have hkept : kept.2.annotations = Record.lines sink.format out.annotationStream :=
    Sink.annotations_writeAll _ _
  have hlost : lost.1 = { sink with
      keepsAnnotations := false, dropped := sink.dropped + out.annotationStream.length } :=
    Sink.fst_writeAll _ _
  refine ⟨?_, ?_, Sink.fst_writeAll _ _, ?_, ?_⟩
  · intro summary hok
    obtain ⟨hierarchy, hwalk⟩ := exists_forestWalk_of_ok hok
    have hstream : out.annotationStream = _ :=
      (annotationStream_of_ok hwalk).trans (Facts.annotationRecords_eq _)
    refine ⟨_, annotated_visited engine index classes, hstream, ?_, ?_⟩
    · rw [hkept, hstream]
    · rw [hlost, hstream, List.length_map]
  · intro e herror
    have hstream : out.annotationStream = [] := annotationStream_of_result_error herror
    rw [hkept, hlost, hstream]
    exact ⟨rfl, rfl, rfl⟩
  · have hedges : kept.2.edges = Record.lines sink.format out.edgeStream :=
      Sink.edges_writeAll _ _
    have hsame : lost.2.edges = Record.lines sink.format out.edgeStream :=
      Sink.edges_writeAll _ _
    have hnone : lost.2.annotations = "" := Sink.annotations_writeAll _ _
    rw [hedges, ← hsame, ← hnone]
  · intro path located e herror
    refine Sink.writeAll_of_plain sink (List.filter_eq_nil_iff.mpr fun r hr => ?_)
    simp [((failsAfter_of_error herror).plain hr).1]

/-- A method with annotations and without code. -/
def bare (name : String) (annotations : List String) : Method where
  name
  arguments := []
  flags := { isAbstract := true }
  annotations
  lines := []
  instructions := []

/-- A class with methods. -/
def holder (name : String) (methods : List Method) : Class where
  name
  superName := none
  interfaces := []
  isInterface := false
  isAbstract := true
  references := []
  methods
  bootstrap := []

/-- Three methods render alike. The first one has no annotations, so the second one gives them,
although it is in another class. -/
theorem annotations_written_alike :
    let classes := [holder "p:A" [bare "f" [], bare "g" ["N"]],
      holder "p" [bare "A:f" ["Y", "X", "Y"], bare "A:f" ["Z"]]]
    let out := (start {}).processClasses 1 classes
    (∃ summary, out.result = .ok summary) ∧
      ({ format := .text, keepsAnnotations := true : Sink }.writeAll out.records).2.annotations =
        "p:A:f() X\np:A:f() Y\np:A:g() N\n" ∧
      ∃ pairs, Class.Annotated classes pairs ∧
        ({ format := .text, keepsAnnotations := true : Sink }.writeAll out.records).2.annotations =
          Record.lines .text (pairs.map fun p => .annotated p.1 p.2) := by
  intro classes out
  have hok : out.result = .ok ⟨1, 2, 0, 0, 0⟩ := by decide +kernel
  obtain ⟨hwritten, -⟩ :=
    annotations_written (start {}) 1 classes { format := .text, keepsAnnotations := true }
  obtain ⟨pairs, hpairs, -, hkept, -⟩ := hwritten _ hok
  exact ⟨⟨_, hok⟩, by decide +kernel, pairs, hpairs, hkept⟩

end Engine

end CallGraph
