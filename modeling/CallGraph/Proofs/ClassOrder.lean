import CallGraph.Proofs.CallOrder
import CallGraph.Proofs.Configuration
import CallGraph.Proofs.InterfaceDispatch

/-!
# Classes in any order

The classes of an archive come in some order, and subclasses are listed, calls are read and the forest
is walked in it. Where every class has a name of its own, the order decides in which order edges are
drawn and from which constructor a link starts, and nothing else.

* `SameTree.hierarchyWalk_cases` — the walk, with subclasses listed in another order
* `sameTree_beforeWalk` — the forest of the same classes in another order
* `processClasses_perm` — the whole archive
-/

namespace CallGraph

open Std (ExtTreeMap)

namespace Facts

/-! ## Subclasses in any order -/

/-- The same classes below the same superclasses, with the same calls. Subclasses may be listed in
another order. -/
structure SameTree (a b : Facts) : Prop where
  forest : IsForest a
  forest' : IsForest b
  usage : a.usage = b.usage
  lineage : a.lineage = b.lineage

theorem SameTree.symm {a b : Facts} (h : SameTree a b) : SameTree b a :=
  ⟨h.forest', h.forest, h.usage.symm, h.lineage.symm⟩

theorem contains_children_of_lineage {a b : Facts} (ha : IsForest a) (hb : IsForest b)
    (hl : a.lineage = b.lineage) (name : String) :
    a.children.contains name = b.children.contains name := by
  rw [Bool.eq_iff_iff, ExtTreeMap.contains_iff_mem, ExtTreeMap.contains_iff_mem, ha.mem_children,
    hb.mem_children, hl]

namespace SameTree

variable {a b : Facts}

theorem ancestry (h : SameTree a b) {name : String} {rest : List String}
    (ha : Ancestry a name rest) : Ancestry b name rest := by
  induction ha with
  | top hk hp => exact .top (h.lineage ▸ hk) hp
  | step hk ho _ ih => exact .step (h.lineage ▸ hk) ho ih

theorem links_perm (h : SameTree a b) : a.links.Perm b.links := by
  have hnodup : ∀ {facts : Facts}, IsForest facts → facts.links.Nodup := fun hf =>
    List.Nodup.of_map Prod.snd (hf.nodup_reached (List.Subset.refl _) (nodup_tops _))
  rw [List.perm_ext_iff_of_nodup (hnodup h.forest) (hnodup h.forest')]
  rintro ⟨parent, child⟩
  rw [h.forest.mem_links_iff, h.forest'.mem_links_iff]
  exact ⟨fun ⟨rest, ha⟩ => ⟨rest, h.ancestry ha⟩, fun ⟨rest, hb⟩ => ⟨rest, h.symm.ancestry hb⟩⟩

section
variable (h : SameTree a b) (hw : Walked a.usage a.lineage a.steps a.hierarchyWalk)
  (hw' : Walked b.usage b.lineage b.steps b.hierarchyWalk)
include h hw hw'

/-- A class that is not below a top class keeps its entry in both walks. -/
theorem entry_of_not_below {name : String}
    (hn : ∀ parent rest, ¬ Ancestry a name (parent :: rest)) :
    a.resolveHierarchy.1.lineage[name]? = b.resolveHierarchy.1.lineage[name]? := by
  rw [lineage_of_not_below h.forest hw hn, h.lineage, lineage_of_not_below h.forest' hw']
  exact fun parent rest hb => hn parent rest (h.symm.ancestry hb)

/-- Along a chain of superclasses, both walks hand down the same. -/
theorem entry_of_ancestry {name : String} {rest : List String} (ha : Ancestry a name rest) :
    a.resolveHierarchy.1.lineage[name]? = b.resolveHierarchy.1.lineage[name]? := by
  induction ha with
  | top hk hp => exact h.entry_of_not_below hw hw' (Ancestry.top hk hp).not_below
  | @step name info rest hk ho hup ih =>
    obtain ⟨above, _, hpar, hown, hname⟩ := entries_of_ancestry h.forest hw (.step hk ho hup)
    obtain ⟨above', _, hpar', hown', hname'⟩ := entries_of_ancestry h.forest' hw'
      (h.ancestry (.step hk ho hup))
    -- The superclass has the same entry in both, so it hands down the same to the same entry.
    rw [hpar, hpar'] at ih
    obtain rfl := Option.some.inj ih
    rw [h.lineage, hown'] at hown
    obtain rfl := Option.some.inj hown
    rw [hname, hname', h.usage]

theorem lineage_resolveHierarchy :
    a.resolveHierarchy.1.lineage = b.resolveHierarchy.1.lineage := by
  refine ExtTreeMap.ext_getElem? fun name => ?_
  by_cases hn : ∃ rest, Ancestry a name rest
  · obtain ⟨rest, ha⟩ := hn
    exact h.entry_of_ancestry hw hw' ha
  · exact h.entry_of_not_below hw hw' fun parent rest ha => hn ⟨_, ha⟩

theorem hierarchyEdges_perm : a.hierarchyEdges.Perm b.hierarchyEdges := by
  unfold hierarchyEdges
  rw [h.usage, h.lineage, h.lineage_resolveHierarchy hw hw']
  exact h.links_perm.flatMap_right _

end

/-- **What the walk comes to does not depend on the order of subclasses.** It fails at the same class,
or it leaves the same entries and draws the same edges. -/
theorem hierarchyWalk_cases (h : SameTree a b) :
    (∃ e, a.hierarchyWalk.edges = .error e ∧ b.hierarchyWalk.edges = .error e) ∨
      ∃ edges edges', a.hierarchyWalk.edges = .ok edges ∧ b.hierarchyWalk.edges = .ok edges' ∧
        edges.Perm edges' ∧ a.hierarchyWalk.lineage = b.hierarchyWalk.lineage := by
  -- The order of subclasses decides neither which classes are tops nor which have subclasses.
  have htops : b.tops.find? (fun t => !b.children.contains t) =
      a.tops.find? (fun t => !a.children.contains t) := by
    unfold tops
    simp only [contains_children_of_lineage h.forest h.forest' h.lineage, h.lineage]
  cases ht : a.tops.find? (fun t => !a.children.contains t) with
  | some top =>
    exact Or.inl ⟨_, hierarchyWalk_error h.forest ht,
      hierarchyWalk_error h.forest' (htops.trans ht)⟩
  | none =>
    have hw := walked_hierarchyWalk h.forest ht
    have hw' := walked_hierarchyWalk h.forest' (htops.trans ht)
    have he := hw.edges
    have he' := hw'.edges
    rw [link?_steps] at he he'
    exact Or.inr ⟨_, _, he, he', h.hierarchyEdges_perm hw hw', h.lineage_resolveHierarchy hw hw'⟩

end SameTree

theorem dispatchEdges_congr {a b : Facts} (hi : a.implementors = b.implementors)
    (hc : a.contracts = b.contracts) (hu : a.usage = b.usage) (policy : DispatchPolicy) :
    a.dispatchEdges policy = b.dispatchEdges policy := by
  unfold dispatchEdges dispatchEdgesTo dispatches
  rw [hi, hc, hu]

/-- Contracts are handed out alike where the entries and what is known about interfaces are the
same. -/
theorem lineage_propagateContracts_congr {a b : Facts} (ha : IsForest a) (hb : IsForest b)
    (hl : a.lineage = b.lineage) (hi : a.implementors = b.implementors)
    (hc : a.contracts = b.contracts) :
    a.propagateContracts.lineage = b.propagateContracts.lineage := by
  unfold propagateContracts contractsOf
  simp only [contains_children_of_lineage ha hb hl, hl, hi, hc]

end Facts

/-! ## Marks -/

theorem MarkMap.eq_of_recognizes {marks marks' : MarkMap}
    (hr : ∀ name, marks.recognizes name = marks'.recognizes name)
    (hp : ∀ name, marks.isPending name = marks'.isPending name) : marks = marks' := by
  refine congrArg MarkMap.mk (ExtTreeMap.ext_getElem? fun name => ?_)
  have hr := hr name
  have hp := hp name
  unfold recognizes at hr
  unfold isPending at hp
  rw [ExtTreeMap.contains_eq_isSome_getElem?, ExtTreeMap.contains_eq_isSome_getElem?] at hr
  cases hm : marks.byClass[name]? with
  | none =>
    rw [hm] at hr
    exact (Option.isNone_iff_eq_none.mp (Option.isSome_eq_false_iff.mp hr.symm)).symm
  | some mark =>
    obtain ⟨mark', hm'⟩ := Option.isSome_iff_exists.mp (hr.symm.trans (by rw [hm]; rfl))
    rw [hm, hm'] at hp
    rw [hm']
    cases mark <;> cases mark' <;> simp at hp ⊢

theorem Marks.eq_of_marksIn {marks marks' : Marks}
    (h : ∀ launch : Launch, launch.marksIn marks = launch.marksIn marks') : marks = marks' := by
  have hrunnable := h .runnable
  have hcallable := h .callable
  have hthread := h .thread
  cases marks
  cases marks'
  simp only [Launch.marksIn] at hrunnable hcallable hthread
  rw [hrunnable, hcallable, hthread]

/-! ## Classes in any order -/

section
variable {classes classes' : List Class} (h : classes.Perm classes')
include h

theorem occurrences_perm (archive : Nat) :
    (occurrences archive classes).Perm (occurrences archive classes') :=
  h.flatMap_right _

theorem exists_involves_perm (name : String) :
    (∃ c ∈ classes, c.Involves name) ↔ ∃ c ∈ classes', c.Involves name := by
  simp only [h.mem_iff]

variable (hd : (classes.map Class.name).Nodup)
include hd

/-- A class that is looked up by its name is found wherever it stands. -/
theorem find?_perm {p : Class → Bool} {name : String} (hp : ∀ c, p c = true → c.name = name) :
    classes.find? p = classes'.find? p := by
  cases hf : classes.find? p with
  | none =>
    symm
    exact List.find?_eq_none.mpr fun c hc => List.find?_eq_none.mp hf c (h.mem_iff.mpr hc)
  | some c =>
    have hc := List.mem_of_find?_eq_some hf
    have hpc := List.find?_some hf
    have hsome : (classes'.find? p).isSome = true :=
      List.find?_isSome.mpr ⟨c, h.mem_iff.mp hc, hpc⟩
    obtain ⟨c', hf'⟩ := Option.isSome_iff_exists.mp hsome
    have hname : c'.name = c.name := (hp c' (List.find?_some hf')).trans (hp c hpc).symm
    rw [hf', List.inj_on_of_nodup_map hd (h.mem_iff.mpr (List.mem_of_find?_eq_some hf')) hc hname]

theorem implementor?_perm (name : String) : implementor? classes name = implementor? classes' name :=
  find?_perm h hd fun c hc => by simpa using (Bool.and_eq_true_iff.mp hc).2

theorem contract?_perm (name : String) : contract? classes name = contract? classes' name :=
  find?_perm h hd fun c hc => by simpa using (Bool.and_eq_true_iff.mp hc).2

theorem concrete?_perm (name : String) :
    Facts.concrete? classes name = Facts.concrete? classes' name :=
  find?_perm h hd fun c hc => by simpa using (Bool.and_eq_true_iff.mp hc).2

theorem recognizes_perm (launch : Launch) (name : String) :
    launch.recognizes classes name = launch.recognizes classes' name := by
  unfold Launch.recognizes
  rw [implementor?_perm h hd name, h.any_eq]

/-- The first look leaves the same marks. -/
theorem marks_index_perm (usage : Usage) :
    ((Facts.ofUsage usage).index classes).marks = ((Facts.ofUsage usage).index classes').marks := by
  refine Marks.eq_of_marksIn fun launch => MarkMap.eq_of_recognizes ?_ ?_
  · intro name
    rw [(Facts.isPending_index_ofUsage usage classes launch name).2,
      (Facts.isPending_index_ofUsage usage classes' launch name).2, recognizes_perm h hd]
  · intro name
    rw [(Facts.isPending_index_ofUsage usage classes launch name).1,
      (Facts.isPending_index_ofUsage usage classes' launch name).1, recognizes_perm h hd]

namespace Engine

variable (engine : Engine) (index : Nat)

omit hd in
theorem usage_visited_perm :
    (engine.visited index classes).1.usage = (engine.visited index classes').1.usage := by
  unfold visited
  rw [Facts.usage_extract, Facts.usage_extract, Facts.usage_index, Facts.usage_index]
  exact Usage.recordAll_perm _ (occurrences_perm h index)

theorem implementors_visited_perm :
    (engine.visited index classes).1.implementors =
      (engine.visited index classes').1.implementors := by
  refine ExtTreeMap.ext_getElem? fun name => ?_
  rw [implementors_visited, implementors_visited, implementor?_perm h hd]

theorem contracts_visited_perm :
    (engine.visited index classes).1.contracts = (engine.visited index classes').1.contracts := by
  refine ExtTreeMap.ext_getElem? fun name => ?_
  rw [contracts_visited, contracts_visited, contract?_perm h hd]

theorem lineage_visited_perm :
    (engine.visited index classes).1.lineage = (engine.visited index classes').1.lineage := by
  have hpart : ∀ name, ((Facts.ofUsage engine.initialUsage).index classes).participants.contains name =
      ((Facts.ofUsage engine.initialUsage).index classes').participants.contains name := by
    intro name
    rw [Bool.eq_iff_iff, Facts.contains_participants_index, Facts.contains_participants_index]
    exact exists_involves_perm h name
  refine ExtTreeMap.ext_getElem? fun name => ?_
  unfold visited
  rw [Facts.lineage_extract_index, Facts.lineage_extract_index, hpart, concrete?_perm h hd]

/-- **The walk begins with the same tree.** -/
theorem sameTree_beforeWalk :
    Facts.SameTree (Facts.beforeWalk engine.initialUsage index classes)
      (Facts.beforeWalk engine.initialUsage index classes') where
  forest := Facts.isForest_beforeWalk engine.initialUsage index classes
  forest' := Facts.isForest_beforeWalk engine.initialUsage index classes'
  usage := usage_visited_perm h engine index
  lineage := Facts.lineage_propagateContracts_congr
    (Facts.isForest_extract_index engine.initialUsage index classes)
    (Facts.isForest_extract_index engine.initialUsage index classes')
    (lineage_visited_perm h hd engine index) (implementors_visited_perm h hd engine index)
    (contracts_visited_perm h hd engine index)

/-- The links of a class: none, or one that may start at another constructor. -/
theorem links_extractedEdges_perm (launch : Launch) (name : String) :
    ((engine.processClasses index classes).extractedEdges.filter (launch.isLink name) = [] ∧
        (engine.processClasses index classes').extractedEdges.filter (launch.isLink name) = []) ∨
      ∃ arguments arguments',
        (engine.processClasses index classes).extractedEdges.filter (launch.isLink name) =
          [launch.linkFrom name arguments] ∧
        (engine.processClasses index classes').extractedEdges.filter (launch.isLink name) =
          [launch.linkFrom name arguments'] ∧
        (launch.isConstruction = false → arguments = arguments') := by
  have hkind : ∀ e, launch.isLink name e = true → e.kind ≠ .lambda := by
    intro e he
    rw [(of_decide_eq_true he).1]
    cases launch <;> decide
  rw [filter_extractedEdges engine index classes hkind,
    filter_extractedEdges engine index classes' hkind, marks_index_perm h hd]
  exact Marks.filter_isLink_draw_perm _ (occurrences_perm h index)
    (fun _ => isRaw_of_mem_occurrences) launch name

/-- All other edges from code. -/
theorem extractedEdges_perm :
    ((engine.processClasses index classes).extractedEdges.filter (!·.isConstructionLink)).Perm
      ((engine.processClasses index classes').extractedEdges.filter (!·.isConstructionLink)) := by
  -- Edges to lambda bodies stand between the others, and the marks have no part in them.
  refine perm_filter_of_sorts fun e he => ?_
  by_cases hk : e.kind = .lambda
  · refine ⟨fun e => e.kind = .lambda, by simp [hk], ?_⟩
    rw [extractedEdges_processClasses, extractedEdges_processClasses]
    unfold visited
    rw [Facts.filter_lambda_extract, Facts.filter_lambda_extract]
    exact h.flatMap_right _
  · have hkind : ∀ e : Edge, (decide (e.kind ≠ .lambda) && !e.isConstructionLink) = true →
        e.kind ≠ .lambda := fun e he => of_decide_eq_true (Bool.and_eq_true_iff.mp he).1
    refine ⟨fun e => decide (e.kind ≠ .lambda) && !e.isConstructionLink, by simpa [hk] using he, ?_⟩
    rw [filter_extractedEdges engine index classes hkind,
      filter_extractedEdges engine index classes' hkind, marks_index_perm h hd,
      ← List.filter_filter, ← List.filter_filter]
    exact (Marks.draw_perm _ (occurrences_perm h index)
      fun _ => isRaw_of_mem_occurrences).filter _

end Engine

end

namespace Engine

/-- **The order of the classes matters little.** If no two classes have the same name, an archive fails
in any order, and with the same cause, or in none. If it does not fail, the usage and the methods that
classes have in the end are the same, the edges of dispatch are the same in the same order, and all other
edges are the same in some order, except that the link from making an object to what it runs may start
at another constructor of the class. -/
theorem processClasses_perm (engine : Engine) (index : Nat) {classes classes' : List Class}
    (h : classes.Perm classes') (hd : (classes.map Class.name).Nodup) :
    let o := engine.processClasses index classes
    let o' := engine.processClasses index classes'
    (∃ e, o.result = .error e ∧ o'.result = .error e) ∨
      (∃ summary, o.result = .ok summary) ∧ (∃ summary, o'.result = .ok summary) ∧
      (engine.visited index classes).1.usage = (engine.visited index classes').1.usage ∧
      o.engine = o'.engine ∧
      (engine.forestWalk index classes).lineage = (engine.forestWalk index classes').lineage ∧
      o.hierarchyEdges.Perm o'.hierarchyEdges ∧
      o.dispatchEdges = o'.dispatchEdges ∧
      (o.extractedEdges.filter (!·.isConstructionLink)).Perm
        (o'.extractedEdges.filter (!·.isConstructionLink)) ∧
      ∀ launch : Launch, launch.isConstruction = true → ∀ name,
        (o.extractedEdges.filter (launch.isLink name) = [] ∧
          o'.extractedEdges.filter (launch.isLink name) = []) ∨
        ∃ arguments arguments',
          o.extractedEdges.filter (launch.isLink name) = [launch.linkFrom name arguments] ∧
          o'.extractedEdges.filter (launch.isLink name) = [launch.linkFrom name arguments'] := by
  intro o o'
  rcases (sameTree_beforeWalk h hd engine index).hierarchyWalk_cases with
    ⟨e, he, he'⟩ | ⟨edges, edges', hw, hw', hperm, hlineage⟩
  · exact Or.inl ⟨e, (processClasses_of_error he).1, (processClasses_of_error he').1⟩
  have husage := usage_visited_perm h engine index
  obtain ⟨hok, -, hengine⟩ := processClasses_of_ok hw
  obtain ⟨hok', -, hengine'⟩ := processClasses_of_ok hw'
  refine Or.inr ⟨hok, hok', husage, ?_, hlineage, ?_, ?_, extractedEdges_perm h hd engine index, ?_⟩
  · exact hengine.trans (by rw [hengine', husage])
  · exact (hierarchyEdges_of_ok hw).symm ▸ (hierarchyEdges_of_ok hw').symm ▸ hperm
  · calc o.dispatchEdges
        = (engine.visited index classes).1.dispatchEdges engine.config.dispatch :=
          dispatchEdges_of_ok hw
      _ = (engine.visited index classes').1.dispatchEdges engine.config.dispatch :=
          Facts.dispatchEdges_congr (implementors_visited_perm h hd engine index)
            (contracts_visited_perm h hd engine index) husage _
      _ = o'.dispatchEdges := (dispatchEdges_of_ok hw').symm
  · intro launch _ name
    rcases links_extractedEdges_perm h hd engine index launch name with
      hnone | ⟨arguments, arguments', hone, hone', -⟩
    · exact Or.inl hnone
    · exact Or.inr ⟨arguments, arguments', hone, hone'⟩

/-- Two jobs, one of which two others set off in different ways. -/
def crew : List Class :=
  let run : Method := ⟨"run", [], { isPublic := true }, [], [], []⟩
  let toRun : Method := ⟨"run", [], { isPublic := true, isAbstract := true }, [], [], []⟩
  let making (arguments : List String) : Method :=
    ⟨"main", [], { isPublic := true, isStatic := true }, [], [],
      [⟨0, .invoke ⟨"Mail", "<init>", arguments, .special, 0, none⟩⟩]⟩
  [⟨"Boss", some "java.lang.Object", [], false, false, [], [making []], []⟩,
   ⟨"Clerk", some "java.lang.Object", [], false, false, [], [making ["int"]], []⟩,
   ⟨"Job", some "java.lang.Object", [], false, true, [], [toRun], []⟩,
   ⟨"Mail", some "Job", ["java.lang.Runnable"], false, false, [], [run], []⟩,
   ⟨"Print", some "Job", [], false, false, [], [run], []⟩]

/-- The links from making mail to running it. -/
def linksOfMail (classes : List Class) : List Edge :=
  ((start {}).processClasses 1 classes).extractedEdges.filter (Launch.runnable.isLink "Mail")

theorem processClasses_perm_crew :
    crew.Perm crew.reverse ∧ (crew.map Class.name).Nodup ∧
      ((start {}).processClasses 1 crew).hierarchyEdges.Perm
        ((start {}).processClasses 1 crew.reverse).hierarchyEdges ∧
      ((start {}).processClasses 1 crew).hierarchyEdges ≠
        ((start {}).processClasses 1 crew.reverse).hierarchyEdges ∧
      linksOfMail crew = [Launch.runnable.linkFrom "Mail" []] ∧
      linksOfMail crew.reverse = [Launch.runnable.linkFrom "Mail" ["int"]] := by
  have hp : crew.Perm crew.reverse := (List.reverse_perm crew).symm
  have hd : (crew.map Class.name).Nodup := by decide
  have hone : linksOfMail crew = [Launch.runnable.linkFrom "Mail" []] := by decide +kernel
  have hother : linksOfMail crew.reverse = [Launch.runnable.linkFrom "Mail" ["int"]] := by
    decide +kernel
  have hne : ((start {}).processClasses 1 crew).hierarchyEdges ≠
      ((start {}).processClasses 1 crew.reverse).hierarchyEdges := by decide +kernel
  rcases processClasses_perm (start {}) 1 hp hd with ⟨e, he, -⟩ | ⟨-, -, -, -, -, hedges, -⟩
  · have hok : ((start {}).processClasses 1 crew).result = .ok ⟨1, 5, 3, 2, 0⟩ := by decide +kernel
    rw [he] at hok
    simp at hok
  · exact ⟨hp, hd, hedges, hne, hone, hother⟩

end Engine

end CallGraph
