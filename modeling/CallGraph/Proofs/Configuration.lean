import CallGraph.Proofs.Outcome
import Mathlib.Data.List.Flatten

/-!
# Wider configurations

Carrying usage from archive to archive, asking less of dispatch and reporting class references all
add to what is reported. They never take anything away, change the order, or make an archive fail
that did not fail before.

What makes this more than a remark is the walk: under a wider usage the classes between a class and
its ancestors hold more methods, and so hand more down.

* `Facts.Widened` — the same facts under a wider usage
* `hierarchyEdges_sublist` — the walk under a wider usage draws more
* `outcomes_within` — whole runs under two configurations
-/

namespace CallGraph

open Std (ExtTreeMap)

/-! ## Usage -/

namespace Usage

variable {usage usage' : Usage}

/-- What has been called in the one has been called in the other. -/
def Within (usage usage' : Usage) : Prop :=
  ∀ owner signature, usage.contains owner signature = true →
    usage'.contains owner signature = true

theorem empty_within (usage : Usage) : empty.Within usage := by
  intro owner signature h
  rw [contains_empty] at h
  simp at h

theorem Within.record (h : usage.Within usage') (owner signature : String) :
    (usage.record owner signature).Within (usage'.record owner signature) := by
  intro owner' signature' hc
  rw [contains_record] at hc ⊢
  exact hc.imp_right (h owner' signature')

end Usage

namespace Facts

variable {facts facts' : Facts}

/-- The facts with another usage. -/
def withUsage (facts : Facts) (usage : Usage) : Facts := { facts with usage }

/-- The same facts under a wider usage. -/
def Widened (facts facts' : Facts) : Prop :=
  ∃ usage, facts.usage.Within usage ∧ facts' = facts.withUsage usage

theorem Widened.usage (h : Widened facts facts') : facts.usage.Within facts'.usage := by
  obtain ⟨usage, hu, rfl⟩ := h
  exact hu

/-! ## Passes over classes -/

theorem indexInterface_withUsage (facts : Facts) (usage : Usage) (c : Class) :
    (facts.withUsage usage).indexInterface c = (facts.indexInterface c).withUsage usage := by
  unfold indexInterface
  split <;> rfl

theorem indexImplementor_withUsage (facts : Facts) (usage : Usage) (c : Class) :
    (facts.withUsage usage).indexImplementor c = (facts.indexImplementor c).withUsage usage := by
  unfold indexImplementor withUsage
  simp only
  split <;> rfl

theorem indexSuper_withUsage (facts : Facts) (usage : Usage) (c : Class) :
    (facts.withUsage usage).indexSuper c = (facts.indexSuper c).withUsage usage := by
  unfold indexSuper
  split <;> rfl

theorem indexClass_withUsage (facts : Facts) (usage : Usage) (c : Class) :
    (facts.withUsage usage).indexClass c = (facts.indexClass c).withUsage usage := by
  unfold indexClass
  rw [← indexSuper_withUsage, indexInterface_withUsage, indexImplementor_withUsage]
  split <;> rfl

theorem index_withUsage (facts : Facts) (usage : Usage) (classes : List Class) :
    (facts.withUsage usage).index classes = (facts.index classes).withUsage usage := by
  unfold index
  induction classes generalizing facts with
  | nil => rfl
  | cons c classes ih => rw [List.foldl_cons, List.foldl_cons, indexClass_withUsage, ih]

theorem Widened.register (h : Widened facts facts') (c : Class) :
    Widened (facts.register c) (facts'.register c) := by
  obtain ⟨usage, hu, rfl⟩ := h
  refine ⟨usage, ?_, ?_⟩
  · have : (facts.register c).usage = facts.usage := by
      unfold Facts.register
      split <;> rfl
    rw [this]
    exact hu
  · unfold Facts.register withUsage
    simp only
    split <;> rfl

theorem Widened.noteAnnotations (h : Widened facts facts') (key : MethodKey) (m : Method) :
    Widened (facts.noteAnnotations key m) (facts'.noteAnnotations key m) := by
  obtain ⟨usage, hu, rfl⟩ := h
  unfold Facts.noteAnnotations
  split
  · exact ⟨usage, hu, rfl⟩
  · exact ⟨usage, hu, rfl⟩

/-- A call is recorded on both sides, and the usage does not decide what it draws. -/
theorem Widened.takeCall (h : Widened facts facts') (caller : MethodKey) (m : Method)
    (archive : Nat) (call : Call) :
    Widened (facts.takeCall caller m archive call).1 (facts'.takeCall caller m archive call).1 ∧
      (facts.takeCall caller m archive call).2 = (facts'.takeCall caller m archive call).2 := by
  obtain ⟨usage, hu, rfl⟩ := h
  exact ⟨⟨_, hu.record call.owner call.callee.signature, rfl⟩, rfl⟩

theorem Widened.takeCalls (h : Widened facts facts') (caller : MethodKey) (m : Method)
    (archive : Nat) (calls : List Call) :
    Widened (facts.takeCalls caller m archive calls).1 (facts'.takeCalls caller m archive calls).1 ∧
      (facts.takeCalls caller m archive calls).2 = (facts'.takeCalls caller m archive calls).2 := by
  induction calls generalizing facts facts' with
  | nil => exact ⟨h, rfl⟩
  | cons call calls ih =>
    obtain ⟨hw, he⟩ := h.takeCall caller m archive call
    obtain ⟨hw', he'⟩ := ih hw
    refine ⟨hw', ?_⟩
    rw [Facts.takeCalls, Facts.takeCalls]
    simp only
    rw [he, he']

theorem Widened.visitMethods (h : Widened facts facts') (c : Class) (archive : Nat)
    (methods : List Method) :
    Widened (facts.visitMethods c archive methods).1 (facts'.visitMethods c archive methods).1 ∧
      (facts.visitMethods c archive methods).2 = (facts'.visitMethods c archive methods).2 := by
  induction methods generalizing facts facts' with
  | nil => exact ⟨h, rfl⟩
  | cons m methods ih =>
    obtain ⟨hw, he⟩ := (h.noteAnnotations (c.key m) m).takeCalls (c.key m) m archive (c.calls m)
    have hw : Widened (facts.visitMethod c archive m).1 (facts'.visitMethod c archive m).1 := hw
    obtain ⟨hw', he'⟩ := ih hw
    refine ⟨hw', ?_⟩
    rw [Facts.visitMethods, Facts.visitMethods]
    simp only
    rw [he', visitMethod, visitMethod]
    simp only
    rw [he]

/-- **Visiting classes gives the same edges under a wider usage, and leaves one.** -/
theorem Widened.extract (h : Widened facts facts') (archive : Nat) (classes : List Class) :
    Widened (facts.extract archive classes).1 (facts'.extract archive classes).1 ∧
      (facts.extract archive classes).2 = (facts'.extract archive classes).2 := by
  induction classes generalizing facts facts' with
  | nil => exact ⟨h, rfl⟩
  | cons c classes ih =>
    obtain ⟨hw, he⟩ := (h.register c).visitMethods c archive c.methods
    obtain ⟨hw', he'⟩ := ih hw
    refine ⟨hw', ?_⟩
    rw [Facts.extract, Facts.extract]
    simp only
    rw [visit, visit, he, he']

theorem Widened.propagateContracts (h : Widened facts facts') :
    Widened facts.propagateContracts facts'.propagateContracts := by
  obtain ⟨usage, hu, rfl⟩ := h
  exact ⟨usage, hu, rfl⟩

theorem usage_index (facts : Facts) (classes : List Class) :
    (facts.index classes).usage = facts.usage := by
  have h := index_withUsage facts facts.usage classes
  exact congrArg (·.usage) h

theorem widened_index {usage usage' : Usage} (h : usage.Within usage') (classes : List Class) :
    Widened ((ofUsage usage).index classes) ((ofUsage usage').index classes) := by
  refine ⟨usage', ?_, index_withUsage (ofUsage usage) usage' classes⟩
  rw [usage_index]
  exact h

/-! ## The walk -/

theorem Widened.lineage (h : Widened facts facts') : facts'.lineage = facts.lineage := by
  obtain ⟨usage, -, rfl⟩ := h
  rfl

theorem Widened.links (h : Widened facts facts') : facts'.links = facts.links := by
  obtain ⟨usage, -, rfl⟩ := h
  rfl

theorem Widened.ancestry (h : Widened facts facts') {name : String} {rest : List String}
    (ha : Ancestry facts name rest) : Ancestry facts' name rest := by
  obtain ⟨usage, -, rfl⟩ := h
  induction ha with
  | top hk hp => exact .top hk hp
  | step hk ho _ ih => exact .step hk ho ih

/-- A class lets through what it let through before. -/
theorem Widened.foundAlong (h : Widened facts facts') {chain : List String} {s : String}
    {a : Access} (hf : FoundAlong facts chain s a) : FoundAlong facts' chain s a := by
  obtain ⟨usage, hu, rfl⟩ := h
  obtain ⟨nearer, holder, further, hc, hm, hall⟩ := hf
  refine ⟨nearer, holder, further, hc, hm, ?_⟩
  intro name hn
  obtain ⟨hnone, hpass⟩ := hall name hn
  exact ⟨hnone, hpass.imp_right (Or.imp_right (hu name s))⟩

/-- A table that another one extends comes first to last among its entries. -/
theorem toList_sublist {table table' : ExtTreeMap String Access}
    (h : ∀ (s : String) (a : Access), table[s]? = some a → table'[s]? = some a) :
    table.toList.Sublist table'.toList := by
  have heq : table = table'.filter fun s a => table[s]? = some a := by
    refine ExtTreeMap.ext_getElem? fun s => ?_
    rw [ExtTreeMap.getElem?_filter']
    cases hs : table[s]? with
    | none =>
      symm
      rw [Option.filter_eq_none_iff]
      simp
    | some a =>
      rw [h s a hs, Option.filter_some]
      simp
  rw [heq, ExtTreeMap.toList_filter]
  exact List.filter_sublist

theorem adopts_of_within {usage usage' : Usage} (hu : usage.Within usage') {name : String}
    {info : Lineage} {s : String} {a : Access} (h : adopts usage name info s a = true) :
    adopts usage' name info s a = true := by
  unfold adopts at h ⊢
  simp only [Bool.and_eq_true, Bool.or_eq_true] at h ⊢
  exact h.imp_right (Or.imp_right (And.imp_right (Or.imp_right (hu name s))))

theorem linkEdge?_of_within {usage usage' : Usage} (hu : usage.Within usage')
    {parent child : String} {info : Lineage} {s : String} {a : Access} {e : Edge}
    (h : linkEdge? usage parent child info s a = some e) :
    linkEdge? usage' parent child info s a = some e := by
  unfold linkEdge?
  rcases linkEdge?_cases h with ⟨ha, rfl⟩ | ⟨ha, had, rfl⟩
  · rw [if_pos ha]
  · rw [if_neg (by simp [ha]), if_pos (adopts_of_within hu had)]

theorem filterMap_sublist {α β : Type} {f g : α → Option β} (l : List α)
    (h : ∀ x e, f x = some e → g x = some e) : (l.filterMap f).Sublist (l.filterMap g) := by
  rw [List.filterMap_eq_flatMap_toList, List.filterMap_eq_flatMap_toList]
  refine List.Sublist.flatMap_right l fun x _ => ?_
  cases hx : f x with
  | none => exact List.nil_sublist _
  | some e => rw [h x e hx]

section
variable (hf : IsForest facts) (hf' : IsForest facts')
  (hw : Walked facts.usage facts.lineage facts.steps facts.hierarchyWalk)
  (hw' : Walked facts'.usage facts'.lineage facts'.steps facts'.hierarchyWalk)
include hf hf' hw hw'

theorem method?_of_widened (h : Widened facts facts') {name : String} {rest : List String}
    (ha : Ancestry facts name rest) {s : String} {a : Access}
    (hm : facts.resolveHierarchy.1.method? name s = some a) :
    facts'.resolveHierarchy.1.method? name s = some a := by
  rw [method?_resolveHierarchy hf hw ha] at hm
  rw [method?_resolveHierarchy hf' hw' (h.ancestry ha)]
  exact h.foundAlong hm

/-- A link draws more under a wider usage: the superclass has more methods in the end, and the
subclass takes over more of them. -/
theorem linkEdges_sublist (h : Widened facts facts') {parent child : String} {rest : List String}
    (ha : Ancestry facts child (parent :: rest)) :
    (linkEdges facts.usage facts.resolveHierarchy.1.lineage facts.lineage (parent, child)).Sublist
      (linkEdges facts'.usage facts'.resolveHierarchy.1.lineage facts'.lineage
        (parent, child)) := by
  obtain ⟨above, info, hpar, hk, -⟩ := entries_of_ancestry hf hw ha
  obtain ⟨above', info', hpar', hk', -⟩ := entries_of_ancestry hf' hw' (h.ancestry ha)
  have hinfo : info' = info := by
    rw [h.lineage, hk] at hk'
    exact (Option.some.inj hk').symm
  have hmethods : ∀ (s : String) (a : Access), above.methods[s]? = some a →
      above'.methods[s]? = some a := by
    intro s a hs
    cases ha with
    | step _ _ hup =>
      have := method?_of_widened hf hf' hw hw' h hup (s := s) (a := a)
      simpa [method?, hpar, hpar', hs] using this
  unfold linkEdges
  simp only [hpar, hpar', hk, hk', hinfo]
  -- First more methods under the same test, then a weaker test.
  refine ((toList_sublist hmethods).filterMap _).trans (filterMap_sublist _ ?_)
  rintro ⟨s, a⟩ e he
  exact linkEdge?_of_within h.usage he

/-- **A walk under a wider usage draws all edges in their order, and maybe more.** -/
theorem hierarchyEdges_sublist (h : Widened facts facts') :
    facts.hierarchyEdges.Sublist facts'.hierarchyEdges := by
  unfold hierarchyEdges
  rw [h.links]
  refine List.Sublist.flatMap_right _ ?_
  rintro ⟨parent, child⟩ hl
  obtain ⟨rest, ha⟩ := hf.mem_links_iff.mp hl
  exact linkEdges_sublist hf hf' hw hw' h ha

end

/-- The walk does not look at the usage to see where it stops. -/
theorem Widened.edges_eq_error_iff (h : Widened facts facts') (hf : IsForest facts)
    (hf' : IsForest facts') (e : HierarchyError) :
    facts.hierarchyWalk.edges = .error e ↔ facts'.hierarchyWalk.edges = .error e := by
  have hfind : facts'.tops.find? (fun t => !facts'.children.contains t) =
      facts.tops.find? (fun t => !facts.children.contains t) := by
    obtain ⟨usage, -, rfl⟩ := h
    rfl
  cases ht : facts.tops.find? (fun t => !facts.children.contains t) with
  | none => simp [(walked_hierarchyWalk hf ht).edges,
      (walked_hierarchyWalk hf' (hfind.trans ht)).edges]
  | some top => rw [hierarchyWalk_error hf ht, hierarchyWalk_error hf' (hfind.trans ht)]

/-! ## Dispatch -/

theorem dispatches_of_widened (h : Widened facts facts') {policy policy' : DispatchPolicy}
    (hp : policy = .interfaceCalled → policy' = .interfaceCalled) {name interface s : String}
    (hd : facts.dispatches policy name interface s = true) :
    facts'.dispatches policy' name interface s = true := by
  obtain ⟨usage, hu, rfl⟩ := h
  unfold dispatches at hd ⊢
  simp only [Bool.and_eq_true, Bool.or_eq_true, decide_eq_true_eq] at hd ⊢
  obtain ⟨⟨hcontract, hcalled⟩, hgate⟩ := hd
  exact ⟨⟨hcontract, hu interface s hcalled⟩, hgate.imp hp (hu name s)⟩

theorem dispatchEdges_sublist (h : Widened facts facts') {policy policy' : DispatchPolicy}
    (hp : policy = .interfaceCalled → policy' = .interfaceCalled) :
    (facts.dispatchEdges policy).Sublist (facts'.dispatchEdges policy') := by
  have hsame : facts'.implementors = facts.implementors := by
    obtain ⟨usage, -, rfl⟩ := h
    rfl
  unfold dispatchEdges
  rw [hsame]
  refine List.Sublist.flatMap_right _ fun entry _ => ?_
  refine List.Sublist.flatMap_right _ fun interface _ => ?_
  refine (List.monotone_filter_right _ ?_).map _
  intro s hd
  exact dispatches_of_widened h hp hd

end Facts

/-! ## Runs -/

/-- Whatever one configuration asks for, the other does as well. -/
structure EngineConfig.Within (config config' : EngineConfig) : Prop where
  carriesUsage : config.carriesUsage = true → config'.carriesUsage = true
  dispatch : config.dispatch = .interfaceCalled → config'.dispatch = .interfaceCalled
  classReferences : config.classReferences = true → config'.classReferences = true

/-- One archive ends as the other does, with the same edges from code and the same annotations, and
reports at most what the other does, in the same order. -/
structure Outcome.Within {ε α : Type} (o o' : Outcome ε α) : Prop where
  error_iff : ∀ e, o.result = .error e ↔ o'.result = .error e
  edges : o.edgeStream.Sublist o'.edgeStream
  extracted : o.extractedEdges = o'.extractedEdges
  annotations : o.annotationStream = o'.annotationStream

namespace Engine

/-- Processes archives one after the other, also after a failure. -/
def outcomes (engine : Engine) : List (Nat × List Class) → List (Outcome HierarchyError Summary)
  | [] => []
  | (index, classes) :: archives =>
    engine.processClasses index classes ::
      (engine.processClasses index classes).engine.outcomes archives

/-- An engine that does what another one does, and may know of more calls when an archive begins. -/
structure Within (engine engine' : Engine) : Prop where
  config : engine.config.Within engine'.config
  usage : engine.initialUsage.Within engine'.initialUsage

variable {engine engine' : Engine}

theorem initialUsage_leaving (engine : Engine) (usage : Usage) :
    (engine.leaving usage).initialUsage =
      if engine.config.carriesUsage then usage else .empty := by
  unfold initialUsage leaving
  split <;> simp_all

theorem Within.leaving (h : engine.Within engine') {usage usage' : Usage}
    (hu : usage.Within usage') : (engine.leaving usage).Within (engine'.leaving usage') where
  config := h.config
  usage := by
    rw [initialUsage_leaving, initialUsage_leaving]
    by_cases hc : engine.config.carriesUsage = true
    · rw [if_pos hc, if_pos (h.config.carriesUsage hc)]
      exact hu
    · rw [if_neg hc]
      exact Usage.empty_within _

section
variable (h : engine.Within engine') (index : Nat) (classes : List Class)
include h

theorem Within.visited :
    Facts.Widened (engine.visited index classes).1 (engine'.visited index classes).1 ∧
      (engine.visited index classes).2 = (engine'.visited index classes).2 :=
  (Facts.widened_index h.usage classes).extract index classes

theorem Within.beforeWalk :
    Facts.Widened (Facts.beforeWalk engine.initialUsage index classes)
      (Facts.beforeWalk engine'.initialUsage index classes) :=
  (h.visited index classes).1.propagateContracts

theorem Within.codeRecords :
    (engine.codeRecords index classes).Sublist (engine'.codeRecords index classes) := by
  unfold Engine.codeRecords
  rw [(h.visited index classes).2]
  refine List.Sublist.flatMap_right _ ?_
  rintro ⟨c, edges⟩ -
  unfold EngineConfig.classRecords
  refine List.Sublist.append_right ?_ _
  by_cases hc : engine.config.classReferences = true
  · rw [if_pos hc, if_pos (h.config.classReferences hc)]
  · rw [if_neg hc]
    exact List.nil_sublist _

theorem Within.annotationRecords :
    (engine.visited index classes).1.annotationRecords =
      (engine'.visited index classes).1.annotationRecords := by
  obtain ⟨usage, -, hv⟩ := (h.visited index classes).1
  rw [hv]
  rfl

/-- **One archive under two engines:** it ends alike, and so do the engines after it. -/
theorem Within.processClasses :
    (engine.processClasses index classes).Within (engine'.processClasses index classes) ∧
      (engine.processClasses index classes).engine.Within
        (engine'.processClasses index classes).engine := by
  have hw := h.beforeWalk index classes
  have hf := Facts.isForest_beforeWalk engine.initialUsage index classes
  have hf' := Facts.isForest_beforeWalk engine'.initialUsage index classes
  have herror := hw.edges_eq_error_iff hf hf'
  have hextracted : (engine.processClasses index classes).extractedEdges =
      (engine'.processClasses index classes).extractedEdges := by
    rw [extractedEdges_processClasses, extractedEdges_processClasses, (h.visited index classes).2]
  have hcode := h.codeRecords index classes
  cases he : (engine.forestWalk index classes).edges with
  | error e =>
    have he' : (engine'.forestWalk index classes).edges = .error e := (herror e).mp he
    obtain ⟨hr, hrec, heng⟩ := processClasses_of_error he
    obtain ⟨hr', hrec', heng'⟩ := processClasses_of_error he'
    rw [heng, heng']
    -- Both engines forget the usage, so the next archive finds the same one.
    refine ⟨⟨?_, ?_, hextracted, ?_⟩, h.leaving (Usage.empty_within _)⟩
    · intro e'
      rw [hr, hr']
    · unfold Outcome.edgeStream
      rw [hrec, hrec']
      exact hcode.filter _
    · rw [annotationStream_of_error he, annotationStream_of_error he']
  | ok hierarchy =>
    cases he' : (engine'.forestWalk index classes).edges with
    | error e =>
      have := (herror e).mpr he'
      exact absurd (he.symm.trans this) (by simp)
    | ok hierarchy' =>
      obtain ⟨⟨summary, hr⟩, hrec, heng⟩ := processClasses_of_ok he
      obtain ⟨⟨summary', hr'⟩, hrec', heng'⟩ := processClasses_of_ok he'
      rw [heng, heng']
      refine ⟨⟨?_, ?_, hextracted, ?_⟩, h.leaving (h.visited index classes).1.usage⟩
      · intro e'
        rw [hr, hr']
        simp
      · have hhier : hierarchy.Sublist hierarchy' := by
          obtain ⟨hwalk, -, rfl⟩ := Facts.walked_of_resolveHierarchy hf (Prod.ext rfl he)
          obtain ⟨hwalk', -, rfl⟩ := Facts.walked_of_resolveHierarchy hf' (Prod.ext rfl he')
          exact Facts.hierarchyEdges_sublist hf hf' hwalk hwalk' hw
        have hdisp := Facts.dispatchEdges_sublist (h.visited index classes).1 h.config.dispatch
        unfold Outcome.edgeStream
        rw [hrec, hrec', h.annotationRecords index classes]
        refine List.Sublist.filter _ ?_
        exact ((hcode.append (hhier.map _)).append (hdisp.map _)).append_right _
      · rw [annotationStream_of_ok he, annotationStream_of_ok he', h.annotationRecords]

end

theorem Within.outcomes (h : engine.Within engine') (archives : List (Nat × List Class)) :
    List.Forall₂ Outcome.Within (engine.outcomes archives) (engine'.outcomes archives) := by
  induction archives generalizing engine engine' with
  | nil => exact .nil
  | cons archive archives ih =>
    obtain ⟨hout, hnext⟩ := h.processClasses archive.1 archive.2
    exact .cons hout (ih hnext)

/-- **A wider configuration only adds.** Over any archives, one after the other and also after
failures, each archive ends as it does under the narrower configuration, with the same edges from
code and the same annotations, and everything that was reported is still reported in its order. -/
theorem outcomes_within {config config' : EngineConfig} (h : config.Within config')
    (archives : List (Nat × List Class)) :
    List.Forall₂ Outcome.Within ((start config).outcomes archives)
      ((start config').outcomes archives) := by
  have hstart : (start config).Within (start config') := by
    refine ⟨h, ?_⟩
    have hempty : (start config).initialUsage = .empty := by
      unfold initialUsage start
      split <;> rfl
    rw [hempty]
    exact Usage.empty_within _
  exact hstart.outcomes archives

/-- The square asks for the area of a polygon in an archive of its own. Only if that is remembered,
the polygon is seen to inherit its area. -/
theorem outcomes_within_shapes :
    let config : EngineConfig := { carriesUsage := false }
    let archives := [(1, Facts.shapes.take 1), (2, Facts.shapes.drop 1)]
    config.Within {} ∧
      List.Forall₂ Outcome.Within ((start config).outcomes archives)
        ((start {}).outcomes archives) ∧
      ((start config).outcomes archives).map (·.edgeStream.length) = [1, 1] ∧
      ((start {}).outcomes archives).map (·.edgeStream.length) = [1, 2] := by
  have h : EngineConfig.Within { carriesUsage := false } {} := ⟨by simp, id, id⟩
  exact ⟨h, outcomes_within h _, by decide +kernel, by decide +kernel⟩

end Engine

end CallGraph
