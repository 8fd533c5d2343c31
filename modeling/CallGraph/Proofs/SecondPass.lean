import CallGraph.Proofs.Annotations
import CallGraph.Proofs.Recurring

/-!
# A second pass over the same classes

What an archive leaves behind is complete: to go through all passes again with the same classes changes
nothing. The second time the same edges are drawn, except for those that stand for something that happens
once, the links to what runs elsewhere and the steps in which a class takes over a method.

* `index_again`, `resolveHierarchy_again`, `propagateContracts_again` — the passes, one by one, over facts
  that know all there is to know
* `analyze_again` — all passes over the classes of an archive
-/

namespace CallGraph.Facts

open Std (ExtTreeMap ExtTreeSet)

variable {facts : Facts} {archive : Nat}

/-! ## The same first look again -/

/-- All that the first look finds in a class is known. -/
structure Indexed (facts : Facts) (c : Class) : Prop where
  contract : c.isInterface = true → c.methods ≠ [] → c.name ∈ facts.contracts
  implementor : c.isImplementor = true → c.name ∈ facts.implementors
  thread : c.superName = some threadName → facts.marks.thread.recognizes c.name = true
  participants : ∀ name, c.Involves name → name ∈ facts.participants

theorem indexSuper_again {c : Class} (h : facts.Indexed c) : facts.indexSuper c = facts := by
  unfold indexSuper
  cases hs : c.superName with
  | none => rfl
  | some super =>
    have hmarks : (if super = threadName then
        { facts.marks with thread := facts.marks.thread.seed c.name } else facts.marks) =
        facts.marks := by
      split
      · next ht => rw [MarkMap.seed_of_recognizes (h.thread (by rw [hs, ht]))]
      · rfl
    have hparticipants : (if ClassName.isPlatform super then facts.participants
        else (facts.participants.insert c.name).insert super) = facts.participants := by
      split
      · rfl
      · next hp =>
        have hname := h.participants c.name ⟨super, hs, by simpa using hp, Or.inl rfl⟩
        have hsuper := h.participants super ⟨super, hs, by simpa using hp, Or.inr rfl⟩
        rw [insert_of_mem hname, insert_of_mem hsuper]
    simp only [hmarks, hparticipants]

theorem indexClass_again {c : Class} (h : facts.Indexed c) : facts.indexClass c = facts := by
  have hfirst : (if c.isInterface then facts.indexInterface c else facts.indexImplementor c) =
      facts := by
    split
    · next hi =>
      unfold indexInterface
      split
      · rfl
      · next hm => rw [insertIfNew_of_mem (h.contract hi (by simpa using hm))]
    · next hi =>
      unfold indexImplementor
      split
      · rfl
      · next hno =>
        refine absurd ?_ hno
        rw [Bool.or_eq_true]
        by_cases hc : c.isImplementor = true
        · exact Or.inr (ExtTreeMap.contains_iff_mem.mpr (h.implementor hc))
        · refine Or.inl ?_
          rw [Bool.not_eq_true] at hi
          rw [Class.isImplementor, hi] at hc
          cases hn : c.interfaces.isEmpty <;> cases hm : c.methods.isEmpty <;> simp [hn, hm] at hc ⊢
  unfold indexClass
  rw [hfirst]
  exact indexSuper_again h

/-- **The first look again.** -/
theorem index_again {classes : List Class} (h : ∀ c ∈ classes, facts.Indexed c) :
    facts.index classes = facts := by
  unfold index
  induction classes with
  | nil => rfl
  | cons c classes ih =>
    rw [List.foldl_cons, indexClass_again (h c List.mem_cons_self)]
    exact ih fun c' hc' => h c' (List.mem_cons_of_mem _ hc')

/-- The first look over classes finds all there is. -/
theorem indexed_index (facts : Facts) {classes : List Class} {c : Class} (hc : c ∈ classes) :
    (facts.index classes).Indexed c where
  contract := by
    intro hi hm
    rw [ExtTreeMap.mem_iff_isSome_getElem?, contracts_index, Option.isSome_or, Option.isSome_map]
    refine Bool.or_eq_true_iff.mpr (Or.inr ?_)
    exact List.find?_isSome.mpr ⟨c, hc, by simp [hi, hm]⟩
  implementor := by
    intro hi
    rw [ExtTreeMap.mem_iff_isSome_getElem?, implementors_index, Option.isSome_or, Option.isSome_map]
    refine Bool.or_eq_true_iff.mpr (Or.inr ?_)
    exact List.find?_isSome.mpr ⟨c, hc, by simp [hi]⟩
  thread := by
    intro ht
    have hthread := recognizes_index facts classes .thread c.name
    simp only [Launch.marksIn] at hthread
    rw [hthread]
    refine Bool.or_eq_true_iff.mpr (Or.inr ?_)
    have hany : Launch.thread.recognizes classes c.name = true :=
      List.any_eq_true.mpr ⟨c, hc, by simp [Launch.suits, ht]⟩
    simp [hany, Launch.isConstruction]
  participants := fun name hn => (mem_participants_index facts classes name).mpr (Or.inr ⟨c, hc, hn⟩)

/-! ## The same walk again -/

section
variable {usage : Usage} {child : String} {info : Lineage} {above : ExtTreeMap String Access}

theorem mem_inherit_of_getElem? {s : String} {a : Access}
    (h : info.methods[s]? = some a ∨ (above[s]? = some a ∧ adopts usage child info s a = true)) :
    s ∈ (inherit usage child info above.toList).methods := by
  rw [ExtTreeMap.mem_iff_isSome_getElem?, (getElem?_inherit usage child info above s a).mpr h]
  rfl

/-- A class keeps its own methods. -/
theorem mem_inherit {s : String} (h : s ∈ info.methods) :
    s ∈ (inherit usage child info above.toList).methods := by
  obtain ⟨a, ha⟩ := Option.isSome_iff_exists.mp (ExtTreeMap.mem_iff_isSome_getElem?.mp h)
  exact mem_inherit_of_getElem? (Or.inl ha)

/-- What a class takes over it takes over at once. -/
theorem adopts_inherit {s : String} {a : Access} (h : above[s]? = some a) :
    adopts usage child (inherit usage child info above.toList) s a = false := by
  rw [← Bool.not_eq_true]
  intro hagain
  unfold adopts at hagain
  obtain ⟨hlacks, hgate⟩ := Bool.and_eq_true_iff.mp hagain
  rw [Bool.not_eq_true', ← Bool.not_eq_true, ExtTreeMap.contains_iff_mem] at hlacks
  have had : adopts usage child info s a = true := by
    unfold adopts
    refine Bool.and_eq_true_iff.mpr ⟨?_, hgate⟩
    rw [Bool.not_eq_true', ← Bool.not_eq_true, ExtTreeMap.contains_iff_mem]
    exact fun hm => hlacks (mem_inherit hm)
  exact hlacks (mem_inherit_of_getElem? (Or.inr ⟨h, had⟩))

theorem inherit_inherit : inherit usage child (inherit usage child info above.toList) above.toList =
    inherit usage child info above.toList := by
  have hmethods : (inherit usage child (inherit usage child info above.toList) above.toList).methods =
      (inherit usage child info above.toList).methods := by
    refine ExtTreeMap.ext_getElem? fun s => Option.ext fun a => ?_
    rw [getElem?_inherit]
    refine or_iff_left ?_
    rintro ⟨habove, had⟩
    rw [adopts_inherit habove] at had
    simp at had
  exact congrArg (fun methods => ({ inherit usage child info above.toList with methods } : Lineage))
    hmethods

theorem linkEdge?_inherit {parent s : String} {a : Access} (h : above[s]? = some a) :
    linkEdge? usage parent child (inherit usage child info above.toList) s a =
      (linkEdge? usage parent child info s a).filter (!·.isOnce) := by
  unfold linkEdge?
  rw [adopts_inherit h]
  split
  · rfl
  · rw [if_neg Bool.false_ne_true]
    split <;> rfl

/-- A link draws again what leads down, and nothing else. -/
theorem linkEdges_again {after before : ExtTreeMap String Lineage} {parent : String} {super : Lineage}
    (hp : after[parent]? = some super) (hi : before[child]? = some info)
    (hc : after[child]? = some (inherit usage child info super.methods.toList)) :
    linkEdges usage after after (parent, child) =
      recurring (linkEdges usage after before (parent, child)) := by
  unfold linkEdges recurring
  simp only [hp, hi, hc]
  rw [List.filter_filterMap]
  refine List.filterMap_congr fun entry he => ?_
  exact linkEdge?_inherit (ExtTreeMap.mem_toList_iff_getElem?_eq_some.mp he)

end

/-- The step finds its work done. -/
def Step.IsDone (usage : Usage) (children : ExtTreeMap String (List String))
    (lineage : ExtTreeMap String Lineage) : Step → Prop
  | .enter top => top ∈ children
  | .link parent child => ∃ above info, lineage[parent]? = some above ∧
      lineage[child]? = some info ∧ inherit usage child info above.methods.toList = info

theorem insert_of_getElem? {lineage : ExtTreeMap String Lineage} {name : String} {info : Lineage}
    (h : lineage[name]? = some info) : lineage.insert name info = lineage := by
  refine ExtTreeMap.ext_getElem? fun other => ?_
  by_cases hn : name = other
  · subst hn
    rw [ExtTreeMap.getElem?_insert_self, h]
  · rw [getElem?_insert_ne hn]

/-- **Steps whose work is done leave the forest as it is.** -/
theorem walk_of_isDone {usage : Usage} {children : ExtTreeMap String (List String)}
    {lineage : ExtTreeMap String Lineage} {steps : List Step}
    (h : ∀ step ∈ steps, step.IsDone usage children lineage) :
    (walk usage children lineage steps).lineage = lineage ∧
      (walk usage children lineage steps).edges =
        .ok ((steps.filterMap Step.link?).flatMap (linkEdges usage lineage lineage)) := by
  induction steps with
  | nil => exact ⟨rfl, rfl⟩
  | cons step steps ih =>
    obtain ⟨hl, he⟩ := ih fun step' hs => h step' (List.mem_cons_of_mem _ hs)
    have hstep := h step List.mem_cons_self
    cases step with
    | enter top =>
      rw [walk_enter hstep]
      refine ⟨hl, ?_⟩
      simp only [he, List.nil_append]
      rfl
    | link parent child =>
      obtain ⟨above, info, hp, hc, hdone⟩ := hstep
      -- The link writes the entry that is there already.
      have hinsert : lineage.insert child (inherit usage child info above.methods.toList) = lineage := by
        rw [hdone]
        exact insert_of_getElem? hc
      rw [walk_link hp hc (by rw [hinsert])]
      refine ⟨hl, ?_⟩
      show Except.map _ (walk usage children lineage steps).edges = Except.ok
        (((parent, child) :: steps.filterMap Step.link?).flatMap (linkEdges usage lineage lineage))
      rw [he, List.flatMap_cons]
      simp only [linkEdges, hp, hc]
      rfl

/-- An entry after the walk: the class is the same, and it has what it had. -/
structure Grown (info info' : Lineage) : Prop where
  superName : info'.superName = info.superName
  isAbstract : info'.isAbstract = info.isAbstract
  methods : ∀ s, s ∈ info.methods → s ∈ info'.methods

theorem Walked.grown {usage : Usage} {lineage : ExtTreeMap String Lineage} {steps : List Step} {w : Walk}
    (hw : Walked usage lineage steps w) (name : String) :
    (lineage[name]? = none ∧ w.lineage[name]? = none) ∨
      ∃ info info', lineage[name]? = some info ∧ w.lineage[name]? = some info' ∧ Grown info info' := by
  by_cases hn : name ∈ reached steps
  · obtain ⟨⟨parent, child⟩, hl, rfl⟩ := List.mem_map.mp hn
    obtain ⟨above, info, -, hi, hc⟩ := hw.inherits parent child hl
    exact Or.inr ⟨info, _, hi, hc, rfl, rfl, fun s => mem_inherit⟩
  · rw [hw.frame name hn]
    cases lineage[name]? with
    | none => exact Or.inl ⟨rfl, rfl⟩
    | some info => exact Or.inr ⟨info, info, rfl, rfl, rfl, rfl, fun s hs => hs⟩

theorem tops_congr {a b : Facts} (h : ∀ name : String,
    a.lineage[name]?.map Lineage.superName = b.lineage[name]?.map Lineage.superName) :
    a.tops = b.tops := by
  have hmap : (a.lineage.map fun _ info => info.superName) =
      b.lineage.map fun _ info => info.superName := by
    refine ExtTreeMap.ext_getElem? fun name => ?_
    rw [ExtTreeMap.getElem?_map, ExtTreeMap.getElem?_map]
    exact h name
  have htops : ∀ facts : Facts, facts.tops =
      ((facts.lineage.map fun _ info => info.superName).toList.filter fun entry =>
        ClassName.isPlatform entry.2).map Prod.fst := by
    intro facts
    rw [ExtTreeMap.toList_map, List.filter_map, List.map_map]
    rfl
  rw [htops, htops, hmap]

/-! ## The same contracts again -/

/-- Abstract classes with subclasses have the methods of their interfaces. -/
def HasContracts (facts : Facts) : Prop :=
  ∀ (name : String) (info : Lineage), facts.lineage[name]? = some info →
    facts.children.contains name = true → info.isAbstract = true →
    ∀ s ∈ facts.contractsOf name, s ∈ info.methods

theorem foldl_insertIfNew_of_mem {signatures : List String} {table : ExtTreeMap String Access}
    (h : ∀ s ∈ signatures, s ∈ table) :
    signatures.foldl (fun table s => table.insertIfNew s contractAccess) table = table := by
  induction signatures with
  | nil => rfl
  | cons s signatures ih =>
    rw [List.foldl_cons, insertIfNew_of_mem (h s List.mem_cons_self)]
    exact ih fun s' hs => h s' (List.mem_cons_of_mem _ hs)

theorem propagateContracts_again (h : facts.HasContracts) : facts.propagateContracts = facts := by
  have hlineage : facts.propagateContracts.lineage = facts.lineage := by
    refine ExtTreeMap.ext_getElem? fun name => ?_
    unfold propagateContracts
    rw [ExtTreeMap.getElem?_map]
    cases hi : facts.lineage[name]? with
    | none => rfl
    | some info =>
      rw [Option.map_some]
      split
      · next hc =>
        obtain ⟨hchildren, habstract⟩ := Bool.and_eq_true_iff.mp hc
        rw [foldl_insertIfNew_of_mem (h name info hi hchildren habstract)]
      · rfl
  show { facts with lineage := facts.propagateContracts.lineage } = facts
  rw [hlineage]

theorem hasContracts_propagateContracts (facts : Facts) : facts.propagateContracts.HasContracts := by
  intro name info hi hc ha s hs
  have hchildren : facts.children.contains name = true := hc
  have hcontracts : s ∈ facts.contractsOf name := hs
  unfold propagateContracts at hi
  rw [ExtTreeMap.getElem?_map] at hi
  obtain ⟨before, -, rfl⟩ := Option.map_eq_some_iff.mp hi
  simp only [hchildren, Bool.true_and] at ha ⊢
  by_cases hb : before.isAbstract = true
  · rw [if_pos hb, ExtTreeMap.mem_iff_isSome_getElem?, getElem?_foldl_insertIfNew, if_pos hcontracts]
    simp
  · rw [if_neg hb] at ha
    exact absurd ha hb

/-! ## The walk after the walk -/

section
variable {edges : List Edge}

/-- A walk that comes to its end entered no top class without subclasses. -/
theorem mem_children_of_ok (hf : IsForest facts) (h : facts.hierarchyWalk.edges = .ok edges)
    {top : String} (ht : top ∈ facts.tops) : top ∈ facts.children := by
  cases hfind : facts.tops.find? (fun t => !facts.children.contains t) with
  | none =>
    have hc := List.find?_eq_none.mp hfind top ht
    rw [Bool.not_eq_true, Bool.not_eq_false'] at hc
    exact ExtTreeMap.mem_iff_contains.mpr hc
  | some other =>
    rw [hierarchyWalk_error hf hfind] at h
    simp at h

variable {after : Facts} (hf : IsForest facts) (h : facts.resolveHierarchy = (after, .ok edges))
include hf h

theorem tops_of_resolveHierarchy : after.tops = facts.tops := by
  obtain ⟨hw, rfl, -⟩ := walked_of_resolveHierarchy hf h
  refine tops_congr fun name => ?_
  show facts.hierarchyWalk.lineage[name]?.map _ = _
  rcases hw.grown name with ⟨hb, ha⟩ | ⟨info, info', hb, ha, hg⟩
  · rw [ha, hb]
  · rw [ha, hb, Option.map_some, Option.map_some, hg.superName]

/-- **The forest after a walk is walked again without change.** What led up has been taken over, and
what led down is drawn again. -/
theorem resolveHierarchy_again : after.resolveHierarchy = (after, .ok (recurring edges)) := by
  have hsteps : after.steps = facts.steps := by
    have htops := tops_of_resolveHierarchy hf h
    obtain ⟨-, rfl, -⟩ := walked_of_resolveHierarchy hf h
    rw [steps_eq, steps_eq, htops]
    rfl
  obtain ⟨hw, rfl, rfl⟩ := walked_of_resolveHierarchy hf h
  have hdone : ∀ step ∈ facts.steps,
      step.IsDone facts.usage facts.children facts.hierarchyWalk.lineage := by
    intro step hs
    cases step with
    | enter top =>
      refine mem_children_of_ok hf (congrArg Prod.snd h) ?_
      exact mem_of_enter_mem_stepsFrom (steps_eq facts ▸ hs)
    | link parent child =>
      have hlink : (parent, child) ∈ facts.steps.filterMap Step.link? :=
        List.mem_filterMap.mpr ⟨_, hs, rfl⟩
      obtain ⟨above, info, hp, -, hc⟩ := hw.inherits parent child hlink
      exact ⟨above, _, hp, hc, inherit_inherit⟩
  obtain ⟨hlineage, hedges⟩ := walk_of_isDone hdone
  have hagain : (facts.steps.filterMap Step.link?).flatMap
        (linkEdges facts.usage facts.hierarchyWalk.lineage facts.hierarchyWalk.lineage) =
      recurring facts.hierarchyEdges := by
    unfold hierarchyEdges recurring
    rw [List.filter_flatMap, ← link?_steps]
    refine List.flatMap_congr fun link hl => ?_
    obtain ⟨above, info, hp, hi, hc⟩ := hw.inherits link.1 link.2 hl
    exact linkEdges_again hp hi hc
  have hwalk : facts.resolveHierarchy.1.hierarchyWalk =
      walk facts.usage facts.children facts.hierarchyWalk.lineage facts.steps := by
    rw [hierarchyWalk, hsteps]
    rfl
  rw [resolveHierarchy, hwalk, hlineage, hedges, hagain]
  rfl

theorem hasContracts_of_resolveHierarchy (hc : facts.HasContracts) : after.HasContracts := by
  obtain ⟨hw, rfl, -⟩ := walked_of_resolveHierarchy hf h
  intro name info hi hchildren habstract s hs
  rcases hw.grown name with ⟨-, ha⟩ | ⟨before, info', hb, ha, hg⟩
  · have hnone : some info = none := hi.symm.trans ha
    simp at hnone
  · obtain rfl := Option.some.inj (ha.symm.trans hi)
    exact hg.methods s (hc name before hb hchildren (hg.isAbstract ▸ habstract) s hs)

end

/-! ## All passes -/

/-- All passes over the classes of an archive: the facts after them, and all edges or why the walk
stopped. -/
def analyze (facts : Facts) (policy : DispatchPolicy) (archive : Nat) (classes : List Class) :
    Facts × Except HierarchyError (List Edge) :=
  let extracted := (facts.index classes).extract archive classes
  let resolved := extracted.1.propagateContracts.resolveHierarchy
  (resolved.1, resolved.2.map fun hierarchy =>
    extracted.2.flatMap Prod.snd ++ hierarchy ++ resolved.1.dispatchEdges policy)

/-- If the passes succeed, the walk came to its end. -/
theorem exists_of_analyze {facts after : Facts} {policy : DispatchPolicy} {archive : Nat}
    {classes : List Class} {edges : List Edge}
    (h : facts.analyze policy archive classes = (after, .ok edges)) :
    ∃ hierarchy, ((facts.index classes).extract archive classes).1.propagateContracts.resolveHierarchy =
        (after, .ok hierarchy) ∧
      edges = ((facts.index classes).extract archive classes).2.flatMap Prod.snd ++ hierarchy ++
        after.dispatchEdges policy := by
  obtain ⟨hierarchy, hw, he⟩ := exists_of_map_eq_ok (congrArg Prod.snd h)
  have hafter := congrArg Prod.fst h
  subst hafter
  exact ⟨hierarchy, Prod.ext rfl hw, he.symm⟩

/-- The edges of all passes are those that the engine reports for an archive. -/
theorem edge?_records_of_analyze {engine : Engine} {index : Nat} {classes : List Class}
    {after : Facts} {edges : List Edge}
    (h : (ofUsage engine.initialUsage).analyze engine.config.dispatch index classes =
      (after, .ok edges)) :
    (engine.processClasses index classes).records.filterMap Record.edge? = edges := by
  obtain ⟨hierarchy, hr, rfl⟩ := exists_of_analyze h
  have hw : (engine.forestWalk index classes).edges = .ok hierarchy := congrArg Prod.snd hr
  have hafter := congrArg Prod.fst hr
  subst hafter
  rw [Engine.edge?_records_of_ok hw]
  rfl

theorem participants_extract (facts : Facts) (archive : Nat) (classes : List Class) :
    (facts.extract archive classes).1.participants = facts.participants := by
  refine extract_frame (p := Facts.participants) (fun _ _ _ _ _ => rfl) ?_ participants_register facts
    archive classes
  intro facts key m
  unfold noteAnnotations
  split <;> rfl

section
variable {usage : Usage} {classes : List Class} {after : Facts} {hierarchy : List Edge}
  (h : (beforeWalk usage archive classes).resolveHierarchy = (after, .ok hierarchy))
include h

/-- What is known after all passes, the forest apart. -/
theorem fields_of_resolveHierarchy :
    after.usage = ((ofUsage usage).index classes).usage.recordAll (occurrences archive classes) ∧
      after.marks = ((ofUsage usage).index classes).marks.after (occurrences archive classes) ∧
      after.implementors = ((ofUsage usage).index classes).implementors ∧
      after.contracts = ((ofUsage usage).index classes).contracts ∧
      after.participants = ((ofUsage usage).index classes).participants ∧
      after.annotations = (((ofUsage usage).index classes).extract archive classes).1.annotations := by
  obtain ⟨hi, hc⟩ := interfaces_extract ((ofUsage usage).index classes) archive classes
  have hafter := congrArg Prod.fst h
  subst hafter
  exact ⟨usage_extract _ archive classes, marks_extract _ archive classes, hi, hc,
    participants_extract _ archive classes, rfl⟩

theorem sameClasses_of_resolveHierarchy :
    ((ofUsage usage).index classes).marks.SameClasses after.marks := by
  obtain ⟨-, hmarks, -⟩ := fields_of_resolveHierarchy h
  have hsame : ((ofUsage usage).index classes).marks.SameClasses
      ((ofUsage usage).index classes).marks := fun _ _ => rfl
  rw [hmarks]
  exact (hsame.after _).symm

theorem indexed_of_resolveHierarchy {c : Class} (hc : c ∈ classes) : after.Indexed c := by
  obtain ⟨-, -, hi, hcontracts, hp, -⟩ := fields_of_resolveHierarchy h
  have hthread := sameClasses_of_resolveHierarchy h .thread c.name
  simp only [Launch.marksIn] at hthread
  have hindex := indexed_index (ofUsage usage) hc
  exact ⟨hcontracts ▸ hindex.contract, hi ▸ hindex.implementor, hthread ▸ hindex.thread,
    hp ▸ hindex.participants⟩

/-- Every class that takes part in inheritance has an entry. -/
theorem mem_lineage_of_resolveHierarchy {c : Class} (hc : c ∈ classes) (hi : c.isInterface = false)
    (hp : c.name ∈ after.participants) : c.name ∈ after.lineage := by
  obtain ⟨-, -, -, -, hparticipants, -⟩ := fields_of_resolveHierarchy h
  rw [hparticipants, ← ExtTreeSet.contains_iff_mem] at hp
  have hfirst : (concrete? classes c.name).isSome = true :=
    List.find?_isSome.mpr ⟨c, hc, by simp [hi]⟩
  obtain ⟨first, hfirst⟩ := Option.isSome_iff_exists.mp hfirst
  have hentry := lineage_extract_index usage archive classes c.name
  rw [if_pos hp, hfirst, Option.map_some] at hentry
  obtain ⟨extend, hextend, -⟩ := lineage_propagateContracts
    (((ofUsage usage).index classes).extract archive classes).1 c.name
  rw [hentry, Option.map_some] at hextend
  obtain ⟨hw, rfl, -⟩ := walked_of_resolveHierarchy (isForest_beforeWalk usage archive classes) h
  rcases hw.grown c.name with ⟨hnone, -⟩ | ⟨info, info', -, ha, -⟩
  · have hno : some (extend (.ofClass first)) = none := hextend.symm.trans hnone
    simp at hno
  · exact ExtTreeMap.mem_iff_isSome_getElem?.mpr (Option.isSome_iff_exists.mpr ⟨info', ha⟩)

theorem hasTaken_of_resolveHierarchy {c : Class} (hc : c ∈ classes) : after.HasTaken archive c := by
  obtain ⟨husage, hmarks, -, -, -, hannotations⟩ := fields_of_resolveHierarchy h
  have hoccurs : ∀ o ∈ c.occurrences archive, o ∈ occurrences archive classes :=
    fun o ho => List.mem_flatMap.mpr ⟨c, hc, ho⟩
  refine ⟨?_, ?_, ?_, ?_⟩
  · rcases register_cases after c with ⟨hsame, -⟩ | ⟨hi, hp, hl, -⟩
    · exact hsame
    · exact absurd (mem_lineage_of_resolveHierarchy h hc hi hp) hl
  · intro o ho
    rw [husage]
    exact (Usage.contains_recordAll _ _ _ _).mpr (Or.inr ⟨o, hoccurs o ho, rfl, rfl⟩)
  · intro o ho
    rw [hmarks]
    exact Marks.isSettledFor_after _ (hoccurs o ho)
  · intro m hm ha
    rw [hannotations]
    exact (mem_annotations_extract _ archive classes _).mpr (Or.inr ⟨c, hc, m, hm, ha, rfl⟩)

end

theorem recurring_dispatchEdges (facts : Facts) (policy : DispatchPolicy) :
    recurring (facts.dispatchEdges policy) = facts.dispatchEdges policy := by
  refine List.filter_eq_self.mpr fun e he => ?_
  simp [Edge.isOnce, Engine.kind_of_mem_dispatchEdges he]

/-- **A second run over the same classes learns nothing.** It succeeds, and draws the edges of the first
run without those that happen once. -/
theorem analyze_again (usage : Usage) (policy : DispatchPolicy) (archive : Nat) (classes : List Class)
    {after : Facts} {edges : List Edge}
    (h : (ofUsage usage).analyze policy archive classes = (after, .ok edges)) :
    after.analyze policy archive classes = (after, .ok (recurring edges)) := by
  obtain ⟨hierarchy, hr, rfl⟩ := exists_of_analyze h
  have hf := isForest_beforeWalk usage archive classes
  have hindex : after.index classes = after := index_again fun c => indexed_of_resolveHierarchy hr
  obtain ⟨hextract, hdrawn⟩ := extract_again (sameClasses_of_resolveHierarchy hr)
    fun c => hasTaken_of_resolveHierarchy hr
  have hcontracts : after.propagateContracts = after := propagateContracts_again
    (hasContracts_of_resolveHierarchy hf hr (hasContracts_propagateContracts _))
  have hwalk := resolveHierarchy_again hf hr
  unfold analyze
  simp only [hindex, hextract, hcontracts, hwalk, hdrawn, recurring_append, recurring_dispatchEdges]
  rfl

/-- Shapes and errands have edges of all kinds that a second run leaves out. -/
theorem analyze_again_shapes_errands :
    ∃ after edges, (ofUsage .empty).analyze .bothCalled 1 (shapes ++ Engine.errands) =
        (after, .ok edges) ∧
      ((Engine.start {}).processClasses 1 (shapes ++ Engine.errands)).records.filterMap Record.edge? =
        edges ∧
      edges.map Edge.kind = [.virtual, .runnable, .runnable, .threadStart, .virtual, .runnable, .virtual,
        .childToSuper, .superToChild, .superToChild] ∧
      after.analyze .bothCalled 1 (shapes ++ Engine.errands) = (after, .ok (recurring edges)) ∧
      (recurring edges).map Edge.kind = [.virtual, .runnable, .virtual, .runnable, .virtual,
        .superToChild, .superToChild] := by
  have hkinds : ((ofUsage .empty).analyze .bothCalled 1 (shapes ++ Engine.errands)).2.map
      (fun edges => (edges.map Edge.kind, (recurring edges).map Edge.kind)) =
      .ok ([.virtual, .runnable, .runnable, .threadStart, .virtual, .runnable, .virtual, .childToSuper,
        .superToChild, .superToChild],
        [.virtual, .runnable, .virtual, .runnable, .virtual, .superToChild, .superToChild]) := by
    decide +kernel
  obtain ⟨edges, hok, hboth⟩ := exists_of_map_eq_ok hkinds
  obtain ⟨hfirst, hsecond⟩ := Prod.mk.inj hboth
  have h : (ofUsage .empty).analyze .bothCalled 1 (shapes ++ Engine.errands) =
      (((ofUsage .empty).analyze .bothCalled 1 (shapes ++ Engine.errands)).1, .ok edges) :=
    Prod.ext rfl hok
  exact ⟨_, edges, h, edge?_records_of_analyze h, hfirst, analyze_again .empty .bothCalled 1 _ h,
    hsecond⟩

end CallGraph.Facts
