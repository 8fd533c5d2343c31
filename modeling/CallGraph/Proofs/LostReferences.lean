import CallGraph.Proofs.CodeBlocks
import CallGraph.Proofs.Configuration

/-!
# Bootstrap tables that cannot be read

The bootstrap table of a class tells which methods its dynamic calls make function objects of. Where an
entry is missing or tells nothing, edges are missing that would lead through these methods. Nothing else
changes: no call that stands in the code is lost, and an archive fails for the same reason or not at all.

* `Class.Degraded` — a class whose bootstrap table tells less
* `Cause`, `Marks.pieces` — the edges of calls, cause by cause
* `processClasses_degraded` — an archive of such classes
-/

namespace CallGraph

open Std (ExtTreeMap ExtTreeSet)

/-- The list is cut short, and its entries are changed. -/
inductive Shortened {α : Type} (R : α → α → Prop) : List α → List α → Prop
  | cut (entries : List α) : Shortened R entries []
  | keep {entry entry' : α} {entries entries' : List α} (head : R entry entry')
      (rest : Shortened R entries entries') : Shortened R (entry :: entries) (entry' :: entries')

theorem Shortened.refl {α : Type} {R : α → α → Prop} (hr : ∀ entry, R entry entry) (entries : List α) :
    Shortened R entries entries := by
  induction entries with
  | nil => exact .cut []
  | cons entry entries ih => exact .keep (hr entry) ih

theorem Shortened.getElem? {α : Type} {R : α → α → Prop} {entries entries' : List α}
    (h : Shortened R entries entries') {index : Nat} {entry' : α} (he : entries'[index]? = some entry') :
    ∃ entry, entries[index]? = some entry ∧ R entry entry' := by
  induction h generalizing index with
  | cut entries => simp at he
  | @keep first first' rest rest' head _ ih =>
    cases index with
    | zero =>
      obtain rfl := Option.some.inj he
      exact ⟨first, rfl, head⟩
    | succ index => exact ih he

/-- A bootstrap argument that tells the same, or nothing any more. -/
inductive BootstrapArgument.Degraded : BootstrapArgument → BootstrapArgument → Prop
  | same (argument : BootstrapArgument) : Degraded argument argument
  | other (argument : BootstrapArgument) : Degraded argument .other
  | unresolved (argument : BootstrapArgument) : Degraded argument .unresolved

theorem BootstrapArgument.Degraded.eq_handle {argument : BootstrapArgument} {handle : MethodHandle}
    (h : Degraded argument (.handle handle)) : argument = .handle handle := by
  cases h
  rfl

/-- The same class with a bootstrap table that tells less: arguments have become meaningless, and
argument lists or the table itself have been cut short. -/
def Class.Degraded (c c' : Class) : Prop :=
  ∃ table, Shortened (Shortened BootstrapArgument.Degraded) c.bootstrap table ∧
    c' = { c with bootstrap := table }

namespace Class.Degraded

variable {c c' : Class}

theorem refl (c : Class) : c.Degraded c := ⟨c.bootstrap, .refl (.refl .same) c.bootstrap, rfl⟩

/-- What the table still tells it told before. -/
theorem argument (h : c.Degraded c') {index place : Nat} {arguments' : List BootstrapArgument}
    {handle : MethodHandle} (ht : c'.bootstrap[index]? = some arguments')
    (ha : arguments'[place]? = some (.handle handle)) :
    ∃ arguments, c.bootstrap[index]? = some arguments ∧ arguments[place]? = some (.handle handle) := by
  obtain ⟨table, htable, rfl⟩ := h
  obtain ⟨arguments, hi, hr⟩ := htable.getElem? ht
  obtain ⟨argument, hp, hd⟩ := hr.getElem? ha
  obtain rfl := hd.eq_handle
  exact ⟨arguments, hi, hp⟩

theorem madeFrom? (h : c.Degraded c') {maker : CallSite} {handle : MethodHandle}
    (hm : c'.madeFrom? maker = some handle) : c.madeFrom? maker = some handle := by
  obtain ⟨index, hb, hi⟩ := Option.bind_eq_some_iff.mp hm
  obtain ⟨arguments', ht, ha⟩ := implementation?_eq_some.mp hi
  exact Option.bind_eq_some_iff.mpr ⟨index, hb, implementation?_eq_some.mpr (h.argument ht ha)⟩

theorem handedTo (h : c.Degraded c') {previous : Option Instruction} {site : CallSite}
    {handle : MethodHandle} (hh : c'.HandedTo previous site handle) :
    c.HandedTo previous site handle := by
  obtain ⟨hv, ho, hn, instruction, maker, index, arguments', hp, hm, hk, hb, ht, ha⟩ := hh
  obtain ⟨arguments, ht, ha⟩ := h.argument ht ha
  exact ⟨hv, ho, hn, instruction, maker, index, arguments, hp, hm, hk, hb, ht, ha⟩

/-- No call is new. -/
theorem mem_calls (h : c.Degraded c') {m : Method} {call : Call} (hc : call ∈ c'.calls m) :
    call ∈ c.calls m := by
  obtain ⟨hb, previous, site, hi, hcall⟩ := mem_calls_iff.mp hc
  refine mem_calls_iff.mpr ⟨hb, previous, site, hi, hcall.imp_right ?_⟩
  rintro ⟨handle, hh, rfl⟩
  exact ⟨handle, h.handedTo hh, rfl⟩

theorem mem_occurrences (h : c.Degraded c') {archive : Nat} {o : Occurrence}
    (ho : o ∈ c'.occurrences archive) : o ∈ c.occurrences archive := by
  obtain ⟨m, hm, ho⟩ := List.mem_flatMap.mp ho
  obtain ⟨call, hc, rfl⟩ := List.mem_map.mp ho
  have hcalls := h.mem_calls hc
  obtain ⟨table, -, rfl⟩ := h
  exact List.mem_flatMap.mpr ⟨m, hm, List.mem_map_of_mem hcalls⟩

theorem lambdaName? (h : c.Degraded c') {instruction : Instruction} {name : String}
    (hn : c'.lambdaName? instruction = some name) : c.lambdaName? instruction = some name := by
  have hname : c'.name = c.name := by
    obtain ⟨table, -, rfl⟩ := h
    rfl
  obtain ⟨site, hs, hn⟩ := Option.bind_eq_some_iff.mp hn
  refine Option.bind_eq_some_iff.mpr ⟨site, hs, ?_⟩
  split at hn
  · next hk =>
    obtain ⟨handle, hm, hn⟩ := Option.bind_eq_some_iff.mp hn
    rw [if_pos hk]
    rw [hname] at hn
    exact Option.bind_eq_some_iff.mpr ⟨handle, h.madeFrom? hm, hn⟩
  · simp at hn

end Class.Degraded

/-! ## Lambda bodies -/

theorem ofList_toList_sublist {names names' : List String} (h : ∀ name ∈ names', name ∈ names) :
    (ExtTreeSet.ofList names' compare).toList.Sublist (ExtTreeSet.ofList names compare).toList := by
  have heq : ExtTreeSet.ofList names' compare =
      (ExtTreeSet.ofList names compare).filter fun name => names'.contains name := by
    refine ExtTreeSet.ext_mem fun name => ?_
    simp only [ExtTreeSet.mem_filter, ExtTreeSet.get_eq, ExtTreeSet.mem_ofList, List.contains_iff_mem,
      exists_prop]
    exact ⟨fun hn => ⟨h name hn, hn⟩, And.right⟩
  rw [heq, ExtTreeSet.toList_filter]
  exact List.filter_sublist

theorem Class.Degraded.lambdaEdges {c c' : Class} (h : c.Degraded c') (m : Method) :
    (c'.lambdaEdges m).Sublist (c.lambdaEdges m) := by
  have hnames : (c'.lambdaNames m).Sublist (c.lambdaNames m) := by
    unfold lambdaNames
    split
    · refine ofList_toList_sublist fun name hn => ?_
      obtain ⟨instruction, hi, hn⟩ := List.mem_filterMap.mp hn
      exact List.mem_filterMap.mpr ⟨instruction, hi, h.lambdaName? hn⟩
    · exact List.nil_sublist _
  obtain ⟨table, -, rfl⟩ := h
  exact hnames.filterMap _

/-- Lists that go class by class are shorter if they are for each class. -/
theorem flatMap_sublist_of_forall₂ {α β : Type} {R : α → α → Prop} {f : α → List β}
    {items items' : List α} (h : List.Forall₂ R items items')
    (hf : ∀ item item', R item item' → (f item').Sublist (f item)) :
    (items'.flatMap f).Sublist (items.flatMap f) := by
  induction h with
  | nil => exact .refl _
  | cons hr _ ih =>
    rw [List.flatMap_cons, List.flatMap_cons]
    exact (hf _ _ hr).append ih

/-! ## Why a call is there -/

/-- Why a call is there. -/
inductive Cause
  /-- It stands in the code. -/
  | site (o : Occurrence)
  /-- A method reference is handed to what is called right there. -/
  | reference (o : Occurrence)
deriving DecidableEq, Repr

namespace Cause

/-- The call. -/
def call : Cause → Occurrence
  | site o | reference o => o

/-- The call, if it stands in the code. -/
def site? : Cause → Option Occurrence
  | site o => some o
  | reference _ => none

/-- Of the edges of a call those that lead from its place in the code to the called method. -/
def siteEdges : Cause × List Edge → List Edge
  | (site o, edges) => edges.filter o.isDirect
  | (reference _, _) => []

end Cause

namespace Marks

/-- The edges of calls, call by call. -/
def pieces (marks : Marks) : List Cause → List (Cause × List Edge)
  | [] => []
  | cause :: causes => (cause, marks.edgesOf cause.call) :: (marks.read cause.call).marks.pieces causes

theorem flatMap_pieces (marks : Marks) (causes : List Cause) :
    (marks.pieces causes).flatMap Prod.snd = marks.draw (causes.map Cause.call) := by
  induction causes generalizing marks with
  | nil => rfl
  | cons cause causes ih => rw [pieces, List.flatMap_cons, ih, List.map_cons, draw]

/-- The edges of the calls that stand in the code depend on who is marked, not on what other calls have
made of the marks. -/
theorem SameClasses.siteEdges_pieces {marks marks' : Marks} (h : SameClasses marks marks')
    (causes : List Cause) :
    (marks.pieces causes).flatMap Cause.siteEdges =
      (causes.filterMap Cause.site?).flatMap marks'.directEdges := by
  induction causes generalizing marks with
  | nil => rfl
  | cons cause causes ih =>
    rw [pieces, List.flatMap_cons, ih (h.read cause.call)]
    cases cause with
    | site o =>
      have hsites : (Cause.site o :: causes).filterMap Cause.site? =
          o :: causes.filterMap Cause.site? := rfl
      rw [hsites, List.flatMap_cons, ← h.directEdges, ← filter_isDirect_edgesOf]
      rfl
    | reference o => rfl

end Marks

namespace Class

/-- The calls at an instruction. -/
def causesAt (c : Class) (m : Method) (archive : Nat) (previous : Option Instruction)
    (current : Instruction) : List Cause :=
  match current.call? with
  | none => []
  | some site =>
    .site (.ofCall (c.key m) m archive (.ofSite site)) ::
      ((c.reference? previous current).map fun handle =>
        .reference (.ofCall (c.key m) m archive (.ofHandle handle site.offset))).toList

/-- The calls of a method; a method without code makes none. -/
def causesOf (c : Class) (archive : Nat) (m : Method) : List Cause :=
  if m.hasBody then
    (withPrevious m.instructions).flatMap fun (previous, current) =>
      c.causesAt m archive previous current
  else []

/-- The calls of a class. -/
def causes (c : Class) (archive : Nat) : List Cause := c.methods.flatMap (c.causesOf archive)

theorem call_causesAt (c : Class) (m : Method) (archive : Nat) (previous : Option Instruction)
    (current : Instruction) :
    (c.causesAt m archive previous current).map Cause.call =
      (c.callsAt previous current).map (.ofCall (c.key m) m archive) := by
  unfold causesAt callsAt
  cases current.call? with
  | none => rfl
  | some site => cases c.reference? previous current <;> rfl

theorem call_causes (c : Class) (archive : Nat) :
    (c.causes archive).map Cause.call = c.occurrences archive := by
  unfold causes occurrences
  rw [List.map_flatMap]
  refine List.flatMap_congr fun m _ => ?_
  unfold causesOf calls
  split
  · rw [List.map_flatMap, List.map_flatMap]
    exact List.flatMap_congr fun (previous, current) _ => c.call_causesAt m archive previous current
  · rfl

theorem site?_causesAt (c : Class) (m : Method) (archive : Nat) (previous : Option Instruction)
    (current : Instruction) :
    (c.causesAt m archive previous current).filterMap Cause.site? =
      (current.call?.map fun site => .ofCall (c.key m) m archive (.ofSite site)).toList := by
  unfold causesAt
  cases current.call? with
  | none => rfl
  | some site => cases c.reference? previous current <;> rfl

/-- Every call that stands in the code is still there. -/
theorem Degraded.site?_causes {c c' : Class} (h : c.Degraded c') (archive : Nat) :
    (c'.causes archive).filterMap Cause.site? = (c.causes archive).filterMap Cause.site? := by
  obtain ⟨table, -, rfl⟩ := h
  unfold causes
  rw [List.filterMap_flatMap, List.filterMap_flatMap]
  refine List.flatMap_congr fun m _ => ?_
  unfold causesOf
  split
  · rw [List.filterMap_flatMap, List.filterMap_flatMap]
    refine List.flatMap_congr fun (previous, current) _ => ?_
    rw [site?_causesAt, site?_causesAt]
    rfl
  · rfl

end Class

/-- The calls of the classes of an archive. -/
def causes (archive : Nat) (classes : List Class) : List Cause := classes.flatMap (·.causes archive)

theorem call_causes (archive : Nat) (classes : List Class) :
    (causes archive classes).map Cause.call = occurrences archive classes := by
  unfold causes occurrences
  rw [List.map_flatMap]
  exact List.flatMap_congr fun c _ => c.call_causes archive

/-! ## The classes of an archive -/

section
variable {classes classes' : List Class} (h : List.Forall₂ Class.Degraded classes classes')
include h

theorem site?_causes_degraded (archive : Nat) :
    (causes archive classes').filterMap Cause.site? =
      (causes archive classes).filterMap Cause.site? := by
  unfold causes
  induction h with
  | nil => rfl
  | cons hc _ ih =>
    rw [List.flatMap_cons, List.flatMap_cons, List.filterMap_append, List.filterMap_append, ih,
      hc.site?_causes]

theorem mem_occurrences_degraded {archive : Nat} {o : Occurrence}
    (ho : o ∈ occurrences archive classes') : o ∈ occurrences archive classes := by
  unfold occurrences at ho ⊢
  induction h with
  | nil => exact ho
  | cons hc _ ih =>
    rw [List.flatMap_cons, List.mem_append] at ho ⊢
    exact ho.imp hc.mem_occurrences ih

namespace Facts

/-- What does not look at bootstrap tables goes over the classes as before. -/
theorem foldl_degraded {f : Facts → Class → Facts}
    (hf : ∀ facts c table, f facts { c with bootstrap := table } = f facts c) (facts : Facts) :
    classes'.foldl f facts = classes.foldl f facts := by
  induction h generalizing facts with
  | nil => rfl
  | cons hc _ ih =>
    obtain ⟨table, -, rfl⟩ := hc
    rw [List.foldl_cons, List.foldl_cons, hf]
    exact ih _

theorem index_degraded (facts : Facts) : facts.index classes' = facts.index classes :=
  foldl_degraded h (fun _ _ _ => rfl) facts

theorem extract_degraded (facts : Facts) (archive : Nat) :
    SameForest (facts.extract archive classes').1 (facts.extract archive classes).1 := by
  have hsame := extract_sameForest (.refl facts) archive classes
  have hsame' := extract_sameForest (.refl facts) archive classes'
  have hregister : classes'.foldl register facts = classes.foldl register facts :=
    foldl_degraded h (fun _ _ _ => rfl) facts
  rw [hregister] at hsame'
  exact hsame'.trans hsame.symm

theorem usage_degraded (facts : Facts) (archive : Nat) :
    (facts.extract archive classes').1.usage.Within (facts.extract archive classes).1.usage := by
  intro owner s hs
  rw [usage_extract, Usage.contains_recordAll] at hs ⊢
  refine hs.imp_right ?_
  rintro ⟨o, ho, hcall⟩
  exact ⟨o, mem_occurrences_degraded h ho, hcall⟩

/-- **The facts before the walk differ in usage and marks only,** and the walk does not look at marks. -/
theorem beforeWalk_degraded (usage : Usage) (archive : Nat) :
    Widened { beforeWalk usage archive classes' with
        marks := (beforeWalk usage archive classes).marks
        annotations := (beforeWalk usage archive classes).annotations }
      (beforeWalk usage archive classes) := by
  unfold beforeWalk
  rw [index_degraded h]
  generalize (ofUsage usage).index classes = indexed
  have hforest := extract_degraded h indexed archive
  obtain ⟨hi, hc⟩ := interfaces_extract indexed archive classes
  obtain ⟨hi', hc'⟩ := interfaces_extract indexed archive classes'
  refine ⟨_, usage_degraded h indexed archive, ?_⟩
  unfold withUsage propagateContracts contractsOf
  simp only [hforest.participants, hforest.lineage, hforest.children, hi, hc, hi', hc']

/-- The walk stops for the same reason, or draws less. -/
theorem hierarchyWalk_degraded (usage : Usage) (archive : Nat) :
    (∃ e, (beforeWalk usage archive classes).hierarchyWalk.edges = .error e ∧
      (beforeWalk usage archive classes').hierarchyWalk.edges = .error e) ∨
    ∃ hierarchy hierarchy', (beforeWalk usage archive classes).hierarchyWalk.edges = .ok hierarchy ∧
      (beforeWalk usage archive classes').hierarchyWalk.edges = .ok hierarchy' ∧
      hierarchy'.Sublist hierarchy := by
  have hwide := beforeWalk_degraded h usage archive
  have hf := isForest_beforeWalk usage archive classes
  have hsame : SameForest (beforeWalk usage archive classes')
      { beforeWalk usage archive classes' with
        marks := (beforeWalk usage archive classes).marks
        annotations := (beforeWalk usage archive classes).annotations } := ⟨rfl, rfl, rfl⟩
  have hf' := hsame.isForest (isForest_beforeWalk usage archive classes')
  cases hw' : (beforeWalk usage archive classes').hierarchyWalk.edges with
  | error e => exact Or.inl ⟨e, (hwide.edges_eq_error_iff hf' hf e).mp hw', rfl⟩
  | ok hierarchy' =>
    cases hw : (beforeWalk usage archive classes).hierarchyWalk.edges with
    | error e =>
      have he := hw'.symm.trans ((hwide.edges_eq_error_iff hf' hf e).mpr hw)
      simp at he
    | ok hierarchy =>
      obtain ⟨hwalked, -, rfl⟩ := walked_of_resolveHierarchy hf (Prod.ext rfl hw)
      obtain ⟨hwalked', -, rfl⟩ := walked_of_resolveHierarchy hf' (Prod.ext rfl hw')
      exact Or.inr ⟨_, _, rfl, rfl, hierarchyEdges_sublist hf' hf hwalked' hwalked hwide⟩

end Facts

end

/-! ## What the engine reports -/

namespace Engine

/-- The edges of the calls of an archive, call by call. -/
def pieces (engine : Engine) (index : Nat) (classes : List Class) : List (Cause × List Edge) :=
  ((Facts.ofUsage engine.initialUsage).index classes).marks.pieces (causes index classes)

/-- The edges from code, lambda bodies apart, are those of the calls. -/
theorem exceptLambda_extractedEdges (engine : Engine) (index : Nat) (classes : List Class) :
    Facts.exceptLambda (engine.processClasses index classes).extractedEdges =
      (engine.pieces index classes).flatMap Prod.snd := by
  rw [extractedEdges_processClasses, visited, Facts.extract_draws, pieces, Marks.flatMap_pieces,
    call_causes]

section
variable {classes classes' : List Class} (h : List.Forall₂ Class.Degraded classes classes')
include h

theorem siteEdges_degraded (engine : Engine) (index : Nat) :
    (engine.pieces index classes').flatMap Cause.siteEdges =
      (engine.pieces index classes).flatMap Cause.siteEdges := by
  have hsame : ∀ marks : Marks, marks.SameClasses marks := fun _ _ _ => rfl
  unfold pieces
  rw [(hsame _).siteEdges_pieces, (hsame _).siteEdges_pieces, site?_causes_degraded h,
    Facts.index_degraded h]

theorem lambdaEdges_degraded (engine : Engine) (index : Nat) :
    ((engine.processClasses index classes').extractedEdges.filter (·.kind = .lambda)).Sublist
      ((engine.processClasses index classes).extractedEdges.filter (·.kind = .lambda)) := by
  rw [extractedEdges_processClasses, extractedEdges_processClasses, visited, visited,
    Facts.filter_lambda_extract, Facts.filter_lambda_extract]
  refine flatMap_sublist_of_forall₂ h fun c c' hc => ?_
  have hmethods : c'.methods = c.methods := by
    obtain ⟨table, -, rfl⟩ := hc
    rfl
  rw [hmethods]
  exact List.Sublist.flatMap_right _ fun m _ => hc.lambdaEdges m

theorem dispatchEdges_degraded (engine : Engine) (index : Nat) :
    ((engine.visited index classes').1.dispatchEdges engine.config.dispatch).Sublist
      ((engine.visited index classes).1.dispatchEdges engine.config.dispatch) :=
  Facts.dispatchEdges_sublist (Facts.beforeWalk_degraded h engine.initialUsage index) id

end

/-- **Bootstrap tables that tell less take edges away and do no other harm.** The archive fails for the
same reason or not at all. Every call that stands in the code leads from its place to the called method
by the same edges in the same order; of the edges to lambda bodies, of inheritance and of dispatch some
may be missing. -/
theorem processClasses_degraded (engine : Engine) (index : Nat) {classes classes' : List Class}
    (h : List.Forall₂ Class.Degraded classes classes') :
    let o := engine.processClasses index classes
    let o' := engine.processClasses index classes'
    ((∃ e, o.result = .error e ∧ o'.result = .error e) ∨
      ∃ summary summary', o.result = .ok summary ∧ o'.result = .ok summary') ∧
    (Facts.exceptLambda o.extractedEdges = (engine.pieces index classes).flatMap Prod.snd ∧
      Facts.exceptLambda o'.extractedEdges = (engine.pieces index classes').flatMap Prod.snd ∧
      (engine.pieces index classes').flatMap Cause.siteEdges =
        (engine.pieces index classes).flatMap Cause.siteEdges) ∧
    (o'.extractedEdges.filter (·.kind = .lambda)).Sublist
      (o.extractedEdges.filter (·.kind = .lambda)) ∧
    o'.hierarchyEdges.Sublist o.hierarchyEdges ∧ o'.dispatchEdges.Sublist o.dispatchEdges := by
  intro o o'
  have hcode := exceptLambda_extractedEdges engine index
  have hsites := siteEdges_degraded h engine index
  have hlambdas := lambdaEdges_degraded h engine index
  rcases Facts.hierarchyWalk_degraded h engine.initialUsage index with
    ⟨e, hw, hw'⟩ | ⟨hierarchy, hierarchy', hw, hw', hsub⟩
  · have hboth : o.result = .error e ∧ o'.result = .error e :=
      ⟨(processClasses_of_error hw).1, (processClasses_of_error hw').1⟩
    have hnone : o'.hierarchyEdges = [] ∧ o'.dispatchEdges = [] := inferredEdges_of_error hw'
    rw [hnone.1, hnone.2]
    exact ⟨Or.inl ⟨e, hboth⟩, ⟨hcode classes, hcode classes', hsites⟩, hlambdas,
      List.nil_sublist _, List.nil_sublist _⟩
  · obtain ⟨⟨summary, hr⟩, -⟩ := processClasses_of_ok hw
    obtain ⟨⟨summary', hr'⟩, -⟩ := processClasses_of_ok hw'
    have hh : o.hierarchyEdges = hierarchy := hierarchyEdges_of_ok hw
    have hh' : o'.hierarchyEdges = hierarchy' := hierarchyEdges_of_ok hw'
    have hd : o.dispatchEdges = _ := dispatchEdges_of_ok hw
    have hd' : o'.dispatchEdges = _ := dispatchEdges_of_ok hw'
    rw [hh, hh', hd, hd']
    exact ⟨Or.inr ⟨summary, summary', hr, hr'⟩, ⟨hcode classes, hcode classes', hsites⟩, hlambdas,
      hsub, dispatchEdges_degraded h engine index⟩

/-- Polygons, and a survey that measures them by method references and writes in a lambda. -/
def survey (table : List (List BootstrapArgument)) : List Class :=
  let call (offset : Nat) (owner name : String) (kind : CallKind) (entry : Option Nat) : Instruction :=
    ⟨offset, .invoke ⟨owner, name, [], kind, offset, entry⟩⟩
  let exposed : MethodFlags := { isPublic := true }
  let main : Method := ⟨"main", [], {}, [], [],
    [call 0 "Survey" "apply" .dynamic (some 0), call 5 "java.util.Optional" "map" .virtual none,
     call 8 "Survey" "apply" .dynamic (some 1), call 13 "java.util.Optional" "map" .virtual none,
     call 16 "Survey" "accept" .dynamic (some 2), call 21 "Sized" "perimeter" .interface none]⟩
  [⟨"Survey", some "java.lang.Object", [], false, false, [],
     [main, ⟨"lambda$main$0", [], { isSynthetic := true }, [], [], []⟩], table⟩,
   ⟨"Sized", some "java.lang.Object", [], true, true, [],
     [⟨"perimeter", [], { isPublic := true, isAbstract := true }, [], [], []⟩], []⟩,
   ⟨"Shape", some "java.lang.Object", [], false, false, [], [⟨"area", [], exposed, [], [], []⟩], []⟩,
   ⟨"Polygon", some "Shape", ["Sized"], false, false, [], [⟨"perimeter", [], exposed, [], [], []⟩], []⟩]

/-- The table of the survey as it was written. -/
def surveyTable : List (List BootstrapArgument) :=
  [[.other, .handle ⟨"Polygon", "area", some []⟩], [.other, .handle ⟨"Polygon", "perimeter", some []⟩],
   [.other, .handle ⟨"Survey", "lambda$main$0", some []⟩]]

theorem degraded_survey :
    List.Forall₂ Class.Degraded (survey surveyTable) (survey [[.other, .unresolved]]) := by
  refine .cons ⟨[[.other, .unresolved]], ?_, rfl⟩
    (.cons (.refl _) (.cons (.refl _) (.cons (.refl _) .nil)))
  exact .keep (.keep (.same _) (.keep (.unresolved _) (.cut _))) (.cut _)

/-- With all but one entry lost and that one unresolved, what stands in the code is still there. -/
theorem processClasses_degraded_survey :
    List.Forall₂ Class.Degraded (survey surveyTable) (survey [[.other, .unresolved]]) ∧
      let o := (start {}).processClasses 1 (survey surveyTable)
      let o' := (start {}).processClasses 1 (survey [[.other, .unresolved]])
      (o.records.filterMap Record.edge?).map Edge.kind = [.dynamic, .virtual, .virtual, .dynamic,
        .virtual, .virtual, .dynamic, .interface, .lambda, .childToSuper, .dispatch] ∧
      (o'.records.filterMap Record.edge?).map Edge.kind =
        [.dynamic, .virtual, .dynamic, .virtual, .dynamic, .interface] ∧
      ((start {}).pieces 1 (survey [[.other, .unresolved]])).flatMap Cause.siteEdges =
        ((start {}).pieces 1 (survey surveyTable)).flatMap Cause.siteEdges ∧
      o'.hierarchyEdges.Sublist o.hierarchyEdges ∧ o'.dispatchEdges.Sublist o.dispatchEdges := by
  obtain ⟨-, ⟨-, -, hsites⟩, -, hhierarchy, hdispatch⟩ :=
    processClasses_degraded (start {}) 1 degraded_survey
  exact ⟨degraded_survey, by decide +kernel, by decide +kernel, hsites, hhierarchy, hdispatch⟩

end Engine

end CallGraph
