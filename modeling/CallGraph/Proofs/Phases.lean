import CallGraph.Proofs.ExecutionLinks
import CallGraph.Proofs.Streams

/-!
# The phases of an archive

An archive that does not fail is reported in three phases: its classes one by one, the inheritance
forest, and dispatch through interfaces. Each phase draws edges of its own kinds, and all of them
lead from signature to signature, since no table ever holds anything else.

* `Facts.Signed` — the tables hold signatures; every pass keeps it
* `signed_takeStep`, `linksSame_walk` — a step of the walk, and the whole walk, draw edges between
  methods of one signature
* `Facts.isReported_of_mem_extract` — the edges from code
* `processClasses_phases` — what an archive writes, and what its summary counts
-/

namespace CallGraph

open Std (ExtTreeMap)

/-! ## Signatures in tables -/

/-- The text is the name of a method with a list of arguments. -/
def IsSignature (s : String) : Prop := ∃ name arguments, s = signature name arguments

theorem Launch.isSignature_executed (launch : Launch) : IsSignature launch.executed := by
  cases launch with
  | callable => exact ⟨"call", [], by decide⟩
  | _ => exact ⟨"run", [], by decide⟩

namespace Facts

theorem isSignature_of_mem_signaturesOf {p : Method → Bool} {c : Class} {s : String}
    (h : s ∈ signaturesOf p c) : IsSignature s := by
  obtain ⟨m, -, -, rfl⟩ := mem_signaturesOf.mp h
  exact ⟨m.name, m.arguments, rfl⟩

theorem isSignature_of_declaredMethods {c : Class} {s : String} {a : Access}
    (h : (declaredMethods c)[s]? = some a) : IsSignature s := by
  rw [getElem?_declaredMethods] at h
  obtain ⟨m, hm, rfl⟩ := Option.map_eq_some_iff.mp h
  obtain ⟨-, hs⟩ := List.mem_filter.mp (List.mem_of_getLast? hm)
  exact ⟨m.name, m.arguments, (of_decide_eq_true hs).symm⟩

/-- The methods of classes go by their signatures. -/
def SignedLineage (lineage : ExtTreeMap String Lineage) : Prop :=
  ∀ (name : String) (info : Lineage) (s : String) (a : Access),
    lineage[name]? = some info → info.methods[s]? = some a → IsSignature s

/-- The methods of implementors, interfaces and classes go by their signatures. -/
structure Signed (facts : Facts) : Prop where
  implementors : ∀ (name : String) (implementor : Implementor),
    facts.implementors[name]? = some implementor → ∀ s ∈ implementor.methods, IsSignature s
  contracts : ∀ (name : String) (signatures : List String),
    facts.contracts[name]? = some signatures → ∀ s ∈ signatures, IsSignature s
  lineage : SignedLineage facts.lineage

theorem signed_ofUsage (usage : Usage) : Signed (ofUsage usage) where
  implementors := by simp [ofUsage]
  contracts := by simp [ofUsage]
  lineage := by
    intro name info s a hi
    simp [ofUsage] at hi

theorem signed_indexClass {facts : Facts} (h : Signed facts) (c : Class) :
    Signed (facts.indexClass c) where
  implementors := by
    intro name implementor hi s hs
    rw [implementors_indexClass, Option.or_eq_some_iff] at hi
    rcases hi with hi | ⟨-, hi⟩
    · exact h.implementors name implementor hi s hs
    · split at hi
      · obtain rfl := Option.some.inj hi
        exact isSignature_of_mem_signaturesOf hs
      · cases hi
  contracts := by
    intro name signatures hi s hs
    rw [contracts_indexClass, Option.or_eq_some_iff] at hi
    rcases hi with hi | ⟨-, hi⟩
    · exact h.contracts name signatures hi s hs
    · split at hi
      · obtain rfl := Option.some.inj hi
        exact isSignature_of_mem_signaturesOf hs
      · cases hi
  lineage := by
    rw [lineage_indexClass]
    exact h.lineage

theorem signed_index {facts : Facts} (h : Signed facts) (classes : List Class) :
    Signed (facts.index classes) := by
  unfold index
  induction classes generalizing facts with
  | nil => exact h
  | cons c classes ih => exact ih (signed_indexClass h c)

theorem signed_register {facts : Facts} (h : Signed facts) (c : Class) :
    Signed (facts.register c) := by
  have htables : (facts.register c).implementors = facts.implementors ∧
      (facts.register c).contracts = facts.contracts := by
    unfold register
    split <;> exact ⟨rfl, rfl⟩
  refine ⟨htables.1 ▸ h.implementors, htables.2 ▸ h.contracts, ?_⟩
  intro name info s a hi ha
  rw [lineage_register, Option.or_eq_some_iff] at hi
  rcases hi with hi | ⟨-, hi⟩
  · exact h.lineage name info s a hi ha
  · split at hi
    · obtain rfl := Option.some.inj hi
      exact isSignature_of_declaredMethods ha
    · cases hi

theorem signed_visit {facts : Facts} (h : Signed facts) (c : Class) (archive : Nat) :
    Signed (facts.visit c archive).1 := by
  have hframe := visitMethods_frame (p := fun f => (f.implementors, f.contracts, f.lineage))
    (fun _ _ _ _ _ => rfl) (fun facts key m => by unfold noteAnnotations; split <;> rfl)
    facts c archive c.methods
  obtain ⟨hi, hcl⟩ := Prod.mk.inj hframe
  obtain ⟨hc, hl⟩ := Prod.mk.inj hcl
  exact ⟨hi ▸ h.implementors, hc ▸ h.contracts, hl ▸ h.lineage⟩

theorem signed_extract {facts : Facts} (h : Signed facts) (archive : Nat) (classes : List Class) :
    Signed (facts.extract archive classes).1 := by
  induction classes generalizing facts with
  | nil => exact h
  | cons c classes ih => exact ih (signed_visit (signed_register h c) c archive)

theorem signed_propagateContracts {facts : Facts} (h : Signed facts) :
    Signed facts.propagateContracts := by
  refine ⟨h.implementors, h.contracts, ?_⟩
  intro name info s a hi ha
  have hmethod : facts.propagateContracts.method? name s = some a := by
    rw [method?, hi]
    exact ha
  rw [method?_propagateContracts, Option.or_eq_some_iff] at hmethod
  rcases hmethod with hown | ⟨-, hcontract⟩
  · obtain ⟨own, hk, hs⟩ := Option.bind_eq_some_iff.mp hown
    exact h.lineage name own s a hk hs
  · split at hcontract
    · next hcond =>
      have hs : s ∈ facts.contractsOf name := by
        simpa using (Bool.and_eq_true_iff.mp hcond).2
      unfold contractsOf at hs
      split at hs
      · cases hs
      · obtain ⟨interface, -, hs⟩ := List.mem_flatMap.mp hs
        cases hk : facts.contracts[interface]? with
        | none =>
          rw [hk] at hs
          cases hs
        | some signatures =>
          rw [hk] at hs
          exact h.contracts interface signatures hk s hs
    · cases hcontract

end Facts

/-! ## Edges between methods of one signature -/

/-- The edge is inferred, and both its methods have the same signature. -/
structure Edge.LinksSame (e : Edge) : Prop where
  origin : e.origin = none
  same : e.caller.signature = e.callee.signature
  signature : IsSignature e.caller.signature

namespace Facts

variable {usage : Usage} {children : ExtTreeMap String (List String)}
  {lineage : ExtTreeMap String Lineage}

theorem linksSame_of_linkEdge? {parent child : String} {info : Lineage} {s : String} {a : Access}
    {e : Edge} (h : linkEdge? usage parent child info s a = some e) (hs : IsSignature s) :
    e.LinksSame := by
  rcases linkEdge?_cases h with ⟨-, rfl⟩ | ⟨-, -, rfl⟩
  · exact ⟨rfl, rfl, hs⟩
  · exact ⟨rfl, rfl, hs⟩

/-- **A step of the walk** hands down signatures and draws edges between methods of one
signature. -/
theorem signed_takeStep (h : SignedLineage lineage) {step : Step}
    {lineage' : ExtTreeMap String Lineage} {edges : List Edge}
    (hs : takeStep usage children lineage step = .ok (lineage', edges)) :
    SignedLineage lineage' ∧ ∀ e ∈ edges, e.LinksSame := by
  cases step with
  | enter top =>
    simp only [takeStep] at hs
    split at hs
    · obtain ⟨rfl, rfl⟩ := Prod.mk.inj (Except.ok.inj hs)
      exact ⟨h, by simp⟩
    · simp at hs
  | link parent child =>
    simp only [takeStep] at hs
    split at hs
    · simp at hs
    · next above hp =>
      split at hs
      · simp at hs
      · next info hc =>
        obtain ⟨rfl, rfl⟩ := Prod.mk.inj (Except.ok.inj hs)
        constructor
        · intro name entry s a hk ha
          by_cases hn : child = name
          · subst hn
            rw [ExtTreeMap.getElem?_insert_self] at hk
            obtain rfl := Option.some.inj hk
            rcases (getElem?_inherit usage child info above.methods s a).mp ha with ha | ⟨ha, -⟩
            · exact h child info s a hc ha
            · exact h parent above s a hp ha
          · rw [getElem?_insert_ne hn] at hk
            exact h name entry s a hk ha
        · intro e he
          obtain ⟨⟨s, a⟩, hm, hedge⟩ := List.mem_filterMap.mp he
          have ha := ExtTreeMap.mem_toList_iff_getElem?_eq_some.mp hm
          exact linksSame_of_linkEdge? hedge (h parent above s a hp ha)

/-- **So does the whole walk.** -/
theorem linksSame_walk (h : SignedLineage lineage) {steps : List Step} {edges : List Edge}
    (hw : (walk usage children lineage steps).edges = .ok edges) :
    ∀ e ∈ edges, e.LinksSame := by
  induction steps generalizing lineage edges with
  | nil =>
    obtain rfl : [] = edges := Except.ok.inj hw
    simp
  | cons step steps ih =>
    rw [walk] at hw
    cases hs : takeStep usage children lineage step with
    | error e =>
      rw [hs] at hw
      cases hw
    | ok result =>
      obtain ⟨lineage', first⟩ := result
      rw [hs] at hw
      obtain ⟨more, hmore, rfl⟩ := exists_of_map_eq_ok hw
      obtain ⟨hnext, hfirst⟩ := signed_takeStep h hs
      intro e he
      rcases List.mem_append.mp he with he | he
      · exact hfirst e he
      · exact ih hnext hmore e he

theorem linksSame_of_mem_dispatchEdges {facts : Facts} (h : Signed facts) {policy : DispatchPolicy}
    {e : Edge} (he : e ∈ facts.dispatchEdges policy) : e.LinksSame := by
  obtain ⟨⟨name, implementor⟩, hm, he⟩ := List.mem_flatMap.mp he
  obtain ⟨interface, -, he⟩ := List.mem_flatMap.mp he
  obtain ⟨s, hs, rfl⟩ := List.mem_map.mp he
  have hk := ExtTreeMap.mem_toList_iff_getElem?_eq_some.mp hm
  exact ⟨rfl, rfl, h.implementors name implementor hk s (List.mem_of_mem_filter hs)⟩

end Facts

/-! ## Edges from code -/

/-- The edge does not stand for a place in the code. Making an object is such a place, and what runs
in the end is not. -/
def Edge.IsInferred (e : Edge) : Prop :=
  e.kind.tag ∈ ["LM", "TSR", "SCC", "CCS", "ITF"] ∨
    e.kind.tag ∈ ["RIR", "CIC"] ∧ e.callee.signature ∈ ["run()", "call()"]

/-- What holds of every edge that is reported for an archive. -/
structure Edge.IsReported (archive : Nat) (e : Edge) : Prop where
  caller : IsSignature e.caller.signature
  callee : IsSignature e.callee.signature
  archive : ∀ origin, e.origin = some origin → origin.archive = archive
  inferred : e.IsInferred → e.origin = none

/-- An edge without an origin is from no archive. -/
theorem Edge.isReported_of_origin {archive : Nat} {e : Edge} (ho : e.origin = none)
    (hcaller : IsSignature e.caller.signature) (hcallee : IsSignature e.callee.signature) :
    e.IsReported archive where
  caller := hcaller
  callee := hcallee
  archive := by
    intro origin h
    rw [ho] at h
    cases h
  inferred := fun _ => ho

theorem Edge.LinksSame.isReported {archive : Nat} {e : Edge} (h : e.LinksSame) :
    e.IsReported archive :=
  isReported_of_origin h.origin h.signature (h.same ▸ h.signature)

theorem Class.isReported_of_mem_lambdaEdges {c : Class} {m : Method} {e : Edge} (archive : Nat)
    (h : e ∈ c.lambdaEdges m) : e.IsReported archive := by
  obtain ⟨name, -, hm⟩ := List.mem_filterMap.mp h
  obtain ⟨body, -, rfl⟩ := Option.map_eq_some_iff.mp hm
  exact Edge.isReported_of_origin rfl ⟨m.name, m.arguments, rfl⟩ ⟨body.name, body.arguments, rfl⟩

namespace Marks

variable {o : Occurrence} {marks : Marks}

/-- **What one call can draw:** itself under its own kind, itself under that of a launch if it is a
constructor, or the link of a launch. -/
theorem mem_edgesOf_cases {e : Edge} (h : e ∈ marks.edgesOf o) :
    e = o.edge o.call.kind ∨
      (∃ launch : Launch, launch.isConstruction = true ∧ o.call.name = constructorName ∧
        e = o.edge launch.kind) ∨
      ∃ launch : Launch, e = launch.link o := by
  have hlaunched : ∀ launch : Launch, e ∈ marks.launched launch o →
      (∃ launch : Launch, launch.isConstruction = true ∧ o.call.name = constructorName ∧
        e = o.edge launch.kind) ∨
      ∃ launch : Launch, e = launch.link o := by
    intro launch hm
    unfold launched at hm
    split at hm
    · next ht =>
      rcases List.mem_append.mp hm with hm | hm
      · split at hm
        · next hc =>
          have hl := (Bool.and_eq_true_iff.mp hc).1
          exact Or.inl ⟨launch, hl, name_of_triggers hl ht, List.mem_singleton.mp hm⟩
        · cases hm
      · split at hm
        · exact Or.inr ⟨launch, List.mem_singleton.mp hm⟩
        · cases hm
    · cases hm
  rw [edgesOf_eq] at h
  simp only [List.mem_append] at h
  rcases h with ((h | h) | h) | h
  · exact Or.inr (hlaunched .runnable h)
  · exact Or.inr (hlaunched .callable h)
  · exact Or.inr (hlaunched .thread h)
  · split at h
    · cases h
    · exact Or.inl (List.mem_singleton.mp h)

end Marks

/-- A call as it stands in the code is not inferred. -/
theorem not_isInferred_of_isRaw {e : Edge} (h : e.kind.isRaw = true) : ¬e.IsInferred := by
  unfold Edge.IsInferred
  cases hk : e.kind <;> simp [hk, EdgeKind.isRaw, EdgeKind.tag] at h ⊢

/-- Neither is the making of an object. -/
theorem not_isInferred_of_constructor {o : Occurrence} (h : o.call.name = Marks.constructorName)
    {launch : Launch} (hl : launch.isConstruction = true) : ¬(o.edge launch.kind).IsInferred := by
  have hcallee : (o.edge launch.kind).callee.signature =
      signature Marks.constructorName o.call.arguments := by
    rw [← h]
    rfl
  rintro (htag | ⟨-, hs⟩)
  · cases launch <;> simp [Occurrence.edge, Launch.kind, EdgeKind.tag, Launch.isConstruction]
      at htag hl
  · rw [hcallee] at hs
    rcases List.mem_cons.mp hs with hs | hs
    · exact signature_constructor_ne .runnable o.call.arguments hs
    · exact signature_constructor_ne .callable o.call.arguments (List.mem_singleton.mp hs)

theorem of_mem_occurrences {archive : Nat} {classes : List Class} {o : Occurrence}
    (h : o ∈ occurrences archive classes) :
    IsSignature o.caller.signature ∧
      ∀ origin, o.origin = some origin → origin.archive = archive := by
  obtain ⟨c, -, h⟩ := List.mem_flatMap.mp h
  obtain ⟨m, -, h⟩ := List.mem_flatMap.mp h
  obtain ⟨call, -, rfl⟩ := List.mem_map.mp h
  refine ⟨⟨m.name, m.arguments, rfl⟩, ?_⟩
  intro origin ho
  obtain ⟨line, -, rfl⟩ := Option.map_eq_some_iff.mp ho
  rfl

/-- The edges of a call of the archive. -/
theorem isReported_of_mem_edgesOf {archive : Nat} {classes : List Class} {o : Occurrence}
    (ho : o ∈ occurrences archive classes) {marks : Marks} {e : Edge} (h : e ∈ marks.edgesOf o) :
    e.IsReported archive := by
  obtain ⟨hcaller, harchive⟩ := of_mem_occurrences ho
  have hcallee : IsSignature o.call.callee.signature := ⟨o.call.name, o.call.arguments, rfl⟩
  rcases Marks.mem_edgesOf_cases h with rfl | ⟨launch, hl, hname, rfl⟩ | ⟨launch, rfl⟩
  · exact ⟨hcaller, hcallee, harchive,
      fun hi => absurd hi (not_isInferred_of_isRaw (isRaw_of_mem_occurrences ho))⟩
  · exact ⟨hcaller, hcallee, harchive,
      fun hi => absurd hi (not_isInferred_of_constructor hname hl)⟩
  · exact Edge.isReported_of_origin rfl hcallee launch.isSignature_executed

namespace Facts

/-- **The edges from the code of an archive.** -/
theorem isReported_of_mem_extract {facts : Facts} {archive : Nat} {classes : List Class} {e : Edge}
    (h : e ∈ (facts.extract archive classes).2.flatMap Prod.snd) : e.IsReported archive := by
  by_cases hl : e.kind = .lambda
  · have hm : e ∈ classes.flatMap fun c => c.methods.flatMap c.lambdaEdges := by
      rw [← filter_lambda_extract facts archive]
      exact List.mem_filter.mpr ⟨h, by simpa using hl⟩
    obtain ⟨c, -, hm⟩ := List.mem_flatMap.mp hm
    obtain ⟨m, -, hm⟩ := List.mem_flatMap.mp hm
    exact c.isReported_of_mem_lambdaEdges archive hm
  · have hd : e ∈ facts.marks.draw (occurrences archive classes) := by
      rw [← extract_draws]
      exact List.mem_filter.mpr ⟨h, by simpa using hl⟩
    obtain ⟨marks, o, ho, he⟩ := Marks.exists_of_mem_draw hd
    exact isReported_of_mem_edgesOf ho he

/-- The edges of a class are those of visiting it when the classes before it have been visited. -/
theorem getElem?_extract {facts : Facts} {archive : Nat} {classes : List Class} {k : Nat}
    {entry : Class × List Edge} (h : (facts.extract archive classes).2[k]? = some entry) :
    entry.2 = (((facts.extract archive (classes.take k)).1.register entry.1).visit entry.1
      archive).2 := by
  induction classes generalizing facts k with
  | nil => simp [extract] at h
  | cons c classes ih =>
    cases k with
    | zero =>
      obtain rfl : _ = entry := Option.some.inj h
      rfl
    | succ k => exact ih h

end Facts

/-! ## What an archive writes -/

namespace Engine

variable {engine : Engine} {index : Nat} {classes : List Class} {hierarchy : List Edge}

/-- Inheritance and dispatch link methods of one signature. -/
theorem linksSame_of_ok (h : (engine.forestWalk index classes).edges = .ok hierarchy) {e : Edge}
    (he : e ∈ hierarchy ++
      (engine.visited index classes).1.dispatchEdges engine.config.dispatch) : e.LinksSame := by
  have hsigned : Facts.Signed (engine.visited index classes).1 :=
    Facts.signed_extract (Facts.signed_index (Facts.signed_ofUsage _) classes) index classes
  rcases List.mem_append.mp he with he | he
  · exact Facts.linksSame_walk (Facts.signed_propagateContracts hsigned).lineage h e he
  · exact Facts.linksSame_of_mem_dispatchEdges hsigned he

/-- **The phases of an archive.** What goes to the stream of edges when the archive does not fail
is, class by class, the references of the class and the edges of its code, then the edges of
inheritance, then those of dispatch. The edges of a class are drawn with what the classes before it
have left. The summary counts the edges of each phase. -/
theorem processClasses_phases {summary : Summary}
    (h : (engine.processClasses index classes).result = .ok summary) :
    let outcome := engine.processClasses index classes
    let indexed := (Facts.ofUsage engine.initialUsage).index classes
    let facts := (indexed.extract index classes).1
    let drawn := (indexed.extract index classes).2
    let extracted := drawn.flatMap Prod.snd
    let dispatch := facts.dispatchEdges engine.config.dispatch
    ∃ hierarchy, facts.propagateContracts.resolveHierarchy.2 = .ok hierarchy ∧
      drawn.map Prod.fst = classes ∧
      (∀ (k : Nat) (entry : Class × List Edge), drawn[k]? = some entry →
        entry.2 = (((indexed.extract index (classes.take k)).1.register entry.1).visit entry.1
          index).2) ∧
      outcome.edgeStream =
        drawn.flatMap (fun entry =>
          (if engine.config.classReferences then
            entry.1.references.map (Record.reference entry.1.name) else []) ++
          entry.2.map Record.edge) ++
        hierarchy.map Record.edge ++ dispatch.map Record.edge ∧
      (∀ sink : Sink, (sink.writeAll outcome.records).2.edges =
        Record.lines sink.format outcome.edgeStream) ∧
      (∀ e ∈ extracted, e.kind.tag ∈ ["M", "I", "O", "S", "D", "LM", "RIR", "CIC", "TSR"]) ∧
      (∀ e ∈ hierarchy, e.kind.tag ∈ ["SCC", "CCS"]) ∧
      (∀ e ∈ dispatch, e.kind.tag = "ITF") ∧
      (∀ e ∈ extracted ++ hierarchy ++ dispatch, e.IsReported index) ∧
      (∀ e ∈ hierarchy ++ dispatch, e.caller.signature = e.callee.signature) ∧
      summary.extracted = extracted.length ∧
      summary.hierarchy = hierarchy.length ∧
      summary.interfaces = dispatch.length ∧
      summary.total = (outcome.edgeStream.filterMap Record.edge?).length := by
  intro outcome indexed facts drawn extracted dispatch
  obtain ⟨hierarchy, hw⟩ := exists_forestWalk_of_ok h
  obtain rfl : _ = summary := Except.ok.inj ((result_of_ok hw).symm.trans h)
  have hlinks : ∀ e ∈ hierarchy ++ dispatch, e.LinksSame := fun e he => linksSame_of_ok hw he
  refine ⟨hierarchy, hw, map_fst_extract _ index classes,
    fun k entry hk => Facts.getElem?_extract hk, edgeStream_of_ok hw,
    fun sink => sink.edges_writeAll _, ?_, ?_, ?_, ?_, fun e he => (hlinks e he).same,
    rfl, rfl, rfl, ?_⟩
  · intro e he
    have hk := Facts.isFromCode_of_mem_extract he
    cases hkind : e.kind <;> simp [hkind, EdgeKind.isFromCode, EdgeKind.tag] at hk ⊢
  · intro e he
    have hk := isInherited_of_forestWalk hw he
    cases hkind : e.kind <;> simp [hkind, EdgeKind.isInherited, EdgeKind.tag] at hk ⊢
  · intro e he
    rw [kind_of_mem_dispatchEdges he]
    rfl
  · intro e he
    rw [List.append_assoc] at he
    rcases List.mem_append.mp he with he | he
    · exact Facts.isReported_of_mem_extract he
    · exact (hlinks e he).isReported
  · rw [edgeStream_of_ok hw]
    simp only [List.filterMap_append, edge?_codeRecords, edge?_map_edge, List.length_append]
    rfl

/-- A program that asks a shape for its area, and a circle, which is a figure that can be drawn. -/
def studio : List Class :=
  let area : Method := ⟨"area", [], { isPublic := true }, [], [], []⟩
  let asked : Method := ⟨"area", [], { isPublic := true, isAbstract := true }, [], [], []⟩
  let draw : Method := ⟨"draw", [], { isPublic := true, isAbstract := true }, [], [], []⟩
  let main : Method := ⟨"main", [], { isPublic := true, isStatic := true }, [], [],
    [⟨0, .invoke ⟨"Shape", "area", [], .interface, 0, none⟩⟩,
     ⟨5, .invoke ⟨"Circle", "area", [], .virtual, 5, none⟩⟩]⟩
  [⟨"Main", none, [], false, false, ["Circle", "Shape"], [main], []⟩,
   ⟨"Circle", some "Figure", ["Shape"], false, false, ["Figure", "Shape"], [area], []⟩,
   ⟨"Figure", none, [], false, true, [], [draw], []⟩,
   ⟨"Shape", none, [], true, true, [], [asked], []⟩]

theorem processClasses_phases_studio :
    let outcome := (start { classReferences := true }).processClasses 1 studio
    outcome.result = .ok ⟨1, 4, 2, 1, 1⟩ ∧
      (outcome.edgeStream.filterMap Record.edge?).length = 4 := by
  have h : ((start { classReferences := true }).processClasses 1 studio).result =
      .ok ⟨1, 4, 2, 1, 1⟩ := by decide +kernel
  obtain ⟨_, _, _, _, _, _, _, _, _, _, _, _, _, _, htotal⟩ := processClasses_phases h
  exact ⟨h, htotal.symm⟩

end Engine

end CallGraph
