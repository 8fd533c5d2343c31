import CallGraph.Proofs.Inheritance
import CallGraph.Proofs.Occurrence

/-!
# How an archive ends

Processing the classes of an archive ends in one of two ways: the walk over the inheritance forest
stops, and only the code has been reported, or all edges are drawn.

* `processClasses_of_error`, `processClasses_of_ok` — the two ways
* `extractedEdges_processClasses`, `hierarchyEdges_of_ok`, `dispatchEdges_of_ok` — the edges from code,
  from inheritance and from dispatch can be told from each other by their kinds
-/

namespace CallGraph

/-- The edge that is reported. -/
def Record.edge? : Record → Option Edge
  | edge e => some e
  | _ => none

namespace Outcome

variable {ε α : Type}

/-- What is written to the stream of edges. -/
def edgeStream (o : Outcome ε α) : List Record := o.records.filter (!·.isAnnotated)

/-- What is written to the stream of annotations. -/
def annotationStream (o : Outcome ε α) : List Record := o.records.filter (·.isAnnotated)

/-- The reported edges that are drawn for code. -/
def extractedEdges (o : Outcome ε α) : List Edge :=
  (o.records.filterMap Record.edge?).filter (·.kind.isFromCode)

/-- The reported edges that are drawn for inheritance. -/
def hierarchyEdges (o : Outcome ε α) : List Edge :=
  (o.records.filterMap Record.edge?).filter (·.kind.isInherited)

/-- The reported edges that are drawn for dispatch through interfaces. -/
def dispatchEdges (o : Outcome ε α) : List Edge :=
  (o.records.filterMap Record.edge?).filter (·.kind = .dispatch)

end Outcome

namespace Engine

variable {engine : Engine} {index : Nat} {classes : List Class}

/-- The facts when all classes have been visited, and the edges of each class. -/
def visited (engine : Engine) (index : Nat) (classes : List Class) :
    Facts × List (Class × List Edge) :=
  ((Facts.ofUsage engine.initialUsage).index classes).extract index classes

/-- The walk over the forest of the classes. -/
def forestWalk (engine : Engine) (index : Nat) (classes : List Class) : Facts.Walk :=
  (Facts.beforeWalk engine.initialUsage index classes).hierarchyWalk

/-- The records of the code of all classes. -/
def codeRecords (engine : Engine) (index : Nat) (classes : List Class) : List Record :=
  (engine.visited index classes).2.flatMap engine.config.classRecords

/-- The engine after an archive that leaves a usage. -/
def leaving (engine : Engine) (usage : Usage) : Engine :=
  { engine with usage := if engine.config.carriesUsage then usage else engine.usage }

/-- **If the walk stops, so does the archive.** The code has been reported by then, and the usage is
lost. -/
theorem processClasses_of_error {e : HierarchyError}
    (h : (engine.forestWalk index classes).edges = .error e) :
    (engine.processClasses index classes).result = .error e ∧
      (engine.processClasses index classes).records = engine.codeRecords index classes ∧
      (engine.processClasses index classes).engine = engine.leaving .empty := by
  unfold processClasses
  simp only
  split
  · next e' h' =>
    obtain rfl := Except.error.inj (h'.symm.trans h)
    exact ⟨rfl, rfl, rfl⟩
  · next edges h' =>
    have he : Except.ok edges = Except.error e := h'.symm.trans h
    simp at he

/-- **If the walk comes to its end, everything is reported,** and the archive leaves its usage. -/
theorem processClasses_of_ok {hierarchy : List Edge}
    (h : (engine.forestWalk index classes).edges = .ok hierarchy) :
    (∃ summary, (engine.processClasses index classes).result = .ok summary) ∧
      (engine.processClasses index classes).records =
        engine.codeRecords index classes ++ hierarchy.map Record.edge ++
          ((engine.visited index classes).1.dispatchEdges engine.config.dispatch).map Record.edge ++
          (engine.visited index classes).1.annotationRecords ∧
      (engine.processClasses index classes).engine =
        engine.leaving (engine.visited index classes).1.usage := by
  unfold processClasses
  simp only
  split
  · next e h' =>
    have he : Except.error e = Except.ok hierarchy := h'.symm.trans h
    simp at he
  · next edges h' =>
    obtain rfl := Except.ok.inj (h'.symm.trans h)
    exact ⟨⟨_, rfl⟩, rfl, rfl⟩

/-- The summary counts what is reported. -/
theorem result_of_ok {hierarchy : List Edge}
    (h : (engine.forestWalk index classes).edges = .ok hierarchy) :
    (engine.processClasses index classes).result =
      .ok ⟨index, classes.length, ((engine.visited index classes).2.flatMap Prod.snd).length,
        hierarchy.length,
        ((engine.visited index classes).1.dispatchEdges engine.config.dispatch).length⟩ := by
  unfold processClasses
  simp only
  split
  · next e h' =>
    have he : Except.error e = Except.ok hierarchy := h'.symm.trans h
    simp at he
  · next edges h' =>
    obtain rfl := Except.ok.inj (h'.symm.trans h)
    rfl

/-! ## The streams -/

theorem edge?_map_edge (edges : List Edge) :
    (edges.map Record.edge).filterMap Record.edge? = edges := by
  rw [List.filterMap_map]
  exact List.filterMap_some

theorem edge?_codeRecords (engine : Engine) (index : Nat) (classes : List Class) :
    (engine.codeRecords index classes).filterMap Record.edge? =
      (engine.visited index classes).2.flatMap Prod.snd := by
  have hclass : ∀ entry, (engine.config.classRecords entry).filterMap Record.edge? = entry.2 := by
    rintro ⟨c, edges⟩
    have href : (c.references.map (Record.reference c.name)).filterMap Record.edge? = [] := by
      simp [Record.edge?]
    unfold EngineConfig.classRecords
    rw [List.filterMap_append, edge?_map_edge]
    split
    · rw [href, List.nil_append]
    · rw [List.filterMap_nil, List.nil_append]
  unfold codeRecords
  rw [List.filterMap_flatMap]
  exact congrArg (List.flatMap · _) (funext hclass)

theorem edge?_annotationRecords (facts : Facts) :
    facts.annotationRecords.filterMap Record.edge? = [] := by
  rw [List.filterMap_eq_nil_iff]
  intro r hr
  obtain ⟨⟨method, types⟩, -, hr⟩ := List.mem_flatMap.mp hr
  obtain ⟨type, -, rfl⟩ := List.mem_map.mp hr
  rfl

/-- Annotations are reported at the end, and only if the archive does not fail. -/
theorem isAnnotated_codeRecords (engine : Engine) (index : Nat) (classes : List Class) :
    (engine.codeRecords index classes).filter (·.isAnnotated) = [] := by
  rw [List.filter_eq_nil_iff]
  intro r hr
  obtain ⟨⟨c, edges⟩, -, hr⟩ := List.mem_flatMap.mp hr
  rcases List.mem_append.mp hr with hr | hr
  · split at hr
    · obtain ⟨name, -, rfl⟩ := List.mem_map.mp hr
      simp [Record.isAnnotated]
    · simp at hr
  · obtain ⟨e, -, rfl⟩ := List.mem_map.mp hr
    simp [Record.isAnnotated]

theorem isAnnotated_map_edge (edges : List Edge) :
    (edges.map Record.edge).filter (·.isAnnotated) = [] := by
  rw [List.filter_eq_nil_iff]
  intro r hr
  obtain ⟨e, -, rfl⟩ := List.mem_map.mp hr
  simp [Record.isAnnotated]

theorem isAnnotated_annotationRecords (facts : Facts) :
    facts.annotationRecords.filter (·.isAnnotated) = facts.annotationRecords := by
  rw [List.filter_eq_self]
  intro r hr
  obtain ⟨⟨method, types⟩, -, hr⟩ := List.mem_flatMap.mp hr
  obtain ⟨type, -, rfl⟩ := List.mem_map.mp hr
  rfl

theorem annotationStream_of_error {e : HierarchyError}
    (h : (engine.forestWalk index classes).edges = .error e) :
    (engine.processClasses index classes).annotationStream = [] := by
  unfold Outcome.annotationStream
  rw [(processClasses_of_error h).2.1, isAnnotated_codeRecords]

theorem annotationStream_of_ok {hierarchy : List Edge}
    (h : (engine.forestWalk index classes).edges = .ok hierarchy) :
    (engine.processClasses index classes).annotationStream =
      (engine.visited index classes).1.annotationRecords := by
  unfold Outcome.annotationStream
  rw [(processClasses_of_ok h).2.1]
  simp only [List.filter_append, isAnnotated_codeRecords, isAnnotated_map_edge,
    isAnnotated_annotationRecords, List.nil_append]

theorem edgeStream_of_ok {hierarchy : List Edge}
    (h : (engine.forestWalk index classes).edges = .ok hierarchy) :
    (engine.processClasses index classes).edgeStream =
      engine.codeRecords index classes ++ hierarchy.map Record.edge ++
        ((engine.visited index classes).1.dispatchEdges engine.config.dispatch).map
          Record.edge := by
  have hnot : ∀ records : List Record, records.filter (·.isAnnotated) = [] →
      records.filter (!·.isAnnotated) = records := by
    intro records hr
    rw [List.filter_eq_self]
    intro r hm
    simpa using List.filter_eq_nil_iff.mp hr r hm
  have hlast : (engine.visited index classes).1.annotationRecords.filter (!·.isAnnotated) = [] := by
    rw [List.filter_eq_nil_iff]
    intro r hm
    simpa using List.filter_eq_self.mp (isAnnotated_annotationRecords _) r hm
  unfold Outcome.edgeStream
  rw [(processClasses_of_ok h).2.1]
  simp only [List.filter_append, hnot _ (isAnnotated_codeRecords engine index classes),
    hnot _ (isAnnotated_map_edge _), hlast, List.append_nil]

/-- The walk draws edges of inheritance. -/
theorem isInherited_of_forestWalk {hierarchy : List Edge}
    (h : (engine.forestWalk index classes).edges = .ok hierarchy) {e : Edge} (he : e ∈ hierarchy) :
    e.kind.isInherited = true := by
  obtain ⟨-, -, rfl⟩ := Facts.walked_of_resolveHierarchy
    (Facts.isForest_beforeWalk engine.initialUsage index classes) (Prod.ext rfl h)
  obtain ⟨link, -, he⟩ := List.mem_flatMap.mp he
  obtain ⟨_, _, _, _, s, a, _, hs⟩ := Facts.mem_linkEdges.mp he
  rcases Facts.linkEdge?_cases hs with ⟨-, rfl⟩ | ⟨-, -, rfl⟩
  · rfl
  · rfl

theorem kind_of_mem_dispatchEdges {facts : Facts} {policy : DispatchPolicy} {e : Edge}
    (h : e ∈ facts.dispatchEdges policy) : e.kind = .dispatch := by
  obtain ⟨⟨name, implementor⟩, -, h⟩ := List.mem_flatMap.mp h
  obtain ⟨interface, -, h⟩ := List.mem_flatMap.mp h
  obtain ⟨signature, -, rfl⟩ := List.mem_map.mp h
  rfl

/-- An archive that does not fail has been walked to the end. -/
theorem exists_forestWalk_of_ok {summary : Summary}
    (h : (engine.processClasses index classes).result = .ok summary) :
    ∃ hierarchy, (engine.forestWalk index classes).edges = .ok hierarchy := by
  cases hw : (engine.forestWalk index classes).edges with
  | error e =>
    rw [(processClasses_of_error hw).1] at h
    simp at h
  | ok hierarchy => exact ⟨hierarchy, rfl⟩

/-- All edges of an archive that does not fail. -/
theorem edge?_records_of_ok {hierarchy : List Edge}
    (h : (engine.forestWalk index classes).edges = .ok hierarchy) :
    (engine.processClasses index classes).records.filterMap Record.edge? =
      (engine.visited index classes).2.flatMap Prod.snd ++ hierarchy ++
        (engine.visited index classes).1.dispatchEdges engine.config.dispatch := by
  rw [(processClasses_of_ok h).2.1]
  simp only [List.filterMap_append, edge?_codeRecords, edge?_map_edge, edge?_annotationRecords,
    List.append_nil]

theorem filter_of_forall {edges : List Edge} {p : Edge → Bool} {b : Bool}
    (h : ∀ e ∈ edges, p e = b) : edges.filter p = if b then edges else [] := by
  cases b with
  | true => exact List.filter_eq_self.mpr h
  | false => exact List.filter_eq_nil_iff.mpr fun e he => by simp [h e he]

/-- **The reported edges that are drawn for code are what visiting the classes gives,** whether or
not the archive fails. -/
theorem extractedEdges_processClasses (engine : Engine) (index : Nat) (classes : List Class) :
    (engine.processClasses index classes).extractedEdges =
      (engine.visited index classes).2.flatMap Prod.snd := by
  have hcode : ∀ e ∈ (engine.visited index classes).2.flatMap Prod.snd,
      e.kind.isFromCode = true := fun e he => Facts.isFromCode_of_mem_extract he
  unfold Outcome.extractedEdges
  cases hw : (engine.forestWalk index classes).edges with
  | error e =>
    rw [(processClasses_of_error hw).2.1, edge?_codeRecords, filter_of_forall hcode]
    rfl
  | ok hierarchy =>
    have hh : ∀ e ∈ hierarchy, e.kind.isFromCode = false :=
      fun e he => (EdgeKind.isFromCode_of_isInherited (isInherited_of_forestWalk hw he)).1
    have hd : ∀ e ∈ (engine.visited index classes).1.dispatchEdges engine.config.dispatch,
        e.kind.isFromCode = false := fun e he => by rw [kind_of_mem_dispatchEdges he]; rfl
    rw [edge?_records_of_ok hw, List.filter_append, List.filter_append, filter_of_forall hcode,
      filter_of_forall hh, filter_of_forall hd]
    simp

/-- An archive that fails reports no edges of inheritance or dispatch. -/
theorem inferredEdges_of_error {e : HierarchyError}
    (h : (engine.forestWalk index classes).edges = .error e) :
    (engine.processClasses index classes).hierarchyEdges = [] ∧
      (engine.processClasses index classes).dispatchEdges = [] := by
  have hcode : ∀ e ∈ (engine.visited index classes).2.flatMap Prod.snd,
      e.kind.isInherited = false ∧ e.kind ≠ .dispatch :=
    fun e he => EdgeKind.isInherited_of_isFromCode (Facts.isFromCode_of_mem_extract he)
  unfold Outcome.hierarchyEdges Outcome.dispatchEdges
  rw [(processClasses_of_error h).2.1, edge?_codeRecords]
  constructor
  · exact filter_of_forall (b := false) fun e he => (hcode e he).1
  · exact filter_of_forall (b := false) fun e he => decide_eq_false (hcode e he).2

/-- The reported edges that are drawn for inheritance are those of the walk. -/
theorem hierarchyEdges_of_ok {hierarchy : List Edge}
    (h : (engine.forestWalk index classes).edges = .ok hierarchy) :
    (engine.processClasses index classes).hierarchyEdges = hierarchy := by
  have hc : ∀ e ∈ (engine.visited index classes).2.flatMap Prod.snd,
      e.kind.isInherited = false :=
    fun e he => (EdgeKind.isInherited_of_isFromCode (Facts.isFromCode_of_mem_extract he)).1
  have hh : ∀ e ∈ hierarchy, e.kind.isInherited = true :=
    fun e he => isInherited_of_forestWalk h he
  have hd : ∀ e ∈ (engine.visited index classes).1.dispatchEdges engine.config.dispatch,
      e.kind.isInherited = false := fun e he => by rw [kind_of_mem_dispatchEdges he]; rfl
  unfold Outcome.hierarchyEdges
  rw [edge?_records_of_ok h, List.filter_append, List.filter_append, filter_of_forall hc,
    filter_of_forall hh, filter_of_forall hd]
  simp

/-- The reported edges that are drawn for dispatch are those that the facts give. -/
theorem dispatchEdges_of_ok {hierarchy : List Edge}
    (h : (engine.forestWalk index classes).edges = .ok hierarchy) :
    (engine.processClasses index classes).dispatchEdges =
      (engine.visited index classes).1.dispatchEdges engine.config.dispatch := by
  have hc : ∀ e ∈ (engine.visited index classes).2.flatMap Prod.snd,
      decide (e.kind = .dispatch) = false := fun e he => decide_eq_false
    (EdgeKind.isInherited_of_isFromCode (Facts.isFromCode_of_mem_extract he)).2
  have hh : ∀ e ∈ hierarchy, decide (e.kind = .dispatch) = false := fun e he => decide_eq_false
    (EdgeKind.isFromCode_of_isInherited (isInherited_of_forestWalk h he)).2
  have hd : ∀ e ∈ (engine.visited index classes).1.dispatchEdges engine.config.dispatch,
      decide (e.kind = .dispatch) = true :=
    fun e he => decide_eq_true (kind_of_mem_dispatchEdges he)
  unfold Outcome.dispatchEdges
  rw [edge?_records_of_ok h, List.filter_append, List.filter_append, filter_of_forall hc,
    filter_of_forall hh, filter_of_forall hd]
  simp

end Engine

end CallGraph
