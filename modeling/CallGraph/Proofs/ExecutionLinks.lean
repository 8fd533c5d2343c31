import CallGraph.Proofs.CallSites
import CallGraph.Proofs.Indexing
import CallGraph.Proofs.Outcome

/-!
# Links to what runs elsewhere

A class that is made to run elsewhere is recognized by a first look over all classes of the archive.
The link to its `run()` or `call()` is drawn for the first call that sets it off, wherever in the
archive it stands, and never again.

* `recognizes_index`, `isPending_index` — the marks after the first look
* `filter_isLink_draw`, `filter_isSetOff_draw`, `filter_isRawOn_draw` — the edges on one class, along
  any calls
* `extractedEdges_links` — the edges on one class of an archive
-/

namespace CallGraph

open Std (ExtTreeMap)

/-- How an object comes to run elsewhere. -/
inductive Launch
  /-- A runnable object is made. -/
  | runnable
  /-- A callable object is made. -/
  | callable
  /-- A thread is started. -/
  | thread
deriving DecidableEq, Repr

namespace Launch

/-- The kind of the edges. -/
def kind : Launch → EdgeKind
  | runnable => .runnable
  | callable => .callable
  | thread => .threadStart

/-- The signature of what runs in the end. -/
def executed : Launch → String
  | runnable => "run()"
  | callable => "call()"
  | thread => "run()"

/-- The object is set off by making it. -/
def isConstruction : Launch → Bool
  | runnable => true
  | callable => true
  | thread => false

/-- The marked classes. -/
def marksIn (marks : Marks) : Launch → MarkMap
  | runnable => marks.runnable
  | callable => marks.callable
  | thread => marks.thread

/-- The class says of itself that its objects run elsewhere. -/
def suits : Launch → Class → Bool
  | runnable, c => !c.isAbstract && decide (Facts.runnableName ∈ c.interfaces)
  | callable, c => !c.isAbstract && decide (Facts.callableName ∈ c.interfaces)
  | thread, c => c.superName = some Facts.threadName

/-- Objects of the name run elsewhere. For interfaces the class that implements under the name
decides; to be a thread, one class of the name is enough, even an interface. -/
def recognizes (launch : Launch) (classes : List Class) (name : String) : Bool :=
  if launch.isConstruction then (implementor? classes name).any launch.suits
  else classes.any fun c => c.name = name && launch.suits c

/-- The call sets off an object of the class. -/
def triggers (launch : Launch) (name : String) (o : Occurrence) : Bool :=
  o.call.owner = name &&
    if launch.isConstruction then decide (o.call.name = Marks.constructorName)
    else decide (o.call.name = Marks.startName ∧ o.call.arguments = [])

/-- The edge from the called method to what runs in the end. -/
def link (launch : Launch) (o : Occurrence) : Edge :=
  .inferred o.call.callee launch.kind ⟨o.call.owner, launch.executed⟩

/-- The edge leads to what runs in the end. -/
def isLink (launch : Launch) (name : String) (e : Edge) : Bool :=
  decide (e.kind = launch.kind ∧ e.callee = ⟨name, launch.executed⟩)

/-- The edge leads to where an object of the class is made, under the kind of the launch. -/
def isSetOff (launch : Launch) (name : String) (e : Edge) : Bool :=
  decide (e.kind = launch.kind ∧ e.callee.owner = name ∧ e.callee.signature ≠ launch.executed)

end Launch

/-- The edge is a call on the class as it stands in the code. -/
def isRawOn (name : String) (e : Edge) : Bool := e.kind.isRaw && decide (e.callee.owner = name)

/-! ## The first look -/

theorem MarkMap.isPending_seed {marks : MarkMap}
    (h : ∀ name, marks.isPending name = marks.recognizes name) (name name' : String) :
    (marks.seed name).isPending name' = (marks.seed name).recognizes name' := by
  rw [recognizes_seed, ← h name']
  unfold isPending seed
  rw [ExtTreeMap.getElem?_insertIfNew]
  by_cases hn : name = name'
  · subst hn
    by_cases hm : name ∈ marks.byClass
    · have hp : marks.isPending name = true := by
        rw [h name]
        exact ExtTreeMap.contains_iff_mem.mpr hm
      unfold isPending at hp
      rw [if_neg fun hc => hc.2 hm, hp, Bool.or_true]
    · simp [hm]
  · simp [hn]

namespace Facts

theorem marks_indexClass (facts : Facts) (c : Class) :
    (facts.indexClass c).marks =
      let marks :=
        if c.isImplementor && !facts.implementors.contains c.name then
          markImplementor facts.marks c
        else facts.marks
      if c.superName = some threadName then { marks with thread := marks.thread.seed c.name }
      else marks := by
  have hfirst : (if c.isInterface then facts.indexInterface c else facts.indexImplementor c).marks =
      if c.isImplementor && !facts.implementors.contains c.name then markImplementor facts.marks c
      else facts.marks := by
    unfold Class.isImplementor indexInterface indexImplementor
    by_cases hi : c.isInterface = true
    · simp only [hi, if_true]
      split <;> simp
    · simp only [hi]
      cases c.interfaces.isEmpty <;> cases c.methods.isEmpty <;>
        cases facts.implementors.contains c.name <;> simp
  unfold indexClass indexSuper
  simp only
  rw [← hfirst]
  split
  · next h => simp [h]
  · next super h => simp [h]

/-- The first look at a class marks it. -/
def seeds (launch : Launch) (facts : Facts) (c : Class) : Bool :=
  launch.suits c &&
    (!launch.isConstruction || c.isImplementor && !facts.implementors.contains c.name)

theorem marksIn_markImplementor (marks : Marks) (c : Class) (launch : Launch) :
    launch.marksIn (markImplementor marks c) =
      if launch.isConstruction && launch.suits c then (launch.marksIn marks).seed c.name
      else launch.marksIn marks := by
  unfold markImplementor
  by_cases ha : c.isAbstract = true
  · rw [if_pos ha]
    cases launch <;> simp [Launch.suits, Launch.isConstruction, ha]
  · rw [if_neg ha]
    cases launch <;> simp [Launch.marksIn, Launch.suits, Launch.isConstruction, ha]

theorem marksIn_indexClass (facts : Facts) (c : Class) (launch : Launch) :
    launch.marksIn (facts.indexClass c).marks =
      if seeds launch facts c then (launch.marksIn facts.marks).seed c.name
      else launch.marksIn facts.marks := by
  have hthread : ∀ marks : Marks,
      launch.marksIn (if c.superName = some threadName then
          { marks with thread := marks.thread.seed c.name } else marks) =
        if !launch.isConstruction && launch.suits c then (launch.marksIn marks).seed c.name
        else launch.marksIn marks := by
    intro marks
    by_cases ht : c.superName = some threadName
    · rw [if_pos ht]
      cases launch <;> simp [Launch.marksIn, Launch.suits, Launch.isConstruction, ht]
    · rw [if_neg ht]
      cases launch <;> simp [Launch.suits, Launch.isConstruction, ht]
  rw [marks_indexClass]
  simp only
  rw [hthread]
  unfold seeds
  cases hl : launch.isConstruction with
  | true =>
    cases c.isImplementor && !facts.implementors.contains c.name with
    | true => simp [marksIn_markImplementor, hl]
    | false => simp
  | false =>
    cases c.isImplementor && !facts.implementors.contains c.name with
    | true => simp [marksIn_markImplementor, hl]
    | false => simp

theorem recognizes_indexClass (facts : Facts) (c : Class) (launch : Launch) (name : String) :
    (launch.marksIn (facts.indexClass c).marks).recognizes name =
      ((launch.marksIn facts.marks).recognizes name || c.name = name && seeds launch facts c) := by
  rw [marksIn_indexClass]
  split
  · next h => rw [MarkMap.recognizes_seed, h, Bool.and_true, Bool.or_comm]
  · next h => simp [h]

/-- The marks after the first look: those from before, and the recognized classes. Classes that
implement under their name already are not looked at again. -/
theorem recognizes_index (facts : Facts) (classes : List Class) (launch : Launch) (name : String) :
    (launch.marksIn (facts.index classes).marks).recognizes name =
      ((launch.marksIn facts.marks).recognizes name ||
        launch.recognizes classes name &&
          (!launch.isConstruction || facts.implementors[name]?.isNone)) := by
  unfold index
  induction classes generalizing facts with
  | nil =>
    unfold Launch.recognizes implementor?
    simp
  | cons c classes ih =>
    rw [List.foldl_cons, ih, recognizes_indexClass, implementors_indexClass]
    unfold seeds Launch.recognizes implementor?
    cases hl : launch.isConstruction with
    | false =>
      simp only [List.any_cons]
      cases launch.suits c <;> simp [Bool.or_assoc]
    | true =>
      -- Only the first class that implements under the name can mark it.
      by_cases hn : c.name = name
      · subst hn
        rw [ExtTreeMap.contains_eq_isSome_getElem?]
        cases facts.implementors[c.name]? <;> cases hi : c.isImplementor <;>
          simp [hi]
      · simp [hn]

/-- After the first look all marks are open. -/
theorem isPending_index (classes : List Class) {facts : Facts}
    (h : ∀ (launch : Launch) name, (launch.marksIn facts.marks).isPending name =
      (launch.marksIn facts.marks).recognizes name) (launch : Launch) (name : String) :
    (launch.marksIn (facts.index classes).marks).isPending name =
      (launch.marksIn (facts.index classes).marks).recognizes name := by
  unfold index
  induction classes generalizing facts with
  | nil => exact h launch name
  | cons c classes ih =>
    refine ih ?_
    intro launch name
    rw [marksIn_indexClass]
    split
    · exact MarkMap.isPending_seed (h launch) c.name name
    · exact h launch name

theorem isPending_index_ofUsage (usage : Usage) (classes : List Class) (launch : Launch)
    (name : String) :
    (launch.marksIn ((ofUsage usage).index classes).marks).isPending name =
        launch.recognizes classes name ∧
      (launch.marksIn ((ofUsage usage).index classes).marks).recognizes name =
        launch.recognizes classes name := by
  have hempty : ∀ launch : Launch, launch.marksIn (ofUsage usage).marks = .empty := by
    intro launch
    cases launch <;> rfl
  have hrec : (launch.marksIn ((ofUsage usage).index classes).marks).recognizes name =
      launch.recognizes classes name := by
    rw [recognizes_index, hempty]
    simp [ofUsage]
  refine ⟨?_, hrec⟩
  rw [isPending_index classes _ launch name, hrec]
  intro launch name
  rw [hempty, MarkMap.recognizes_empty]
  simp [MarkMap.isPending, MarkMap.empty]

end Facts

/-! ## The edges of one call

Every edge is told apart from the others by its kind and its callee. -/

section
variable {o : Occurrence} (launch launch' : Launch) (name : String)

theorem Launch.kind_inj {launch launch' : Launch} :
    launch.kind = launch'.kind ↔ launch = launch' := by
  cases launch <;> cases launch' <;> simp [kind]

theorem Launch.isRaw_kind : launch.kind.isRaw = false := by
  cases launch <;> rfl

theorem Launch.kind_ne_of_isRaw {kind : EdgeKind} (h : kind.isRaw = true) : kind ≠ launch.kind := by
  rintro rfl
  rw [launch.isRaw_kind] at h
  simp at h

/-- Constructors are told by their name. -/
theorem signature_constructor_ne (arguments : List String) :
    signature Marks.constructorName arguments ≠ launch.executed := by
  intro h
  have hlist := congrArg String.toList h
  unfold signature Marks.constructorName at hlist
  cases launch <;> simp [Launch.executed] at hlist

theorem isLink_link (o : Occurrence) :
    launch.isLink name (launch'.link o) = (launch' = launch && o.call.owner = name) := by
  unfold Launch.isLink Launch.link Edge.inferred
  by_cases h : launch' = launch
  · subst h
    simp
  · simp [Launch.kind_inj, h]

theorem isLink_constructor (hc : o.call.name = Marks.constructorName) (kind : EdgeKind) :
    launch.isLink name (o.edge kind) = false := by
  unfold Launch.isLink Occurrence.edge Call.callee MethodKey.of
  simp [hc, signature_constructor_ne]

theorem isLink_raw (ho : o.call.kind.isRaw = true) :
    launch.isLink name (o.edge o.call.kind) = false := by
  unfold Launch.isLink Occurrence.edge
  simp [launch.kind_ne_of_isRaw ho]

theorem isSetOff_link (o : Occurrence) : launch.isSetOff name (launch'.link o) = false := by
  unfold Launch.isSetOff Launch.link Edge.inferred
  by_cases h : launch' = launch
  · subst h
    simp
  · simp [Launch.kind_inj, h]

theorem isSetOff_constructor (hc : o.call.name = Marks.constructorName) :
    launch.isSetOff name (o.edge launch'.kind) = (launch' = launch && o.call.owner = name) := by
  unfold Launch.isSetOff Occurrence.edge Call.callee MethodKey.of
  simp [hc, signature_constructor_ne, Launch.kind_inj]

theorem isSetOff_raw (ho : o.call.kind.isRaw = true) :
    launch.isSetOff name (o.edge o.call.kind) = false := by
  unfold Launch.isSetOff Occurrence.edge
  simp [launch.kind_ne_of_isRaw ho]

theorem isRawOn_link (o : Occurrence) : isRawOn name (launch.link o) = false := by
  unfold isRawOn Launch.link Edge.inferred
  simp [launch.isRaw_kind]

theorem isRawOn_edge (o : Occurrence) (kind : EdgeKind) :
    isRawOn name (o.edge kind) = (kind.isRaw && o.call.owner = name) := rfl

end

namespace Marks

variable {o : Occurrence}

theorem triggers_eq (launch : Launch) (name : String) (o : Occurrence) :
    launch.triggers name o = (o.call.owner = name && launch.triggers o.call.owner o) := by
  unfold Launch.triggers
  simp

theorem name_of_triggers {launch : Launch} {name : String} (hl : launch.isConstruction = true)
    (ht : launch.triggers name o = true) : o.call.name = constructorName := by
  unfold Launch.triggers at ht
  rw [hl] at ht
  simpa using (Bool.and_eq_true_iff.mp ht).2

/-- The edges of a call for one of the ways in which an object comes to run elsewhere. -/
def launched (marks : Marks) (launch : Launch) (o : Occurrence) : List Edge :=
  if launch.triggers o.call.owner o then
    (if launch.isConstruction && (launch.marksIn marks).recognizes o.call.owner then
      [o.edge launch.kind] else []) ++
    if (launch.marksIn marks).isPending o.call.owner then [launch.link o] else []
  else []

/-- The call makes an object of a marked class, and is not drawn as it stands. -/
def replaces (marks : Marks) (o : Occurrence) : Bool :=
  o.call.name = constructorName &&
    (marks.runnable.recognizes o.call.owner || marks.callable.recognizes o.call.owner)

/-- The edges of a constructor call are those of a call that sets off its object. -/
theorem launched_eq_construction (marks : Marks) {launch : Launch}
    (hl : launch.isConstruction = true) (hc : o.call.name = constructorName) :
    marks.launched launch o = construction (launch.marksIn marks) launch.kind launch.executed
      o.caller o.call.callee o.origin := by
  have ht : launch.triggers o.call.owner o = true := by
    unfold Launch.triggers
    simp [hl, hc]
  have howner : o.call.callee.owner = o.call.owner := rfl
  unfold launched construction
  rw [if_pos ht, hl, Bool.true_and, howner]
  split
  · rfl
  · next hr =>
    -- A mark that is not there is not open either.
    rw [if_neg fun hp => hr (MarkMap.recognizes_of_isPending hp)]
    rfl

/-- **The edges of one call:** those of each launch, then the call itself unless it is replaced. -/
theorem edgesOf_eq (marks : Marks) (o : Occurrence) :
    marks.edgesOf o =
      marks.launched .runnable o ++ marks.launched .callable o ++ marks.launched .thread o ++
        if marks.replaces o then [] else [o.edge o.call.kind] := by
  have hne : startName ≠ constructorName := by decide
  have howner : o.call.callee.owner = o.call.owner := rfl
  unfold edgesOf read interpret
  by_cases hc : o.call.name = constructorName
  · have hthread : marks.launched .thread o = [] := by
      simp [launched, Launch.triggers, Launch.isConstruction, hc, hne.symm]
    rw [if_pos hc, hthread, launched_eq_construction marks rfl hc,
      launched_eq_construction marks rfl hc, List.append_nil]
    congr 1
    simp only [replaces, hc, howner, decide_true, Bool.true_and]
    cases marks.runnable.recognizes o.call.owner <;>
      cases marks.callable.recognizes o.call.owner <;> rfl
  · have hnone : ∀ launch : Launch, launch.isConstruction = true →
        marks.launched launch o = [] := by
      intro launch hl
      simp [launched, Launch.triggers, hl, hc]
    have hkeep : marks.replaces o = false := by
      simp [replaces, hc]
    rw [if_neg hc, hnone .runnable rfl, hnone .callable rfl, hkeep]
    by_cases hs : o.call.name = startName ∧ o.call.arguments = []
    · have ht : Launch.thread.triggers o.call.owner o = true := by
        simp [Launch.triggers, Launch.isConstruction, hs]
      unfold launched
      rw [if_pos hs, if_pos ht]
      rfl
    · rw [if_neg hs]
      simp [launched, Launch.triggers, Launch.isConstruction, hs]

/-- A call leaves the mark of a class open unless it sets off an object of the class. -/
theorem isPending_read (marks : Marks) (o : Occurrence) (launch : Launch) (name : String) :
    (launch.marksIn (marks.read o).marks).isPending name =
      ((launch.marksIn marks).isPending name && !launch.triggers name o) := by
  have howner : o.call.callee.owner = o.call.owner := rfl
  have hne : constructorName ≠ startName := by decide
  unfold read interpret Launch.triggers
  rw [howner]
  split
  · next hc =>
    cases launch <;>
      simp [Launch.marksIn, Launch.isConstruction, MarkMap.isPending_settle, hc, hne]
  · next hc =>
    split
    · next hs =>
      cases launch <;>
        simp [Launch.marksIn, Launch.isConstruction, MarkMap.isPending_settle, hs, hne.symm]
    · next hs =>
      cases launch <;> simp [Launch.marksIn, Launch.isConstruction, hc, hs]

/-- A call marks no class. -/
theorem recognizes_read (marks : Marks) (o : Occurrence) (launch : Launch) (name : String) :
    (launch.marksIn (marks.read o).marks).recognizes name =
      (launch.marksIn marks).recognizes name := by
  unfold read interpret
  split
  · cases launch <;> simp [Launch.marksIn]
  · split
    · cases launch <;> simp [Launch.marksIn]
    · rfl

/-! ## Which edges of a call are which -/

theorem filter_isLink_launched (marks : Marks) (launch launch' : Launch) (name : String) :
    (marks.launched launch' o).filter (launch.isLink name) =
      if launch' = launch && ((launch.marksIn marks).isPending name && launch.triggers name o) then
        [launch.link o]
      else [] := by
  rw [triggers_eq]
  unfold launched
  split
  · next ht =>
    have hself : (if launch'.isConstruction && (launch'.marksIn marks).recognizes o.call.owner then
        [o.edge launch'.kind] else []).filter (launch.isLink name) = [] := by
      split
      · next hr =>
        have hc := name_of_triggers (Bool.and_eq_true_iff.mp hr).1 ht
        simp [isLink_constructor launch name hc]
      · rfl
    rw [List.filter_append, hself, List.nil_append]
    by_cases hl : launch' = launch
    · subst hl
      by_cases hn : o.call.owner = name
      · subst hn
        cases (launch'.marksIn marks).isPending o.call.owner <;> simp [isLink_link, ht]
      · split <;> simp [isLink_link, hn]
    · split <;> simp [isLink_link, hl]
  · next ht =>
    by_cases hl : launch' = launch
    · subst hl
      simp [ht]
    · simp [hl]

/-- A call draws the link of an open mark if it sets off an object of the class. -/
theorem filter_isLink_edgesOf (marks : Marks) (ho : o.call.kind.isRaw = true) (launch : Launch)
    (name : String) :
    (marks.edgesOf o).filter (launch.isLink name) =
      if (launch.marksIn marks).isPending name && launch.triggers name o then [launch.link o]
      else [] := by
  have hraw : (if marks.replaces o then [] else [o.edge o.call.kind]).filter
      (launch.isLink name) = [] := by
    split <;> simp [isLink_raw launch name ho]
  rw [edgesOf_eq]
  simp only [List.filter_append, hraw, filter_isLink_launched]
  cases launch <;> simp

theorem filter_isSetOff_launched (marks : Marks) (launch launch' : Launch) (name : String) :
    (marks.launched launch' o).filter (launch.isSetOff name) =
      if launch' = launch && ((launch.marksIn marks).recognizes name && launch.isConstruction &&
          launch.triggers name o) then
        [o.edge launch.kind]
      else [] := by
  rw [triggers_eq]
  unfold launched
  split
  · next ht =>
    have hlink : (if (launch'.marksIn marks).isPending o.call.owner then [launch'.link o]
        else []).filter (launch.isSetOff name) = [] := by
      split <;> simp [isSetOff_link]
    rw [List.filter_append, hlink, List.append_nil]
    cases hk : launch'.isConstruction with
    | false =>
      by_cases hl : launch' = launch
      · subst hl
        simp [hk]
      · simp [hl]
    | true =>
      have hset := isSetOff_constructor launch launch' name (name_of_triggers hk ht)
      by_cases hl : launch' = launch
      · subst hl
        by_cases hn : o.call.owner = name
        · subst hn
          cases (launch'.marksIn marks).recognizes o.call.owner <;> simp [hset, hk, ht]
        · split <;> simp [hset, hn]
      · split <;> simp [hset, hl]
  · next ht =>
    by_cases hl : launch' = launch
    · subst hl
      simp [ht]
    · simp [hl]

/-- A call that makes an object of a marked class is drawn under the kind of the mark. -/
theorem filter_isSetOff_edgesOf (marks : Marks) (ho : o.call.kind.isRaw = true) (launch : Launch)
    (name : String) :
    (marks.edgesOf o).filter (launch.isSetOff name) =
      if (launch.marksIn marks).recognizes name && launch.isConstruction &&
          launch.triggers name o then
        [o.edge launch.kind]
      else [] := by
  have hraw : (if marks.replaces o then [] else [o.edge o.call.kind]).filter
      (launch.isSetOff name) = [] := by
    split <;> simp [isSetOff_raw launch name ho]
  rw [edgesOf_eq]
  simp only [List.filter_append, hraw, filter_isSetOff_launched]
  cases launch <;> simp

theorem filter_isRawOn_launched (marks : Marks) (launch : Launch) (name : String) :
    (marks.launched launch o).filter (isRawOn name) = [] := by
  rw [List.filter_eq_nil_iff]
  intro e he
  unfold launched at he
  split at he
  · rcases List.mem_append.mp he with he | he
    · split at he
      · rw [List.mem_singleton.mp he, isRawOn_edge, launch.isRaw_kind]
        simp
      · simp at he
    · split at he
      · rw [List.mem_singleton.mp he, isRawOn_link]
        simp
      · simp at he
  · simp at he

/-- A call is drawn as it stands unless it makes an object of a marked class. -/
theorem filter_isRawOn_edgesOf (marks : Marks) (ho : o.call.kind.isRaw = true) (name : String) :
    (marks.edgesOf o).filter (isRawOn name) =
      if o.call.owner = name && !marks.replaces o then [o.edge o.call.kind] else [] := by
  rw [edgesOf_eq]
  simp only [List.filter_append, filter_isRawOn_launched, List.nil_append]
  cases marks.replaces o <;> by_cases hn : o.call.owner = name <;> simp [isRawOn_edge, ho, hn]

/-! ## Calls one after the other -/

/-- **Along any calls, the link of an open mark is drawn for the first call that sets off an object of
the class,** and no link is drawn for a mark that is not open. -/
theorem filter_isLink_draw (marks : Marks) {os : List Occurrence}
    (ho : ∀ o ∈ os, o.call.kind.isRaw = true) (launch : Launch) (name : String) :
    (marks.draw os).filter (launch.isLink name) =
      if (launch.marksIn marks).isPending name then
        ((os.find? (launch.triggers name)).map launch.link).toList
      else [] := by
  induction os generalizing marks with
  | nil => simp [draw]
  | cons o os ih =>
    have hos : ∀ o ∈ os, o.call.kind.isRaw = true := fun o h => ho o (List.mem_cons_of_mem _ h)
    rw [draw, List.filter_append, filter_isLink_edgesOf marks (ho o List.mem_cons_self), ih _ hos,
      isPending_read, List.find?_cons]
    -- Once a call sets the object off, the mark is settled for the rest.
    cases (launch.marksIn marks).isPending name <;> cases launch.triggers name o <;> simp

/-- Where it depends on the marked classes alone whether a call draws an edge, calls draw it one by
one. -/
theorem filter_draw {p : Edge → Bool} {q : Marks → Occurrence → Bool} {g : Occurrence → Edge}
    (hq : ∀ marks o o', q (read marks o).marks o' = q marks o') (marks : Marks)
    {os : List Occurrence}
    (h : ∀ marks, ∀ o ∈ os, (edgesOf marks o).filter p = if q marks o then [g o] else []) :
    (marks.draw os).filter p = (os.filter (q marks)).map g := by
  induction os generalizing marks with
  | nil => rfl
  | cons o os ih =>
    have hsame : q (marks.read o).marks = q marks := funext (hq marks o)
    rw [draw, List.filter_append, h marks o List.mem_cons_self,
      ih _ fun marks o ho => h marks o (List.mem_cons_of_mem _ ho), hsame, List.filter_cons]
    split <;> rfl

theorem filter_isSetOff_draw (marks : Marks) {os : List Occurrence}
    (ho : ∀ o ∈ os, o.call.kind.isRaw = true) (launch : Launch) (name : String) :
    (marks.draw os).filter (launch.isSetOff name) =
      (os.filter fun o => (launch.marksIn marks).recognizes name && launch.isConstruction &&
        launch.triggers name o).map (·.edge launch.kind) := by
  refine filter_draw (q := fun marks o => (launch.marksIn marks).recognizes name &&
    launch.isConstruction && launch.triggers name o) ?_ marks ?_
  · intro marks o o'
    rw [recognizes_read]
  · intro marks o hm
    exact filter_isSetOff_edgesOf marks (ho o hm) launch name

theorem filter_isRawOn_draw (marks : Marks) {os : List Occurrence}
    (ho : ∀ o ∈ os, o.call.kind.isRaw = true) (name : String) :
    (marks.draw os).filter (isRawOn name) =
      (os.filter fun o => o.call.owner = name && !marks.replaces o).map
        fun o => o.edge o.call.kind := by
  refine filter_draw (q := fun marks o => o.call.owner = name && !marks.replaces o) ?_ marks ?_
  · intro marks o o'
    have hrun := recognizes_read marks o .runnable o'.call.owner
    have hcall := recognizes_read marks o .callable o'.call.owner
    simp only [Launch.marksIn] at hrun hcall
    simp only [replaces, hrun, hcall]
  · intro marks o hm
    exact filter_isRawOn_edgesOf marks (ho o hm) name

end Marks

/-! ## The classes of an archive -/

namespace Engine

/-- Edges other than those to lambda bodies are drawn by the marks that the first look leaves. -/
theorem filter_extractedEdges (engine : Engine) (index : Nat) (classes : List Class)
    {p : Edge → Bool} (hp : ∀ e, p e = true → e.kind ≠ .lambda) :
    (engine.processClasses index classes).extractedEdges.filter p =
      (((Facts.ofUsage engine.initialUsage).index classes).marks.draw
        (occurrences index classes)).filter p := by
  rw [extractedEdges_processClasses, ← Facts.extract_draws]
  unfold Facts.exceptLambda
  rw [List.filter_filter]
  refine List.filter_congr ?_
  intro e _
  cases he : p e with
  | false => simp
  | true => simp [hp e he]

/-- **Each link to what runs elsewhere is drawn once.** The calls of the archive are those at the call
instructions of its methods with code, in order, each followed by the one of the method that it is
handed. If objects of the class are recognized and some call of the archive sets one off, there is one
link, from the first such call; otherwise there is none. Every call that makes an object of a
recognized class is drawn under the kind of the launch, and all other calls on the class, those that
start a thread among them, are drawn as they stand. -/
theorem extractedEdges_links (engine : Engine) (index : Nat) (classes : List Class)
    (launch : Launch) (name : String) :
    let edges := (engine.processClasses index classes).extractedEdges
    let calls := occurrences index classes
    InBlocks (IsClassCalls index) classes calls ∧
    edges.countP (launch.isLink name) =
      (if launch.recognizes classes name && calls.any (launch.triggers name) then 1 else 0) ∧
    (∀ e ∈ edges, launch.isLink name e = true →
      (calls.find? (launch.triggers name)).map launch.link = some e) ∧
    edges.filter (launch.isSetOff name) =
      (if launch.recognizes classes name && launch.isConstruction then
        (calls.filter (launch.triggers name)).map (·.edge launch.kind)
      else []) ∧
    edges.filter (isRawOn name) =
      (calls.filter fun o => o.call.owner = name &&
        !(o.call.name = Marks.constructorName &&
          (Launch.runnable.recognizes classes name ||
            Launch.callable.recognizes classes name))).map fun o => o.edge o.call.kind := by
  intro edges calls
  have hraw : ∀ o ∈ calls, o.call.kind.isRaw = true := fun o h => isRaw_of_mem_occurrences h
  have hmarks := fun l => Facts.isPending_index_ofUsage engine.initialUsage classes l name
  have hlaunch : launch.kind ≠ .lambda := by cases launch <;> decide
  have hlinks : edges.filter (launch.isLink name) =
      if launch.recognizes classes name then
        ((calls.find? (launch.triggers name)).map launch.link).toList
      else [] := by
    rw [filter_extractedEdges, Marks.filter_isLink_draw _ hraw, (hmarks launch).1]
    intro e he
    rw [(of_decide_eq_true he).1]
    exact hlaunch
  refine ⟨occurrences_inBlocks index classes, ?_, ?_, ?_, ?_⟩
  · rw [List.countP_eq_length_filter, hlinks, ← List.isSome_find?]
    cases launch.recognizes classes name <;>
      cases calls.find? (launch.triggers name) <;> simp
  · intro e he hl
    have hmem : e ∈ edges.filter (launch.isLink name) := List.mem_filter.mpr ⟨he, hl⟩
    rw [hlinks] at hmem
    split at hmem
    · exact Option.mem_toList.mp hmem
    · simp at hmem
  · rw [filter_extractedEdges, Marks.filter_isSetOff_draw _ hraw, (hmarks launch).2]
    · cases launch.recognizes classes name && launch.isConstruction <;> simp
    · intro e he
      rw [(of_decide_eq_true he).1]
      exact hlaunch
  · rw [filter_extractedEdges, Marks.filter_isRawOn_draw _ hraw]
    · refine congrArg _ (List.filter_congr fun o _ => ?_)
      have hrun := (hmarks .runnable).2
      have hcall := (hmarks .callable).2
      simp only [Launch.marksIn] at hrun hcall
      by_cases hn : o.call.owner = name
      · simp only [Marks.replaces, hn, hrun, hcall]
      · simp [hn]
    · intro e he hk
      simp [isRawOn, hk, EdgeKind.isRaw] at he

/-- A task that is made twice and a worker that is started twice. -/
def errands : List Class :=
  let call (offset : Nat) (owner name : String) (kind : CallKind) : Instruction :=
    ⟨offset, .invoke ⟨owner, name, [], kind, offset, none⟩⟩
  let run : Method := ⟨"run", [], { isPublic := true }, [], [], []⟩
  let main : Method := ⟨"main", [], { isPublic := true, isStatic := true }, [], [],
    [call 0 "Task" "<init>" .special, call 3 "Worker" "start" .virtual,
     call 6 "Task" "<init>" .special, call 9 "Worker" "start" .virtual]⟩
  [⟨"Main", some "java.lang.Object", [], false, false, [], [main], []⟩,
   ⟨"Task", some "java.lang.Object", ["java.lang.Runnable"], false, false, [], [run], []⟩,
   ⟨"Worker", some "java.lang.Thread", [], false, false, [], [run], []⟩]

example :
    ((start {}).processClasses 1 errands).extractedEdges =
      [.inferred ⟨"Main", "main()"⟩ .runnable ⟨"Task", "<init>()"⟩,
       .inferred ⟨"Task", "<init>()"⟩ .runnable ⟨"Task", "run()"⟩,
       .inferred ⟨"Worker", "start()"⟩ .threadStart ⟨"Worker", "run()"⟩,
       .inferred ⟨"Main", "main()"⟩ .virtual ⟨"Worker", "start()"⟩,
       .inferred ⟨"Main", "main()"⟩ .runnable ⟨"Task", "<init>()"⟩,
       .inferred ⟨"Main", "main()"⟩ .virtual ⟨"Worker", "start()"⟩] := by
  decide +kernel

end Engine

end CallGraph
