import CallGraph.Proofs.ClassOrder
import CallGraph.Proofs.CodeBlocks

/-!
# Edges that are drawn every time

When the code of a class is read a second time, all that it tells is known, and nothing is learned. The
same edges are drawn again, except for those that stand for something that happens once: the links to
what runs elsewhere.

* `Edge.isOnce`, `recurring` — the edges that are drawn the first time only, and the others
* `Facts.HasTaken` — all that the code of a class tells is known
* `extract_again` — the code of classes again
-/

namespace CallGraph

open Std (ExtTreeMap ExtTreeSet)

/-- The key of a constructor. -/
def MethodKey.isConstructor (key : MethodKey) : Bool :=
  (Marks.constructorName ++ "(").toList.isPrefixOf key.signature.toList

/-- The edge stands for something that happens once. -/
def Edge.isOnce (e : Edge) : Bool :=
  match e.kind with
  | .childToSuper | .threadStart => true
  | .runnable | .callable => !e.callee.isConstructor
  | _ => false

/-- The edges that are drawn every time. -/
def recurring (edges : List Edge) : List Edge := edges.filter (!·.isOnce)

theorem recurring_append (edges more : List Edge) :
    recurring (edges ++ more) = recurring edges ++ recurring more := List.filter_append edges more

/-! ## Tables that know a key -/

theorem insertIfNew_of_mem {β : Type} {table : ExtTreeMap String β} {key : String}
    (h : key ∈ table) (value : β) : table.insertIfNew key value = table := by
  refine ExtTreeMap.ext_getElem? fun other => ?_
  rw [ExtTreeMap.getElem?_insertIfNew, if_neg fun hc => hc.2 h]

theorem insert_of_mem {names : ExtTreeSet String} {name : String} (h : name ∈ names) :
    names.insert name = names := by
  refine ExtTreeSet.ext_mem fun other => ?_
  rw [ExtTreeSet.mem_insert]
  refine or_iff_right_of_imp fun he => ?_
  rw [← Std.LawfulEqCmp.eq_of_compare he]
  exact h

theorem Usage.record_of_contains {usage : Usage} {owner s : String}
    (h : usage.contains owner s = true) : usage.record owner s = usage := by
  refine congrArg Usage.mk (ExtTreeMap.ext_getElem? fun name => ?_)
  rw [ExtTreeMap.getElem?_alter]
  split
  · next he =>
    obtain rfl := Std.LawfulEqCmp.eq_of_compare he
    unfold contains signatures? at h
    cases hs : usage.byClass[owner]? with
    | none =>
      rw [hs] at h
      simp at h
    | some called =>
      rw [hs] at h
      have hm : s ∈ called := ExtTreeSet.contains_iff_mem.mp (by simpa using h)
      rw [Option.getD_some, insert_of_mem hm]
  · rfl

theorem MarkMap.seed_of_recognizes {marks : MarkMap} {name : String}
    (h : marks.recognizes name = true) : marks.seed name = marks :=
  congrArg MarkMap.mk (insertIfNew_of_mem (ExtTreeMap.contains_iff_mem.mp h) _)

/-! ## The same calls again -/

namespace Marks

variable {marks marks' : Marks} {o : Occurrence}

/-- No mark is left that the call would settle. -/
def IsSettledFor (marks : Marks) (o : Occurrence) : Prop :=
  ∀ launch : Launch, launch.triggers o.call.owner o = true →
    (launch.marksIn marks).isPending o.call.owner = false

theorem read_of_isSettledFor (h : marks.IsSettledFor o) : (marks.read o).marks = marks := by
  refine eq_of_marksIn fun launch => MarkMap.eq_of_recognizes (recognizes_read marks o launch) ?_
  intro name
  rw [isPending_read]
  cases ht : launch.triggers name o with
  | false => simp
  | true =>
    rw [triggers_eq, Bool.and_eq_true, decide_eq_true_eq] at ht
    obtain ⟨rfl, ht⟩ := ht
    rw [h launch ht, Bool.false_and]

/-- Calls settle the marks that they trigger. -/
theorem isPending_after (marks : Marks) (os : List Occurrence) (launch : Launch) (name : String) :
    (launch.marksIn (marks.after os)).isPending name =
      ((launch.marksIn marks).isPending name && !os.any (launch.triggers name)) := by
  induction os generalizing marks with
  | nil => simp [after]
  | cons o os ih =>
    show (launch.marksIn ((marks.read o).marks.after os)).isPending name = _
    rw [ih, isPending_read, List.any_cons, Bool.not_or, Bool.and_assoc]

theorem isSettledFor_after (marks : Marks) {os : List Occurrence} (ho : o ∈ os) :
    (marks.after os).IsSettledFor o := by
  intro launch ht
  have hany : os.any (launch.triggers o.call.owner) = true := List.any_eq_true.mpr ⟨o, ho, ht⟩
  rw [isPending_after, hany]
  simp

end Marks

/-! ## Which edges happen once -/

/-- A constructor is told by its key. -/
theorem isConstructor_of (owner : String) (arguments : List String) :
    (MethodKey.of owner Marks.constructorName arguments).isConstructor = true := by
  unfold MethodKey.isConstructor MethodKey.of signature
  rw [List.isPrefixOf_iff_prefix]
  simp only [String.toList_append, List.append_assoc]
  exact (List.prefix_append_right_inj _).mpr (List.prefix_append _ _)

theorem isOnce_link (launch : Launch) (o : Occurrence) : (launch.link o).isOnce = true := by
  have hexecuted : (Marks.constructorName ++ "(").toList.isPrefixOf launch.executed.toList = false := by
    cases launch <;> decide
  have hkey : (launch.link o).callee.isConstructor = false := hexecuted
  unfold Edge.isOnce
  rw [hkey]
  cases launch <;> rfl

/-- A call that makes an object is drawn every time. -/
theorem isOnce_constructor {o : Occurrence} {launch : Launch} (hl : launch.isConstruction = true)
    (hc : o.call.name = Marks.constructorName) : (o.edge launch.kind).isOnce = false := by
  have hkey : o.call.callee.isConstructor = true := by
    unfold Call.callee
    rw [hc]
    exact isConstructor_of o.call.owner o.call.arguments
  cases launch with
  | runnable => simp [Edge.isOnce, Occurrence.edge, Launch.kind, hkey]
  | callable => simp [Edge.isOnce, Occurrence.edge, Launch.kind, hkey]
  | thread => simp [Launch.isConstruction] at hl

/-- So is a call as it stands. -/
theorem isOnce_of_isRaw {e : Edge} (h : e.kind.isRaw = true) : e.isOnce = false := by
  unfold Edge.isOnce
  cases hk : e.kind <;> simp [hk, EdgeKind.isRaw] at h ⊢

namespace Marks

variable {marks marks' : Marks} {o : Occurrence}

/-- Under marks that are settled a call draws again what is drawn every time. -/
theorem launched_again (hs : SameClasses marks marks') (h : marks'.IsSettledFor o) (launch : Launch) :
    marks'.launched launch o = recurring (marks.launched launch o) := by
  unfold launched
  split
  · next ht =>
    have hlink : recurring (if (launch.marksIn marks).isPending o.call.owner then [launch.link o]
        else []) = [] := by
      split <;> simp [recurring, isOnce_link]
    rw [recurring_append, hlink, h launch ht, hs launch]
    simp only [Bool.false_eq_true, if_false, List.append_nil]
    split
    · next hr =>
      have hl : launch.isConstruction = true := (Bool.and_eq_true_iff.mp hr).1
      simp [recurring, isOnce_constructor hl (name_of_triggers hl ht)]
    · rfl
  · rfl

theorem edgesOf_again (hs : SameClasses marks marks') (h : marks'.IsSettledFor o)
    (ho : o.call.kind.isRaw = true) : marks'.edgesOf o = recurring (marks.edgesOf o) := by
  have hself : recurring (if marks.replaces o then [] else [o.edge o.call.kind]) =
      if marks'.replaces o then [] else [o.edge o.call.kind] := by
    have honce : (o.edge o.call.kind).isOnce = false := isOnce_of_isRaw ho
    rw [hs.replaces]
    split
    · rfl
    · simp [recurring, honce]
  simp only [edgesOf_eq, recurring_append, hself, launched_again hs h]

end Marks

/-! ## The same code again -/

namespace Facts

/-- All that the code of a class tells is known. -/
structure HasTaken (facts : Facts) (archive : Nat) (c : Class) : Prop where
  registered : facts.register c = facts
  recorded : ∀ o ∈ c.occurrences archive,
    facts.usage.contains o.call.owner o.call.callee.signature = true
  settled : ∀ o ∈ c.occurrences archive, facts.marks.IsSettledFor o
  noted : ∀ m ∈ c.methods, m.annotations ≠ [] → (c.key m).text ∈ facts.annotations

variable {first facts : Facts} {archive : Nat}

theorem noteAnnotations_again {key : MethodKey} {m : Method}
    (h : m.annotations ≠ [] → key.text ∈ facts.annotations) : facts.noteAnnotations key m = facts := by
  unfold noteAnnotations
  split
  · rfl
  · next he => rw [insertIfNew_of_mem (h (by simpa using he))]

theorem takeCalls_again (hs : first.marks.SameClasses facts.marks) {caller : MethodKey} {m : Method}
    {calls : List Call} (hraw : ∀ call ∈ calls, call.kind.isRaw = true)
    (hrecorded : ∀ call ∈ calls, facts.usage.contains call.owner call.callee.signature = true)
    (hsettled : ∀ call ∈ calls, facts.marks.IsSettledFor (.ofCall caller m archive call)) :
    facts.takeCalls caller m archive calls =
      (facts, recurring (first.takeCalls caller m archive calls).2) := by
  induction calls generalizing first with
  | nil => rfl
  | cons call calls ih =>
    have hcall := List.mem_cons_self (a := call) (l := calls)
    have hmarks : (facts.marks.read (.ofCall caller m archive call)).marks = facts.marks :=
      Marks.read_of_isSettledFor (hsettled call hcall)
    have htake : facts.takeCall caller m archive call =
        (facts, facts.marks.edgesOf (.ofCall caller m archive call)) := by
      refine Prod.ext ?_ rfl
      show { facts with
        usage := facts.usage.record call.owner call.callee.signature
        marks := (facts.marks.read (.ofCall caller m archive call)).marks } = facts
      rw [Usage.record_of_contains (hrecorded call hcall), hmarks]
    -- Of the marks that the first run goes on with, only the marked classes are known here.
    have hmarks' : (first.takeCall caller m archive call).1.marks.SameClasses facts.marks :=
      hs.read (.ofCall caller m archive call)
    have hrest := ih hmarks' (fun c hc => hraw c (List.mem_cons_of_mem _ hc))
      (fun c hc => hrecorded c (List.mem_cons_of_mem _ hc))
      (fun c hc => hsettled c (List.mem_cons_of_mem _ hc))
    simp only [takeCalls, htake, hrest, recurring_append]
    rw [Marks.edgesOf_again hs (hsettled call hcall) (hraw call hcall)]
    rfl

theorem recurring_lambdaEdges (c : Class) (m : Method) :
    recurring (c.lambdaEdges m) = c.lambdaEdges m := by
  refine List.filter_eq_self.mpr fun e he => ?_
  obtain ⟨name, -, hb⟩ := List.mem_filterMap.mp he
  obtain ⟨body, -, rfl⟩ := Option.map_eq_some_iff.mp hb
  rfl

/-- **The methods of a class again:** nothing is learned, and the same edges are drawn but for those that
happen once. -/
theorem visitMethods_again (hs : first.marks.SameClasses facts.marks) {c : Class}
    (h : facts.HasTaken archive c) {methods : List Method} (hm : ∀ m ∈ methods, m ∈ c.methods) :
    facts.visitMethods c archive methods =
      (facts, recurring (first.visitMethods c archive methods).2) := by
  induction methods generalizing first with
  | nil => rfl
  | cons m methods ih =>
    have hmem := hm m List.mem_cons_self
    have hnote : facts.noteAnnotations (c.key m) m = facts := noteAnnotations_again (h.noted m hmem)
    have hoccurs : ∀ call ∈ c.calls m, .ofCall (c.key m) m archive call ∈ c.occurrences archive :=
      fun call hc => List.mem_flatMap.mpr ⟨m, hmem, List.mem_map_of_mem hc⟩
    have hfirst : (first.noteAnnotations (c.key m) m).marks.SameClasses facts.marks := by
      rw [marks_noteAnnotations]
      exact hs
    have hcalls : facts.takeCalls (c.key m) m archive (c.calls m) = (facts, recurring
        ((first.noteAnnotations (c.key m) m).takeCalls (c.key m) m archive (c.calls m)).2) := by
      refine takeCalls_again hfirst (fun call hc => isRaw_of_mem_calls hc) ?_ ?_
      · intro call hc
        exact h.recorded (.ofCall (c.key m) m archive call) (hoccurs call hc)
      · intro call hc
        exact h.settled (.ofCall (c.key m) m archive call) (hoccurs call hc)
    have hmarks : (first.visitMethod c archive m).1.marks.SameClasses facts.marks := by
      rw [(visitMethod_draws first c archive m).1]
      exact hs.after _
    have hrest := ih hmarks fun m' hm' => hm m' (List.mem_cons_of_mem _ hm')
    have hvisit : facts.visitMethod c archive m =
        (facts, recurring (first.visitMethod c archive m).2) := by
      simp only [visitMethod, hnote, hcalls, recurring_append, recurring_lambdaEdges]
    simp only [visitMethods, hvisit, hrest, recurring_append]

/-- **The code of all classes again.** -/
theorem extract_again (hs : first.marks.SameClasses facts.marks) {classes : List Class}
    (h : ∀ c ∈ classes, facts.HasTaken archive c) :
    (facts.extract archive classes).1 = facts ∧
      (facts.extract archive classes).2.flatMap Prod.snd =
        recurring ((first.extract archive classes).2.flatMap Prod.snd) := by
  induction classes generalizing first with
  | nil => exact ⟨rfl, rfl⟩
  | cons c classes ih =>
    have hc := h c List.mem_cons_self
    have hfirst : (first.register c).marks.SameClasses facts.marks := by
      rw [marks_register]
      exact hs
    have hvisit : facts.visit c archive = (facts, recurring ((first.register c).visit c archive).2) :=
      visitMethods_again hfirst hc fun m hm => hm
    have hmarks : ((first.register c).visit c archive).1.marks.SameClasses facts.marks := by
      unfold visit
      rw [(visitMethods_draws (first.register c) c archive c.methods).1]
      exact hfirst.after _
    obtain ⟨hfacts, hedges⟩ := ih hmarks fun c' hc' => h c' (List.mem_cons_of_mem _ hc')
    simp only [extract, hc.registered, hvisit, List.flatMap_cons, recurring_append]
    exact ⟨hfacts, congrArg _ hedges⟩

end Facts

end CallGraph
