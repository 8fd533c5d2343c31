import CallGraph.Proofs.ExecutionLinks

/-!
# What each instruction draws

The edges from the code of a class come in blocks: method by method, within a method one block for each
call instruction, and after these the edges to lambda bodies. A block holds what the call at its place
draws and then, if the call is handed a method reference, what the referenced method draws.

* `Marks.Renders` — what a call draws: itself, maybe under other kinds, and links that start behind it
* `visit_inBlocks` — the edges of a class, block by block
-/

namespace CallGraph

/-! ## The edges of a call -/

/-- The edge leads from the place of the call to the called method. -/
def Occurrence.isDirect (o : Occurrence) (e : Edge) : Bool :=
  decide (e.caller = o.caller ∧ e.callee = o.call.callee)

namespace Marks

variable {o : Occurrence}

/-- The edges from the place of a call to the called method: the call as it stands, or if it makes an
object of a marked class, one for each kind of mark. -/
def directEdges (marks : Marks) (o : Occurrence) : List Edge :=
  if marks.replaces o then
    (if marks.runnable.recognizes o.call.owner then [o.edge .runnable] else []) ++
      if marks.callable.recognizes o.call.owner then [o.edge .callable] else []
  else [o.edge o.call.kind]

/-- The edges are those of a call under the marks. -/
structure Renders (marks : Marks) (o : Occurrence) (edges : List Edge) : Prop where
  direct : edges.filter o.isDirect = marks.directEdges o
  /-- All other edges start at the called method itself. -/
  link : ∀ e ∈ edges, o.isDirect e = false → ∃ launch : Launch, e = launch.link o
  once : ∀ launch : Launch, edges.count (launch.link o) ≤ 1

theorem isDirect_edge (o : Occurrence) (kind : EdgeKind) : o.isDirect (o.edge kind) = true := by
  unfold Occurrence.isDirect Occurrence.edge
  simp

/-- What runs in the end is not what was called. -/
theorem isDirect_link {launch : Launch} (ht : launch.triggers o.call.owner o = true) :
    o.isDirect (launch.link o) = false := by
  have hne : o.call.callee.signature ≠ launch.executed := by
    unfold Launch.triggers at ht
    have hname := (Bool.and_eq_true_iff.mp ht).2
    unfold Call.callee MethodKey.of
    cases hl : launch.isConstruction with
    | true =>
      rw [hl] at hname
      rw [of_decide_eq_true hname]
      exact signature_constructor_ne launch o.call.arguments
    | false =>
      rw [hl] at hname
      obtain ⟨hs, ha⟩ := of_decide_eq_true hname
      have hstart : signature startName [] ≠ launch.executed := by
        cases launch <;> decide
      rw [hs, ha]
      exact hstart
  refine decide_eq_false ?_
  rintro ⟨-, hcallee⟩
  exact hne (congrArg MethodKey.signature hcallee).symm

theorem filter_isDirect_launched (marks : Marks) (launch : Launch) (o : Occurrence) :
    (marks.launched launch o).filter o.isDirect =
      if launch.triggers o.call.owner o &&
          (launch.isConstruction && (launch.marksIn marks).recognizes o.call.owner) then
        [o.edge launch.kind]
      else [] := by
  unfold launched
  cases ht : launch.triggers o.call.owner o with
  | false => rfl
  | true =>
    have hlink : (if (launch.marksIn marks).isPending o.call.owner then [launch.link o]
        else []).filter o.isDirect = [] := by
      split <;> simp [isDirect_link ht]
    rw [if_pos rfl, List.filter_append, hlink, List.append_nil, Bool.true_and]
    split <;> simp [isDirect_edge]

theorem mem_launched {marks : Marks} {launch : Launch} {e : Edge} (h : e ∈ marks.launched launch o) :
    o.isDirect e = true ∨ e = launch.link o := by
  unfold launched at h
  split at h
  · rcases List.mem_append.mp h with h | h
    · split at h
      · rw [List.mem_singleton.mp h]
        exact Or.inl (isDirect_edge o launch.kind)
      · simp at h
    · split at h
      · exact Or.inr (List.mem_singleton.mp h)
      · simp at h
  · simp at h

theorem filter_isDirect_edgesOf (marks : Marks) (o : Occurrence) :
    (marks.edgesOf o).filter o.isDirect = marks.directEdges o := by
  have hself : (if marks.replaces o then [] else [o.edge o.call.kind]).filter o.isDirect =
      if marks.replaces o then [] else [o.edge o.call.kind] := by
    split <;> simp [isDirect_edge]
  rw [edgesOf_eq]
  simp only [List.filter_append, filter_isDirect_launched, hself]
  unfold directEdges replaces
  by_cases hc : o.call.name = constructorName
  · simp only [Launch.triggers, Launch.isConstruction, Launch.marksIn, Launch.kind, hc]
    cases marks.runnable.recognizes o.call.owner <;>
      cases marks.callable.recognizes o.call.owner <;> simp
  · simp [Launch.triggers, Launch.isConstruction, hc]

/-- **What a call draws:** itself in one form or another, and links. -/
theorem renders_edgesOf (marks : Marks) (ho : o.call.kind.isRaw = true) :
    marks.Renders o (marks.edgesOf o) where
  direct := filter_isDirect_edgesOf marks o
  link := by
    intro e he hd
    have hlaunched : ∀ launch, e ∈ marks.launched launch o → ∃ launch : Launch, e = launch.link o := by
      intro launch hm
      rcases mem_launched hm with hdirect | hlink
      · rw [hd] at hdirect
        simp at hdirect
      · exact ⟨launch, hlink⟩
    rw [edgesOf_eq] at he
    simp only [List.mem_append] at he
    rcases he with ((he | he) | he) | he
    · exact hlaunched _ he
    · exact hlaunched _ he
    · exact hlaunched _ he
    · split at he
      · simp at he
      · rw [List.mem_singleton.mp he, isDirect_edge] at hd
        simp at hd
  once := by
    intro launch
    have hlink : launch.isLink o.call.owner (launch.link o) = true := by
      rw [isLink_link]
      simp
    rw [← List.count_filter hlink, filter_isLink_edgesOf marks ho]
    split <;> simp

/-! ## The same classes are marked throughout -/

/-- The same classes are marked, whatever has become of their marks. -/
def SameClasses (marks marks' : Marks) : Prop :=
  ∀ (launch : Launch) (name : String),
    (launch.marksIn marks).recognizes name = (launch.marksIn marks').recognizes name

variable {marks marks' : Marks}

theorem SameClasses.symm (h : SameClasses marks marks') : SameClasses marks' marks :=
  fun launch name => (h launch name).symm

theorem SameClasses.read (h : SameClasses marks marks') (o : Occurrence) :
    SameClasses (marks.read o).marks marks' := by
  intro launch name
  rw [recognizes_read, h launch name]

theorem SameClasses.after (h : SameClasses marks marks') (os : List Occurrence) :
    SameClasses (marks.after os) marks' := by
  induction os generalizing marks with
  | nil => exact h
  | cons o os ih => exact ih (h.read o)

theorem SameClasses.replaces (h : SameClasses marks marks') (o : Occurrence) :
    marks.replaces o = marks'.replaces o := by
  have hrun := h .runnable o.call.owner
  have hcall := h .callable o.call.owner
  simp only [Launch.marksIn] at hrun hcall
  unfold Marks.replaces
  rw [hrun, hcall]

theorem SameClasses.directEdges (h : SameClasses marks marks') (o : Occurrence) :
    marks.directEdges o = marks'.directEdges o := by
  have hrun := h .runnable o.call.owner
  have hcall := h .callable o.call.owner
  simp only [Launch.marksIn] at hrun hcall
  unfold Marks.directEdges
  rw [h.replaces, hrun, hcall]

theorem SameClasses.renders_edgesOf (h : SameClasses marks marks') (ho : o.call.kind.isRaw = true) :
    marks'.Renders o (marks.edgesOf o) where
  direct := (filter_isDirect_edgesOf marks o).trans (h.directEdges o)
  link := (Marks.renders_edgesOf marks ho).link
  once := (Marks.renders_edgesOf marks ho).once

end Marks

/-! ## Blocks -/

/-- The edges of a call in the code of a method: what the call draws, and then what the method draws
that it is handed. -/
def IsBlock (marks : Marks) (c : Class) (m : Method) (archive : Nat) :
    Option Instruction × CallSite → List Edge → Prop
  | (previous, site), edges => ∃ literal handed, edges = literal ++ handed ∧
    marks.Renders (.ofCall (c.key m) m archive (.ofSite site)) literal ∧
    ((∃ handle, c.HandedTo previous site handle ∧
        marks.Renders (.ofCall (c.key m) m archive (.ofHandle handle site.offset)) handed) ∨
      (¬ ∃ handle, c.HandedTo previous site handle) ∧ handed = [])

/-- The edges of a method with code: a block for each call, and then the edges to lambda bodies. -/
def IsMethodBlock (marks : Marks) (c : Class) (archive : Nat) (m : Method) (edges : List Edge) :
    Prop :=
  ∃ calls, edges = calls ++ c.lambdaEdges m ∧
    InBlocks (IsBlock marks c m archive) m.invocations calls

namespace Marks

variable {marks marks' : Marks}

/-- The calls of a call instruction draw a block. -/
theorem SameClasses.isBlock (h : SameClasses marks marks') {c : Class} (m : Method) (archive : Nat)
    {entry : Option Instruction × CallSite} {calls : List Call} (hcalls : c.IsCallBlock entry calls) :
    IsBlock marks' c m archive entry (marks.draw (calls.map (.ofCall (c.key m) m archive))) := by
  obtain ⟨previous, site⟩ := entry
  have hliteral := EdgeKind.isRaw_ofCallKind site.kind
  rcases hcalls with ⟨handle, hh, rfl⟩ | ⟨hnone, rfl⟩
  · rw [List.map_cons, draw]
    refine ⟨_, _, rfl, h.renders_edgesOf hliteral, Or.inl ⟨handle, hh, ?_⟩⟩
    rw [List.map_singleton, draw, draw, List.append_nil]
    exact (h.read _).renders_edgesOf rfl
  · rw [List.map_singleton, draw, draw]
    exact ⟨_, _, rfl, h.renders_edgesOf hliteral, Or.inr ⟨hnone, rfl⟩⟩

/-- **The calls of a method draw one block for each call instruction.** -/
theorem SameClasses.inBlocks (h : SameClasses marks marks') {c : Class} (m : Method) (archive : Nat)
    {items : List (Option Instruction × CallSite)} {calls : List Call}
    (hcalls : InBlocks c.IsCallBlock items calls) :
    InBlocks (IsBlock marks' c m archive) items
      (marks.draw (calls.map (.ofCall (c.key m) m archive))) := by
  obtain ⟨blocks, hblocks, rfl⟩ := hcalls
  induction hblocks generalizing marks with
  | nil => exact .nil
  | cons hblock _ ih =>
    rw [List.flatten_cons, List.map_append, draw_append]
    exact .cons (h.isBlock m archive hblock) (ih (h.after _))

end Marks

namespace Facts

theorem visitMethods_inBlocks {marks : Marks} {facts : Facts}
    (h : facts.marks.SameClasses marks) (c : Class) (archive : Nat) (methods : List Method) :
    InBlocks (IsMethodBlock marks c archive) (methods.filter Method.hasBody)
      (facts.visitMethods c archive methods).2 := by
  induction methods generalizing facts with
  | nil => exact .nil
  | cons m methods ih =>
    obtain ⟨hmarks, hedges⟩ := visitMethod_draws facts c archive m
    have hlater : (facts.visitMethod c archive m).1.marks.SameClasses marks := hmarks ▸ h.after _
    have hrest := ih hlater
    simp only [visitMethods, hedges]
    cases hb : m.hasBody with
    | false =>
      rw [List.filter_cons_of_neg (by simp [hb]), c.calls_of_not_hasBody hb,
        c.lambdaEdges_of_not_hasBody hb]
      exact hrest
    | true =>
      rw [List.filter_cons_of_pos hb]
      exact .cons ⟨_, rfl, h.inBlocks m archive (Class.calls_inBlocks hb)⟩ hrest

/-- **No call in the code is lost, drawn twice or out of place.** Methods without code draw nothing. -/
theorem visit_inBlocks (facts : Facts) (c : Class) (archive : Nat) :
    InBlocks (IsMethodBlock facts.marks c archive) (c.methods.filter Method.hasBody)
      (facts.visit c archive).2 :=
  visitMethods_inBlocks (fun _ _ => rfl) c archive c.methods

end Facts

end CallGraph
