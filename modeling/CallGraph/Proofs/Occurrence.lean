import CallGraph.Engine

/-!
# The calls of an archive, one after the other

Visiting classes goes through their methods and the calls of each method. What a call draws depends
on the marks alone, and lambda bodies do not touch them. So, lambda bodies apart, the edges from code
are what the marks draw along the list of all calls.

* `usage_extract`, `marks_extract` — the usage and the marks after the code of all classes
* `extract_draws` — the edges from the code of all classes
* `isFromCode_of_mem_extract` — inheritance and dispatch are not among them
-/

namespace CallGraph

/-- A call, and the place in the code that makes it. -/
structure Occurrence where
  caller : MethodKey
  origin : Option Origin
  call : Call
deriving DecidableEq, Repr

/-- The edge from the place of the call to the called method. -/
def Occurrence.edge (o : Occurrence) (kind : EdgeKind) : Edge :=
  ⟨o.caller, kind, o.call.callee, o.origin⟩

/-- A call of a method, with its source line where it is known. -/
def Occurrence.ofCall (caller : MethodKey) (m : Method) (archive : Nat) (call : Call) :
    Occurrence :=
  ⟨caller, (m.lineAt? call.offset).map fun line => ⟨line, archive⟩, call⟩

/-- All calls of a class, in order. -/
def Class.occurrences (c : Class) (archive : Nat) : List Occurrence :=
  c.methods.flatMap fun m => (c.calls m).map (Occurrence.ofCall (c.key m) m archive)

/-- All calls of the classes of an archive, in order. -/
def occurrences (archive : Nat) (classes : List Class) : List Occurrence :=
  classes.flatMap (·.occurrences archive)

namespace Usage

/-- Notes calls one after the other. -/
def recordAll (usage : Usage) (os : List Occurrence) : Usage :=
  os.foldl (fun usage o => usage.record o.call.owner o.call.callee.signature) usage

theorem recordAll_append (usage : Usage) (os more : List Occurrence) :
    usage.recordAll (os ++ more) = (usage.recordAll os).recordAll more := by
  unfold recordAll
  rw [List.foldl_append]

theorem contains_recordAll (usage : Usage) (os : List Occurrence) (owner s : String) :
    (usage.recordAll os).contains owner s = true ↔ usage.contains owner s = true ∨
      ∃ o ∈ os, o.call.owner = owner ∧ o.call.callee.signature = s := by
  unfold recordAll
  induction os generalizing usage with
  | nil => simp
  | cons o os ih =>
    simp only [List.foldl_cons, ih, contains_record, List.mem_cons, exists_eq_or_imp]
    rw [or_assoc, or_left_comm]

end Usage

namespace EdgeKind

/-- The edge is a call as it stands in the code. -/
def isRaw : EdgeKind → Bool
  | virtual | interface | special | static | dynamic => true
  | _ => false

/-- The edge is drawn for code, not for inheritance or dispatch. -/
def isFromCode : EdgeKind → Bool
  | dispatch | superToChild | childToSuper => false
  | _ => true

/-- The edge is drawn for inheritance. -/
def isInherited : EdgeKind → Bool
  | superToChild | childToSuper => true
  | _ => false

theorem isRaw_ofCallKind (kind : CallKind) : (ofCallKind kind).isRaw = true := by
  cases kind <;> rfl

theorem isFromCode_of_isRaw {kind : EdgeKind} (h : kind.isRaw = true) :
    kind.isFromCode = true := by
  cases kind <;> first | rfl | simp [isRaw] at h

/-- Code, inheritance and dispatch draw edges of different kinds. -/
theorem isInherited_of_isFromCode {kind : EdgeKind} (h : kind.isFromCode = true) :
    kind.isInherited = false ∧ kind ≠ .dispatch := by
  cases kind <;> simp [isFromCode, isInherited] at h ⊢

theorem isFromCode_of_isInherited {kind : EdgeKind} (h : kind.isInherited = true) :
    kind.isFromCode = false ∧ kind ≠ .dispatch := by
  cases kind <;> simp [isFromCode, isInherited] at h ⊢

end EdgeKind

/-! ## What the marks draw -/

namespace Marks

/-- Reads the call at a place of the code. -/
def read (marks : Marks) (o : Occurrence) : Reading :=
  marks.interpret o.caller o.call.callee o.call.name o.call.arguments o.origin

/-- The edges of one call. -/
def edgesOf (marks : Marks) (o : Occurrence) : List Edge :=
  (marks.read o).edges ++ if (marks.read o).keepsCall then [o.edge o.call.kind] else []

/-- The marks after calls. -/
def after (marks : Marks) (os : List Occurrence) : Marks :=
  os.foldl (fun marks o => (marks.read o).marks) marks

/-- The edges of calls, each read under the marks that the calls before it leave. -/
def draw (marks : Marks) : List Occurrence → List Edge
  | [] => []
  | o :: os => marks.edgesOf o ++ (marks.read o).marks.draw os

theorem after_append (marks : Marks) (os more : List Occurrence) :
    marks.after (os ++ more) = (marks.after os).after more := by
  unfold after
  rw [List.foldl_append]

theorem draw_append (marks : Marks) (os more : List Occurrence) :
    marks.draw (os ++ more) = marks.draw os ++ (marks.after os).draw more := by
  induction os generalizing marks with
  | nil => rfl
  | cons o os ih =>
    rw [List.cons_append, draw, draw, ih, List.append_assoc]
    rfl

/-- **What one call can draw:** itself under its own kind or under that of a mark, or the link of a
mark. -/
theorem edgesOf_cases {marks : Marks} {o : Occurrence} {e : Edge} (h : e ∈ marks.edgesOf o) :
    e = o.edge o.call.kind ∨ e.kind = .runnable ∨ e.kind = .callable ∨ e.kind = .threadStart := by
  have hcons : ∀ (marks : MarkMap) (kind : EdgeKind) (executed : String) (e : Edge),
      e ∈ construction marks kind executed o.caller o.call.callee o.origin → e.kind = kind := by
    intro marks kind executed e he
    unfold construction at he
    split at he
    · rcases List.mem_cons.mp he with rfl | he
      · rfl
      · split at he
        · rw [List.mem_singleton.mp he]
          rfl
        · simp at he
    · simp at he
  rcases List.mem_append.mp h with h | h
  · unfold read interpret at h
    split at h
    · rcases List.mem_append.mp h with h | h
      · exact Or.inr (Or.inl (hcons _ _ _ _ h))
      · exact Or.inr (Or.inr (Or.inl (hcons _ _ _ _ h)))
    · split at h
      · simp only at h
        split at h
        · rw [List.mem_singleton.mp h]
          exact Or.inr (Or.inr (Or.inr rfl))
        · simp at h
      · simp at h
  · split at h
    · exact Or.inl (List.mem_singleton.mp h)
    · simp at h

/-- An edge along calls is drawn by one of them, under the marks that it finds. -/
theorem exists_of_mem_draw {marks : Marks} {os : List Occurrence} {e : Edge}
    (h : e ∈ marks.draw os) : ∃ marks' : Marks, ∃ o ∈ os, e ∈ marks'.edgesOf o := by
  induction os generalizing marks with
  | nil => simp [draw] at h
  | cons o os ih =>
    rcases List.mem_append.mp h with h | h
    · exact ⟨marks, o, List.mem_cons_self, h⟩
    · obtain ⟨marks', o', ho', he⟩ := ih h
      exact ⟨marks', o', List.mem_cons_of_mem o ho', he⟩

theorem mem_draw_cases {marks : Marks} {os : List Occurrence} {e : Edge} (h : e ∈ marks.draw os) :
    (∃ o ∈ os, e = o.edge o.call.kind) ∨ e.kind = .runnable ∨ e.kind = .callable ∨
      e.kind = .threadStart := by
  obtain ⟨marks', o, ho, he⟩ := exists_of_mem_draw h
  exact (edgesOf_cases he).imp_left fun he => ⟨o, ho, he⟩

end Marks

/-! ## Going through the code -/

/-- The calls of a method are call sites and method references. -/
theorem isRaw_of_mem_calls {c : Class} {m : Method} {call : Call} (h : call ∈ c.calls m) :
    call.kind.isRaw = true := by
  unfold Class.calls at h
  split at h
  · obtain ⟨⟨previous, current⟩, -, hc⟩ := List.mem_flatMap.mp h
    have hc : call ∈ c.callsAt previous current := hc
    unfold Class.callsAt at hc
    cases hsite : current.call? with
    | none =>
      rw [hsite] at hc
      simp at hc
    | some site =>
      rw [hsite] at hc
      rcases List.mem_cons.mp hc with rfl | hc
      · exact EdgeKind.isRaw_ofCallKind site.kind
      · obtain ⟨handle, -, rfl⟩ := Option.map_eq_some_iff.mp (Option.mem_toList.mp hc)
        rfl
  · simp at h

theorem Class.calls_of_not_hasBody {m : Method} (c : Class) (hb : m.hasBody = false) :
    c.calls m = [] := by
  unfold calls
  simp [hb]

theorem Class.lambdaEdges_of_not_hasBody {m : Method} (c : Class) (hb : m.hasBody = false) :
    c.lambdaEdges m = [] := by
  unfold lambdaEdges lambdaNames
  simp [hb]

theorem isRaw_of_mem_ofCall {c : Class} {m : Method} {archive : Nat} {o : Occurrence}
    (h : o ∈ (c.calls m).map (Occurrence.ofCall (c.key m) m archive)) :
    o.call.kind.isRaw = true := by
  obtain ⟨call, hc, rfl⟩ := List.mem_map.mp h
  exact isRaw_of_mem_calls hc

theorem isRaw_of_mem_occurrences {archive : Nat} {classes : List Class} {o : Occurrence}
    (h : o ∈ occurrences archive classes) : o.call.kind.isRaw = true := by
  obtain ⟨c, -, h⟩ := List.mem_flatMap.mp h
  obtain ⟨m, -, h⟩ := List.mem_flatMap.mp h
  exact isRaw_of_mem_ofCall h

namespace Facts

/-! ## What visiting leaves alone -/

section
variable {α : Type} {p : Facts → α}
  (hcall : ∀ facts caller m archive call, p (takeCall facts caller m archive call).1 = p facts)
  (hnote : ∀ facts key m, p (noteAnnotations facts key m) = p facts)
include hcall

theorem takeCalls_frame (facts : Facts) (caller : MethodKey) (m : Method) (archive : Nat)
    (calls : List Call) : p (facts.takeCalls caller m archive calls).1 = p facts := by
  induction calls generalizing facts with
  | nil => rfl
  | cons call calls ih => exact (ih _).trans (hcall facts caller m archive call)

include hnote

theorem visitMethods_frame (facts : Facts) (c : Class) (archive : Nat) (methods : List Method) :
    p (facts.visitMethods c archive methods).1 = p facts := by
  induction methods generalizing facts with
  | nil => rfl
  | cons m methods ih =>
    refine (ih _).trans ?_
    exact (takeCalls_frame hcall _ _ m archive _).trans (hnote facts (c.key m) m)

/-- What neither registering a class nor a method or a call of it changes is the same when all
classes have been visited. -/
theorem extract_frame (hregister : ∀ facts c, p (register facts c) = p facts) (facts : Facts)
    (archive : Nat) (classes : List Class) : p (facts.extract archive classes).1 = p facts := by
  induction classes generalizing facts with
  | nil => rfl
  | cons c classes ih =>
    refine (ih _).trans ?_
    exact (visitMethods_frame hcall hnote _ c archive c.methods).trans (hregister facts c)

end

/-- What the first look has found about interfaces. -/
theorem interfaces_extract (facts : Facts) (archive : Nat) (classes : List Class) :
    (facts.extract archive classes).1.implementors = facts.implementors ∧
      (facts.extract archive classes).1.contracts = facts.contracts := by
  refine Prod.mk.inj (extract_frame (p := fun f => (f.implementors, f.contracts)) ?_ ?_ ?_ facts
    archive classes)
  · exact fun _ _ _ _ _ => rfl
  · intro facts key m
    unfold noteAnnotations
    split <;> rfl
  · intro facts c
    unfold register
    split <;> rfl

/-! ## What visiting notes and draws -/

theorem takeCalls_draws (facts : Facts) (caller : MethodKey) (m : Method) (archive : Nat)
    (calls : List Call) :
    (facts.takeCalls caller m archive calls).1.marks =
        facts.marks.after (calls.map (Occurrence.ofCall caller m archive)) ∧
      (facts.takeCalls caller m archive calls).2 =
        facts.marks.draw (calls.map (Occurrence.ofCall caller m archive)) := by
  induction calls generalizing facts with
  | nil => exact ⟨rfl, rfl⟩
  | cons call calls ih =>
    obtain ⟨hmarks, hedges⟩ := ih (facts.takeCall caller m archive call).1
    refine ⟨hmarks, ?_⟩
    rw [takeCalls, List.map_cons, Marks.draw]
    exact congrArg _ hedges

theorem marks_noteAnnotations (facts : Facts) (key : MethodKey) (m : Method) :
    (facts.noteAnnotations key m).marks = facts.marks := by
  unfold noteAnnotations
  split <;> rfl

/-- A method draws what its calls draw, and then the edges to its lambda bodies. -/
theorem visitMethod_draws (facts : Facts) (c : Class) (archive : Nat) (m : Method) :
    (facts.visitMethod c archive m).1.marks =
        facts.marks.after ((c.calls m).map (Occurrence.ofCall (c.key m) m archive)) ∧
      (facts.visitMethod c archive m).2 =
        facts.marks.draw ((c.calls m).map (Occurrence.ofCall (c.key m) m archive)) ++
          c.lambdaEdges m := by
  obtain ⟨hmarks, hedges⟩ := takeCalls_draws (facts.noteAnnotations (c.key m) m) (c.key m) m archive
    (c.calls m)
  rw [marks_noteAnnotations] at hmarks hedges
  exact ⟨hmarks, congrArg (· ++ c.lambdaEdges m) hedges⟩

theorem marks_register (facts : Facts) (c : Class) : (facts.register c).marks = facts.marks := by
  unfold register
  split <;> rfl

theorem usage_takeCalls (facts : Facts) (caller : MethodKey) (m : Method) (archive : Nat)
    (calls : List Call) :
    (facts.takeCalls caller m archive calls).1.usage =
      facts.usage.recordAll (calls.map (Occurrence.ofCall caller m archive)) := by
  induction calls generalizing facts with
  | nil => rfl
  | cons call calls ih => exact ih (facts.takeCall caller m archive call).1

theorem usage_visitMethods (facts : Facts) (c : Class) (archive : Nat) (methods : List Method) :
    (facts.visitMethods c archive methods).1.usage =
      facts.usage.recordAll (methods.flatMap fun m =>
        (c.calls m).map (Occurrence.ofCall (c.key m) m archive)) := by
  induction methods generalizing facts with
  | nil => rfl
  | cons m methods ih =>
    have hnote : (facts.noteAnnotations (c.key m) m).usage = facts.usage := by
      unfold noteAnnotations
      split <;> rfl
    have hm := usage_takeCalls (facts.noteAnnotations (c.key m) m) (c.key m) m archive (c.calls m)
    rw [hnote] at hm
    rw [List.flatMap_cons, Usage.recordAll_append, ← hm]
    exact ih (facts.visitMethod c archive m).1

/-- **The usage after the code of classes is the one before with all their calls.** -/
theorem usage_extract (facts : Facts) (archive : Nat) (classes : List Class) :
    (facts.extract archive classes).1.usage =
      facts.usage.recordAll (occurrences archive classes) := by
  induction classes generalizing facts with
  | nil => rfl
  | cons c classes ih =>
    have hregister : (facts.register c).usage = facts.usage := by
      unfold register
      split <;> rfl
    have hc := usage_visitMethods (facts.register c) c archive c.methods
    rw [hregister] at hc
    have hcons : occurrences archive (c :: classes) =
        c.occurrences archive ++ occurrences archive classes := List.flatMap_cons
    rw [hcons, Usage.recordAll_append, Class.occurrences, ← hc]
    exact ih ((facts.register c).visit c archive).1

/-- The edges that calls draw, without those to lambda bodies. -/
def exceptLambda (edges : List Edge) : List Edge := edges.filter (·.kind ≠ .lambda)

theorem exceptLambda_append (edges more : List Edge) :
    exceptLambda (edges ++ more) = exceptLambda edges ++ exceptLambda more := by
  unfold exceptLambda
  rw [List.filter_append]

theorem exceptLambda_lambdaEdges (c : Class) (m : Method) :
    exceptLambda (c.lambdaEdges m) = [] := by
  unfold exceptLambda
  rw [List.filter_eq_nil_iff]
  intro e he
  obtain ⟨name, -, hm⟩ := List.mem_filterMap.mp he
  obtain ⟨body, -, rfl⟩ := Option.map_eq_some_iff.mp hm
  simp [Edge.inferred]

theorem exceptLambda_draw (marks : Marks) {os : List Occurrence}
    (h : ∀ o ∈ os, o.call.kind.isRaw = true) : exceptLambda (marks.draw os) = marks.draw os := by
  unfold exceptLambda
  rw [List.filter_eq_self]
  intro e he
  rcases Marks.mem_draw_cases he with ⟨o, ho, rfl⟩ | hk | hk | hk
  · have hraw := h o ho
    unfold Occurrence.edge
    cases hkind : o.call.kind <;> simp [hkind, EdgeKind.isRaw] at hraw ⊢
  all_goals simp [hk]

theorem filter_lambda_lambdaEdges (c : Class) (m : Method) :
    (c.lambdaEdges m).filter (·.kind = .lambda) = c.lambdaEdges m := by
  rw [List.filter_eq_self]
  intro e he
  have := List.filter_eq_nil_iff.mp (exceptLambda_lambdaEdges c m) e he
  simpa using this

theorem filter_lambda_draw (marks : Marks) {os : List Occurrence}
    (h : ∀ o ∈ os, o.call.kind.isRaw = true) :
    (marks.draw os).filter (·.kind = .lambda) = [] := by
  rw [List.filter_eq_nil_iff]
  intro e he
  have := List.filter_eq_self.mp (exceptLambda_draw marks h) e he
  simpa using this

theorem visitMethods_draws (facts : Facts) (c : Class) (archive : Nat) (methods : List Method) :
    (facts.visitMethods c archive methods).1.marks = facts.marks.after (methods.flatMap fun m =>
        (c.calls m).map (Occurrence.ofCall (c.key m) m archive)) ∧
      exceptLambda (facts.visitMethods c archive methods).2 =
        facts.marks.draw (methods.flatMap fun m =>
          (c.calls m).map (Occurrence.ofCall (c.key m) m archive)) := by
  induction methods generalizing facts with
  | nil => exact ⟨rfl, rfl⟩
  | cons m methods ih =>
    obtain ⟨hmarks, hedges⟩ := ih (facts.visitMethod c archive m).1
    obtain ⟨hm, hdrawn⟩ := visitMethod_draws facts c archive m
    -- The other methods are visited under the marks that this one leaves.
    rw [List.flatMap_cons, Marks.after_append, Marks.draw_append, ← hm, ← hmarks, ← hedges]
    refine ⟨rfl, ?_⟩
    rw [visitMethods, exceptLambda_append, hdrawn, exceptLambda_append, exceptLambda_lambdaEdges,
      List.append_nil, exceptLambda_draw _ fun _ => isRaw_of_mem_ofCall]

/-- The marks after the code of classes are those that all their calls leave. -/
theorem marks_extract (facts : Facts) (archive : Nat) (classes : List Class) :
    (facts.extract archive classes).1.marks = facts.marks.after (occurrences archive classes) := by
  induction classes generalizing facts with
  | nil => rfl
  | cons c classes ih =>
    have hmarks := (visitMethods_draws (facts.register c) c archive c.methods).1
    rw [marks_register] at hmarks
    have hcons : occurrences archive (c :: classes) =
        c.occurrences archive ++ occurrences archive classes := List.flatMap_cons
    rw [hcons, Marks.after_append, Class.occurrences, ← hmarks]
    exact ih ((facts.register c).visit c archive).1

/-- **The edges from the code of classes, lambda bodies apart, are what the marks draw.** -/
theorem extract_draws (facts : Facts) (archive : Nat) (classes : List Class) :
    exceptLambda ((facts.extract archive classes).2.flatMap Prod.snd) =
      facts.marks.draw (occurrences archive classes) := by
  induction classes generalizing facts with
  | nil => rfl
  | cons c classes ih =>
    obtain ⟨hmarks, hedges⟩ := visitMethods_draws (facts.register c) c archive c.methods
    rw [marks_register] at hmarks hedges
    have hcons : occurrences archive (c :: classes) =
        c.occurrences archive ++ occurrences archive classes := List.flatMap_cons
    rw [hcons, Marks.draw_append, extract, List.flatMap_cons, exceptLambda_append]
    unfold Class.occurrences
    rw [← hmarks, ← hedges, ← ih]
    rfl

theorem filter_lambda_visitMethods (facts : Facts) (c : Class) (archive : Nat)
    (methods : List Method) :
    (facts.visitMethods c archive methods).2.filter (·.kind = .lambda) =
      methods.flatMap c.lambdaEdges := by
  induction methods generalizing facts with
  | nil => rfl
  | cons m methods ih =>
    rw [visitMethods, List.filter_append, (visitMethod_draws facts c archive m).2, List.filter_append,
      filter_lambda_draw _ fun _ => isRaw_of_mem_ofCall, List.nil_append, filter_lambda_lambdaEdges,
      List.flatMap_cons]
    exact congrArg _ (ih _)

/-- The edges to lambda bodies are drawn method by method. -/
theorem filter_lambda_extract (facts : Facts) (archive : Nat) (classes : List Class) :
    ((facts.extract archive classes).2.flatMap Prod.snd).filter (·.kind = .lambda) =
      classes.flatMap fun c => c.methods.flatMap c.lambdaEdges := by
  induction classes generalizing facts with
  | nil => rfl
  | cons c classes ih =>
    rw [extract, List.flatMap_cons, List.filter_append, visit, filter_lambda_visitMethods,
      List.flatMap_cons]
    exact congrArg _ (ih _)

/-- Code draws no edges of inheritance or dispatch. -/
theorem isFromCode_of_mem_extract {facts : Facts} {archive : Nat} {classes : List Class} {e : Edge}
    (h : e ∈ (facts.extract archive classes).2.flatMap Prod.snd) : e.kind.isFromCode = true := by
  by_cases hl : e.kind = .lambda
  · rw [hl]
    rfl
  · have hd : e ∈ facts.marks.draw (occurrences archive classes) := by
      rw [← extract_draws]
      exact List.mem_filter.mpr ⟨h, by simpa using hl⟩
    rcases Marks.mem_draw_cases hd with ⟨o, ho, rfl⟩ | hk | hk | hk
    · exact EdgeKind.isFromCode_of_isRaw (isRaw_of_mem_occurrences ho)
    all_goals
      rw [hk]
      rfl

end Facts

end CallGraph
