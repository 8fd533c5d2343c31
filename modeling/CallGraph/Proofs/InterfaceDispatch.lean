import CallGraph.Proofs.ByteOrder
import CallGraph.Proofs.Outcome
import Mathlib.Data.List.Count

/-!
# Which interface methods lead to which classes

Whether a call through an interface leads to a class is put together from four tables: who implements
what, what the interface asks for, what has been called on the interface, and what on the class. Read
off the classes of an archive, it comes to one condition, and the edge is drawn once for every time
that the class names the interface.

* `isDispatched` — the condition
* `dispatchEdges_visited` — the edges of an archive, in their order
* `count_dispatchEdgesOf` — how often each of them is drawn
* `dispatchEdges_exact` — both, for what an archive reports
-/

namespace CallGraph

open Std (ExtTreeMap)

/-- The edge from a method of an interface to the same method of a class. -/
def dispatchEdge (interface name signature : String) : Edge :=
  .inferred ⟨interface, signature⟩ .dispatch ⟨name, signature⟩

/-- Callers of an interface can end up at a method of the class with the signature. -/
def Class.offers (c : Class) (signature : String) : Bool :=
  c.methods.any fun m => Facts.isDispatchTarget m && m.signature = signature

/-- The interface has an abstract method with the signature. -/
def Class.asksFor (c : Class) (signature : String) : Bool :=
  c.methods.any fun m => m.flags.isAbstract && m.signature = signature

/-- A method of an interface leads to a class that names the interface: the class has it to offer, the
interface asks for it, and it has been called as the policy wants. -/
def isDispatched (classes : List Class) (usage : Usage) (policy : DispatchPolicy)
    (interface name signature : String) : Bool :=
  (implementor? classes name).any (·.offers signature) &&
    (contract? classes interface).any (·.asksFor signature) &&
    usage.contains interface signature &&
    (policy = .interfaceCalled || usage.contains name signature)

/-- The dispatch edges to a class, by interface and then by method. -/
def dispatchEdgesOf (classes : List Class) (usage : Usage) (policy : DispatchPolicy)
    (name : String) : List Edge :=
  (implementor? classes name).toList.flatMap fun c =>
    c.interfaces.flatMap fun interface =>
      ((Facts.signaturesOf Facts.isDispatchTarget c).filter
        (isDispatched classes usage policy interface name)).map (dispatchEdge interface name)

/-! ## The edges of an archive -/

theorem contains_signaturesOf (p : Method → Bool) (c : Class) (signature : String) :
    (Facts.signaturesOf p c).contains signature =
      c.methods.any fun m => p m && m.signature = signature := by
  rw [Bool.eq_iff_iff, List.contains_iff_mem, Facts.mem_signaturesOf, List.any_eq_true]
  simp only [Bool.and_eq_true, decide_eq_true_eq]

namespace Engine

variable (engine : Engine) (index : Nat) (classes : List Class)

theorem implementors_visited (name : String) :
    (engine.visited index classes).1.implementors[name]? =
      (implementor? classes name).map .ofClass := by
  unfold visited
  rw [(Facts.interfaces_extract _ _ _).1, Facts.implementors_index]
  simp [Facts.ofUsage]

theorem contracts_visited (name : String) :
    (engine.visited index classes).1.contracts[name]? =
      (contract? classes name).map (Facts.signaturesOf (·.flags.isAbstract)) := by
  unfold visited
  rw [(Facts.interfaces_extract _ _ _).2, Facts.contracts_index]
  simp [Facts.ofUsage]

/-- The tables agree with the condition on what a class has to offer. -/
theorem dispatches_visited {name : String} {c : Class} (hc : implementor? classes name = some c)
    (policy : DispatchPolicy) (interface : String) {signature : String}
    (hs : signature ∈ Facts.signaturesOf Facts.isDispatchTarget c) :
    (engine.visited index classes).1.dispatches policy name interface signature =
      isDispatched classes (engine.visited index classes).1.usage policy interface name
        signature := by
  have hoffers : c.offers signature = true := by
    unfold Class.offers
    rw [← contains_signaturesOf, List.contains_iff_mem]
    exact hs
  unfold Facts.dispatches isDispatched
  rw [contracts_visited, hc, Option.any_some, hoffers, Bool.true_and]
  cases contract? classes interface with
  | none => rfl
  | some i => rw [Option.map_some, Option.getD_some, contains_signaturesOf, Option.any_some]; rfl

/-- **The dispatch edges of an archive come class by class.** -/
theorem dispatchEdges_visited (policy : DispatchPolicy) :
    ∃ names : List String, names.Pairwise (· < ·) ∧
      (∀ name, name ∈ names ↔ (implementor? classes name).isSome = true) ∧
      (engine.visited index classes).1.dispatchEdges policy = names.flatMap
        (dispatchEdgesOf classes (engine.visited index classes).1.usage policy) := by
  refine ⟨(engine.visited index classes).1.implementors.toList.map Prod.fst, ?_, ?_, ?_⟩
  · rw [List.pairwise_map]
    refine ExtTreeMap.ordered_keys_toList.imp ?_
    intro a b h
    exact compareOfLessAndEq_eq_lt.mp h
  · intro name
    rw [ExtTreeMap.map_fst_toList_eq_keys, ExtTreeMap.mem_keys,
      ExtTreeMap.mem_iff_isSome_getElem?, implementors_visited, Option.isSome_map]
  · unfold Facts.dispatchEdges
    rw [List.flatMap_map]
    refine List.flatMap_congr ?_
    rintro ⟨name, implementor⟩ hm
    have hk := ExtTreeMap.mem_toList_iff_getElem?_eq_some.mp hm
    rw [implementors_visited] at hk
    obtain ⟨c, hc, rfl⟩ := Option.map_eq_some_iff.mp hk
    unfold Facts.dispatchEdgesTo dispatchEdgesOf
    rw [hc]
    simp only [Option.toList_some, List.flatMap_singleton]
    refine List.flatMap_congr fun interface _ => ?_
    refine congrArg _ (List.filter_congr fun signature hs => ?_)
    exact dispatches_visited engine index classes hc policy interface hs

end Engine

/-! ## How often an edge is drawn -/

theorem dispatchEdge_inj {interface interface' name name' s s' : String} :
    dispatchEdge interface name s = dispatchEdge interface' name' s' ↔
      interface = interface' ∧ name = name' ∧ s = s' := by
  unfold dispatchEdge Edge.inferred
  constructor
  · intro h
    simp only [Edge.mk.injEq, MethodKey.mk.injEq] at h
    exact ⟨h.1.1, h.2.2.1.1, h.1.2⟩
  · rintro ⟨rfl, rfl, rfl⟩
    rfl

/-- The edges for one place at which a class names an interface. -/
theorem count_map_dispatchEdge {signatures : List String} (hd : signatures.Nodup)
    (p : String → Bool) (interface interface' name s : String) :
    ((signatures.filter p).map (dispatchEdge interface' name)).count
        (dispatchEdge interface name s) =
      if interface' = interface ∧ s ∈ signatures ∧ p s = true then 1 else 0 := by
  by_cases hi : interface' = interface
  · subst hi
    have hinj : Function.Injective (dispatchEdge interface' name) :=
      fun _ _ h => (dispatchEdge_inj.mp h).2.2
    rw [List.count_map_of_injective _ _ hinj, (hd.filter p).count]
    simp only [List.mem_filter, true_and]
  · rw [if_neg fun h => hi h.1, List.count_eq_zero]
    intro hm
    obtain ⟨s', -, he⟩ := List.mem_map.mp hm
    exact hi (dispatchEdge_inj.mp he).1

theorem count_flatMap_dispatchEdge {signatures : List String} (hd : signatures.Nodup)
    (p : String → String → Bool) (interfaces : List String) (interface name s : String) :
    (interfaces.flatMap fun i => (signatures.filter (p i)).map (dispatchEdge i name)).count
        (dispatchEdge interface name s) =
      if s ∈ signatures ∧ p interface s = true then interfaces.count interface else 0 := by
  induction interfaces with
  | nil => simp
  | cons i interfaces ih =>
    rw [List.flatMap_cons, List.count_append, ih, count_map_dispatchEdge hd, List.count_cons]
    by_cases hi : i = interface
    · subst hi
      by_cases hs : s ∈ signatures ∧ p i s = true
      · simp [hs, Nat.add_comm]
      · rw [if_neg hs, if_neg hs, if_neg fun h => hs h.2]
    · simp [hi]

/-- **Edges to a class are drawn as often as the class names the interface.** -/
theorem count_dispatchEdgesOf (classes : List Class) (usage : Usage) (policy : DispatchPolicy)
    (interface name s : String) :
    (dispatchEdgesOf classes usage policy name).count (dispatchEdge interface name s) =
      if isDispatched classes usage policy interface name s then
        ((implementor? classes name).map (·.interfaces.count interface)).getD 0
      else 0 := by
  unfold dispatchEdgesOf
  cases hc : implementor? classes name with
  | none => simp [isDispatched, hc]
  | some c =>
    simp only [Option.toList_some, List.flatMap_singleton, Option.map_some, Option.getD_some]
    rw [count_flatMap_dispatchEdge (Facts.nodup_signaturesOf _ c)]
    have hmem : isDispatched classes usage policy interface name s = true →
        s ∈ Facts.signaturesOf Facts.isDispatchTarget c := by
      intro h
      unfold isDispatched at h
      simp only [hc, Option.any_some, Bool.and_eq_true] at h
      rw [← List.contains_iff_mem, contains_signaturesOf]
      exact h.1.1.1
    exact if_congr ⟨fun h => h.2, fun h => ⟨hmem h, h⟩⟩ rfl rfl

theorem exists_of_mem_dispatchEdgesOf {classes : List Class} {usage : Usage}
    {policy : DispatchPolicy} {name : String} {e : Edge}
    (h : e ∈ dispatchEdgesOf classes usage policy name) :
    ∃ interface s, e = dispatchEdge interface name s := by
  obtain ⟨c, -, h⟩ := List.mem_flatMap.mp h
  obtain ⟨interface, -, h⟩ := List.mem_flatMap.mp h
  obtain ⟨s, -, rfl⟩ := List.mem_map.mp h
  exact ⟨interface, s, rfl⟩

/-- An edge is drawn for the class that it leads to, and for no other. -/
theorem count_flatMap_dispatchEdgesOf {names : List String} (hd : names.Nodup)
    (classes : List Class) (usage : Usage) (policy : DispatchPolicy) (interface name s : String) :
    (names.flatMap (dispatchEdgesOf classes usage policy)).count (dispatchEdge interface name s) =
      if name ∈ names then
        (dispatchEdgesOf classes usage policy name).count (dispatchEdge interface name s)
      else 0 := by
  induction names with
  | nil => simp
  | cons first names ih =>
    obtain ⟨hfirst, hrest⟩ := List.nodup_cons.mp hd
    rw [List.flatMap_cons, List.count_append, ih hrest]
    by_cases hn : name = first
    · subst hn
      simp [hfirst]
    · have hzero : (dispatchEdgesOf classes usage policy first).count
          (dispatchEdge interface name s) = 0 := by
        rw [List.count_eq_zero]
        intro hm
        obtain ⟨i, s', he⟩ := exists_of_mem_dispatchEdgesOf hm
        exact hn (dispatchEdge_inj.mp he).2.1
      simp [hzero, hn]

/-! ## What an archive reports -/

namespace Engine

variable {engine : Engine} {index : Nat} {classes : List Class}

/-- **Which interface methods lead to which classes, and how often.** The edge is drawn as often as the
class names the interface if the method is dispatched to it, and not at all otherwise, so once if the
class names no interface twice. There are no other edges. They come by class in the order of bytes,
then by interface and then by the first declaration of the method. -/
theorem dispatchEdges_exact {summary : Summary}
    (h : (engine.processClasses index classes).result = .ok summary) :
    let usage := (engine.visited index classes).1.usage
    let policy := engine.config.dispatch
    let edges := (engine.processClasses index classes).dispatchEdges
    (engine.processClasses index classes).engine = engine.leaving usage ∧
    (∀ interface name s, edges.count (dispatchEdge interface name s) =
      if isDispatched classes usage policy interface name s then
        ((implementor? classes name).map (·.interfaces.count interface)).getD 0
      else 0) ∧
    (∀ interface name s c, implementor? classes name = some c → c.interfaces.Nodup →
      interface ∈ c.interfaces → isDispatched classes usage policy interface name s = true →
      edges.count (dispatchEdge interface name s) = 1) ∧
    (∀ e ∈ edges, ∃ interface name s, e = dispatchEdge interface name s) ∧
    ∃ names : List String, names.Pairwise (fun a b => Text.bytes a < Text.bytes b) ∧
      (∀ name, name ∈ names ↔ (implementor? classes name).isSome = true) ∧
      edges = names.flatMap fun name => (implementor? classes name).toList.flatMap fun c =>
        c.interfaces.flatMap fun interface =>
          ((Facts.signaturesOf Facts.isDispatchTarget c).filter
            (isDispatched classes usage policy interface name)).map
              (dispatchEdge interface name) := by
  intro usage policy edges
  obtain ⟨hierarchy, hw⟩ := exists_forestWalk_of_ok h
  obtain ⟨names, hsorted, hnames, hedges⟩ := dispatchEdges_visited engine index classes policy
  have hedges : edges = names.flatMap (dispatchEdgesOf classes usage policy) :=
    (dispatchEdges_of_ok hw).trans hedges
  have hnodup : names.Nodup := hsorted.imp fun hlt he => by
    subst he
    exact absurd hlt (String.lt_irrefl _)
  have hcount : ∀ interface name s, edges.count (dispatchEdge interface name s) =
      if isDispatched classes usage policy interface name s then
        ((implementor? classes name).map (·.interfaces.count interface)).getD 0
      else 0 := by
    intro interface name s
    rw [hedges, count_flatMap_dispatchEdgesOf hnodup, count_dispatchEdgesOf]
    simp only [hnames]
    cases implementor? classes name <;> simp
  refine ⟨(processClasses_of_ok hw).2.2, hcount, ?_, ?_, names, ?_, hnames, hedges⟩
  · intro interface name s c hc hd hm hdisp
    rw [hcount, if_pos hdisp, hc, Option.map_some, Option.getD_some]
    exact List.count_eq_one_of_mem hd hm
  · intro e he
    rw [hedges] at he
    obtain ⟨name, -, he⟩ := List.mem_flatMap.mp he
    obtain ⟨interface, s, rfl⟩ := exists_of_mem_dispatchEdgesOf he
    exact ⟨interface, name, s, rfl⟩
  · exact hsorted.imp fun hlt => (Text.bytes_lt_iff _ _).mpr hlt

/-- A circle with two methods of one signature, as a result type of its own makes them, and a square,
which nobody asks for its area. -/
def figures : List Class :=
  let call (offset : Nat) (owner : String) (kind : CallKind) : Instruction :=
    ⟨offset, .invoke ⟨owner, "area", [], kind, offset, none⟩⟩
  let area : Method := ⟨"area", [], { isPublic := true }, [], [], []⟩
  let bridge : Method := ⟨"area", [], { isPublic := true, isSynthetic := true }, [], [], []⟩
  let asked : Method := ⟨"area", [], { isPublic := true, isAbstract := true }, [], [], []⟩
  let main : Method := ⟨"main", [], { isPublic := true, isStatic := true }, [], [],
    [call 0 "Shape" .interface, call 5 "Circle" .virtual, call 8 "Shape" .interface]⟩
  [⟨"Main", none, [], false, false, [], [main], []⟩,
   ⟨"Square", none, ["Shape"], false, false, [], [area], []⟩,
   ⟨"Circle", none, ["java.io.Serializable", "Shape"], false, false, [], [area, bridge], []⟩,
   ⟨"Shape", none, [], true, true, [], [asked], []⟩]

theorem dispatchEdges_exact_figures :
    let outcome := (start {}).processClasses 1 figures
    outcome.result = .ok ⟨1, 4, 3, 0, 1⟩ ∧
      outcome.dispatchEdges.count (dispatchEdge "Shape" "Circle" "area()") = 1 ∧
      outcome.dispatchEdges.count (dispatchEdge "Shape" "Square" "area()") = 0 := by
  have h : ((start {}).processClasses 1 figures).result = .ok ⟨1, 4, 3, 0, 1⟩ := by
    decide +kernel
  obtain ⟨-, hcount, -⟩ := dispatchEdges_exact h
  refine ⟨h, ?_, ?_⟩
  · rw [hcount]
    decide +kernel
  · rw [hcount]
    decide +kernel

end Engine

end CallGraph
