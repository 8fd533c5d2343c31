import CallGraph.Proofs.CodeBlocks

/-!
# Links to lambda bodies

A lambda is compiled into a generated method of the class, its body, and a dynamic call that makes a
function object of it. A method is linked to the bodies of the lambdas in it, after all that its calls
draw, whatever was seen of other methods and classes before.

* `Class.UsesLambda` — the names of the lambda bodies behind the dynamic calls of a method
* `Class.LinksLambdas` — what the links of a method are to be
* `linksLambdas_lambdaEdges` — the links are these
* `visit_lambdaLinks` — where they stand among the edges of a class
-/

namespace CallGraph

/-! ## What is to be linked -/

/-- A dynamic call in the code of the method makes a function object of a method of the class itself
that has this name, and it is a name of lambda bodies. -/
def Class.UsesLambda (c : Class) (m : Method) (name : String) : Prop :=
  lambdaStem.toList <+: name.toList ∧
    ∃ instruction ∈ m.instructions, ∃ site index arguments handle,
      instruction.operation = .invoke site ∧ site.kind = .dynamic ∧ site.bootstrap = some index ∧
      c.bootstrap[index]? = some arguments ∧ arguments[1]? = some (.handle handle) ∧
      handle.owner = c.name ∧ handle.name = name

/-- The method is generated and has the name. -/
def Method.IsGenerated (m : Method) (name : String) : Prop :=
  m.name = name ∧ m.flags.isSynthetic = true

/-- The first generated method of the class with the name. -/
def Class.FirstGenerated (c : Class) (name : String) (body : Method) : Prop :=
  ∃ before after, c.methods = before ++ body :: after ∧ body.IsGenerated name ∧
    ∀ other ∈ before, ¬ other.IsGenerated name

/-- One link for each lambda body that the method uses and the class has, in the order of their
names. -/
def Class.LinksLambdas (c : Class) (m : Method) (links : List Edge) : Prop :=
  ∃ names : List String, names.Pairwise (· < ·) ∧
    (∀ name, name ∈ names ↔
      c.UsesLambda m name ∧ ∃ body ∈ c.methods, body.IsGenerated name) ∧
    List.Forall₂ (fun name link => ∃ body, c.FirstGenerated name body ∧
      link = ⟨c.key m, .lambda, .of c.name name body.arguments, none⟩) names links

/-! ## The links of a method -/

namespace Class

variable {c : Class} {m body : Method} {name : String}

theorem isGenerated_iff :
    (decide (m.name = name) && m.flags.isSynthetic) = true ↔ m.IsGenerated name := by
  simp [Method.IsGenerated]

theorem syntheticMethod?_eq_some :
    c.syntheticMethod? name = some body ↔ c.FirstGenerated name body := by
  unfold syntheticMethod? FirstGenerated
  rw [List.find?_eq_some_iff_append]
  constructor
  · rintro ⟨hbody, before, after, hmethods, hbefore⟩
    refine ⟨before, after, hmethods, isGenerated_iff.mp hbody, fun other hother hgenerated => ?_⟩
    have hnot := hbefore other hother
    rw [isGenerated_iff.mpr hgenerated] at hnot
    simp at hnot
  · rintro ⟨before, after, hmethods, hbody, hbefore⟩
    refine ⟨isGenerated_iff.mpr hbody, before, after, hmethods, fun other hother => ?_⟩
    rw [Bool.not_eq_true', Bool.eq_false_iff]
    exact fun h => hbefore other hother (isGenerated_iff.mp h)

theorem isSome_syntheticMethod? :
    (c.syntheticMethod? name).isSome = true ↔ ∃ body ∈ c.methods, body.IsGenerated name := by
  unfold syntheticMethod?
  simp only [List.find?_isSome, isGenerated_iff]

theorem lambdaName?_eq_some {instruction : Instruction} :
    c.lambdaName? instruction = some name ↔ lambdaStem.toList <+: name.toList ∧
      ∃ site index arguments handle,
        instruction.operation = .invoke site ∧ site.kind = .dynamic ∧ site.bootstrap = some index ∧
        c.bootstrap[index]? = some arguments ∧ arguments[1]? = some (.handle handle) ∧
        handle.owner = c.name ∧ handle.name = name := by
  unfold lambdaName? madeFrom?
  simp only [Option.bind_eq_bind, Option.bind_eq_some_iff, Instruction.call?_eq_some]
  constructor
  · rintro ⟨site, hsite, hname⟩
    split at hname
    · next hkind =>
      obtain ⟨handle, hmade, hname⟩ := Option.bind_eq_some_iff.mp hname
      obtain ⟨index, hindex, hhandle⟩ := Option.bind_eq_some_iff.mp hmade
      obtain ⟨arguments, harguments, hargument⟩ := implementation?_eq_some.mp hhandle
      split at hname
      · next hcond =>
        obtain rfl := Option.some.inj hname
        exact ⟨List.isPrefixOf_iff_prefix.mp hcond.2, site, index, arguments, handle, hsite, hkind,
          hindex, harguments, hargument, hcond.1, rfl⟩
      · simp at hname
    · simp at hname
  · rintro ⟨hstem, site, index, arguments, handle, hsite, hkind, hindex, harguments, hargument,
      howner, rfl⟩
    have hhandle : c.implementation? index = some handle :=
      implementation?_eq_some.mpr ⟨arguments, harguments, hargument⟩
    refine ⟨site, hsite, ?_⟩
    simpa [hkind, hindex, hhandle, howner] using hstem

theorem mem_lambdaNames (hb : m.hasBody = true) :
    name ∈ c.lambdaNames m ↔ c.UsesLambda m name := by
  unfold lambdaNames UsesLambda
  rw [if_pos hb, Std.ExtTreeSet.mem_toList, Std.ExtTreeSet.mem_ofList, List.contains_iff_mem,
    List.mem_filterMap]
  simp only [lambdaName?_eq_some]
  constructor
  · rintro ⟨instruction, hi, hstem, huse⟩
    exact ⟨hstem, instruction, hi, huse⟩
  · rintro ⟨hstem, instruction, hi, huse⟩
    exact ⟨instruction, hi, hstem, huse⟩

theorem pairwise_lambdaNames (c : Class) (m : Method) : (c.lambdaNames m).Pairwise (· < ·) := by
  unfold lambdaNames
  split
  · have hordered := Std.ExtTreeSet.ordered_toList
      (t := Std.ExtTreeSet.ofList (m.instructions.filterMap c.lambdaName?) compare)
    exact hordered.imp fun h => compareOfLessAndEq_eq_lt.mp h
  · exact .nil

theorem forall₂_filterMap {α β : Type} (f : α → Option β) (items : List α) :
    List.Forall₂ (fun item result => f item = some result) (items.filter (f · |>.isSome))
      (items.filterMap f) := by
  induction items with
  | nil => exact .nil
  | cons item items ih =>
    cases h : f item with
    | none => simpa [h] using ih
    | some result => simpa [h] using ih

/-- **A method is linked to the lambda bodies that it uses,** each of them once. -/
theorem linksLambdas_lambdaEdges (hb : m.hasBody = true) : c.LinksLambdas m (c.lambdaEdges m) := by
  refine ⟨(c.lambdaNames m).filter (c.syntheticMethod? · |>.isSome),
    (pairwise_lambdaNames c m).sublist List.filter_sublist, fun name => ?_, ?_⟩
  · rw [List.mem_filter, mem_lambdaNames hb, isSome_syntheticMethod?]
  · have hlinks := forall₂_filterMap (fun name => (c.syntheticMethod? name).map fun body =>
      Edge.inferred (c.key m) .lambda (c.key body)) (c.lambdaNames m)
    simp only [Option.isSome_map] at hlinks
    refine hlinks.imp fun name link hlink => ?_
    obtain ⟨body, hbody, rfl⟩ := Option.map_eq_some_iff.mp hlink
    have hfirst := syntheticMethod?_eq_some.mp hbody
    have hname : body.name = name := by
      obtain ⟨before, after, -, hgenerated, -⟩ := hfirst
      exact hgenerated.1
    refine ⟨body, hfirst, ?_⟩
    rw [← hname]
    rfl

end Class

/-! ## The links among the edges of a class -/

namespace Facts

theorem visitMethods_append (facts : Facts) (c : Class) (archive : Nat)
    (methods more : List Method) :
    (facts.visitMethods c archive (methods ++ more)).2 =
      (facts.visitMethods c archive methods).2 ++
        ((facts.visitMethods c archive methods).1.visitMethods c archive more).2 := by
  induction methods generalizing facts with
  | nil => rfl
  | cons m methods ih => simp only [List.cons_append, visitMethods, ih, List.append_assoc]

/-- **Links to lambda bodies are exact and local.** In whatever state a method is visited, its links
come after everything else that it draws, and they are the same: one for each lambda body that it uses
and the class has. The edges of a class are those of its methods, one after the other, and a method
without code has none. -/
theorem visit_lambdaLinks {c : Class} {before after : List Method} {m : Method}
    (hm : c.methods = before ++ m :: after) :
    (∀ (facts : Facts) (archive : Nat),
      let earlier := facts.visitMethods c archive before
      let here := earlier.1.visitMethod c archive m
      (facts.visit c archive).2 =
        earlier.2 ++ here.2 ++ (here.1.visitMethods c archive after).2) ∧
    (∀ (facts : Facts) (archive : Nat), ∃ others,
      (facts.visitMethod c archive m).2 = others ++ c.lambdaEdges m ∧
        ∀ e ∈ others, e.kind ≠ .lambda) ∧
    (m.hasBody = true → c.LinksLambdas m (c.lambdaEdges m)) ∧
    (m.hasBody = false → ∀ (facts : Facts) (archive : Nat),
      (facts.visitMethod c archive m).2 = []) := by
  refine ⟨?_, ?_, Class.linksLambdas_lambdaEdges, ?_⟩
  · intro facts archive earlier here
    rw [visit, hm, visitMethods_append, List.append_assoc]
    rfl
  · intro facts archive
    refine ⟨_, (visitMethod_draws facts c archive m).2, fun e he => ?_⟩
    have hnone := List.filter_eq_nil_iff.mp (filter_lambda_draw _ fun _ => isRaw_of_mem_ofCall) e he
    simpa using hnone
  · intro hb facts archive
    rw [(visitMethod_draws facts c archive m).2, c.calls_of_not_hasBody hb,
      c.lambdaEdges_of_not_hasBody hb]
    rfl

/-- A method that uses two lambdas of its class, one of them twice, and names two more that are not
there. -/
def signing : Method where
  name := "sign"
  arguments := []
  flags := { isPublic := true }
  annotations := []
  lines := []
  instructions := [0, 1, 0, 2, 3].map fun index =>
    ⟨5 * index, .invoke ⟨"java.lang.Runnable", "run", [], .dynamic, 5 * index, some index⟩⟩

/-- A class with that method. -/
def desk : Class where
  name := "Desk"
  superName := some "java.lang.Object"
  interfaces := []
  isInterface := false
  isAbstract := true
  references := []
  methods :=
    [⟨"open", [], { isAbstract := true }, [], [], []⟩, signing,
     ⟨"lambda$b", [], {}, [], [], []⟩, ⟨"lambda$b", ["int"], { isSynthetic := true }, [], [], []⟩,
     ⟨"lambda$a", [], { isSynthetic := true }, [], [], []⟩]
  bootstrap :=
    [[.other, .handle ⟨"Desk", "lambda$b", none⟩], [.other, .handle ⟨"Desk", "lambda$a", some []⟩],
     [.other, .handle ⟨"Desk", "lambda$c", some []⟩],
     [.other, .handle ⟨"Shelf", "lambda$a", some []⟩]]

theorem visit_lambdaLinks_desk :
    desk.methods = desk.methods.take 1 ++ signing :: desk.methods.drop 2 ∧
      desk.LinksLambdas signing (desk.lambdaEdges signing) ∧
      desk.lambdaEdges signing =
        [⟨⟨"Desk", "sign()"⟩, .lambda, ⟨"Desk", "lambda$a()"⟩, none⟩,
         ⟨⟨"Desk", "sign()"⟩, .lambda, ⟨"Desk", "lambda$b(int)"⟩, none⟩] ∧
      ∀ (facts : Facts) (archive : Nat), ∃ others,
        (facts.visitMethod desk archive signing).2 = others ++ desk.lambdaEdges signing ∧
          ∀ e ∈ others, e.kind ≠ .lambda := by
  have hm : desk.methods = desk.methods.take 1 ++ signing :: desk.methods.drop 2 := by decide
  obtain ⟨-, hplace, hlinks, -⟩ := visit_lambdaLinks hm
  exact ⟨hm, hlinks rfl, by decide +kernel, hplace⟩

end Facts

end CallGraph
