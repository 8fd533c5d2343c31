import CallGraph.Proofs.Walk

/-!
# What classes inherit

The walk hands methods down from class to class. Seen from the end, a class has a method if some
class on its chain of superclasses has it, no nearer class has it, and every nearer class lets it
through: an abstract method passes everywhere, any other only a class that is abstract itself or on
which it has been called.

* `method?_resolveHierarchy` — the methods of a class after the walk
* `nodup_hierarchyEdges`, `mem_hierarchyEdges` — the edges of the walk
* `resolveHierarchy_closed_form` — both, for the classes of an archive
-/

namespace CallGraph.Facts

open Std (ExtTreeMap)

/-- How a method of a class can be reached, if the class has it. -/
def method? (facts : Facts) (name signature : String) : Option Access :=
  facts.lineage[name]?.bind fun info => info.methods[signature]?

/-- The class is known, and it is abstract. -/
def isAbstractClass (facts : Facts) (name : String) : Bool :=
  facts.lineage[name]?.any (·.isAbstract)

/-- A class that lacks a method hands it down from its superclass. -/
def LetsThrough (facts : Facts) (name signature : String) (access : Access) : Prop :=
  access.isAbstract = true ∨ facts.isAbstractClass name = true ∨
    facts.usage.contains name signature = true

/-- The first class on the chain that has the method has it with this access, and every class before
lets it through. -/
def FoundAlong (facts : Facts) (chain : List String) (signature : String) (access : Access) :
    Prop :=
  ∃ nearer holder further, chain = nearer ++ holder :: further ∧
    facts.method? holder signature = some access ∧
    ∀ name ∈ nearer, facts.method? name signature = none ∧
      facts.LetsThrough name signature access

theorem foundAlong_nil (facts : Facts) (signature : String) (access : Access) :
    ¬ FoundAlong facts [] signature access := by
  rintro ⟨nearer, holder, further, he, -⟩
  simp at he

/-- A class has a method by itself or through the rest of its chain. -/
theorem foundAlong_cons (facts : Facts) (name : String) (chain : List String) (signature : String)
    (access : Access) :
    FoundAlong facts (name :: chain) signature access ↔
      facts.method? name signature = some access ∨
        (facts.method? name signature = none ∧ facts.LetsThrough name signature access ∧
          FoundAlong facts chain signature access) := by
  constructor
  · rintro ⟨nearer, holder, further, he, hm, hall⟩
    cases nearer with
    | nil =>
      obtain ⟨rfl, rfl⟩ := List.cons.inj he
      exact Or.inl hm
    | cons first nearer =>
      obtain ⟨rfl, rfl⟩ := List.cons.inj he
      obtain ⟨hnone, hpass⟩ := hall name List.mem_cons_self
      exact Or.inr ⟨hnone, hpass, nearer, holder, further, rfl, hm,
        fun n hn => hall n (List.mem_cons_of_mem _ hn)⟩
  · rintro (hm | ⟨hnone, hpass, nearer, holder, further, rfl, hm, hall⟩)
    · exact ⟨[], name, chain, rfl, hm, by simp⟩
    · refine ⟨name :: nearer, holder, further, rfl, hm, ?_⟩
      intro n hn
      rcases List.mem_cons.mp hn with rfl | hn
      · exact ⟨hnone, hpass⟩
      · exact hall n hn

/-- Contracts add methods to abstract classes with subclasses, and change none. -/
theorem method?_propagateContracts (facts : Facts) (name signature : String) :
    facts.propagateContracts.method? name signature =
      (facts.method? name signature).or
        (if facts.children.contains name && facts.isAbstractClass name &&
            (facts.contractsOf name).contains signature then some contractAccess else none) := by
  unfold method? isAbstractClass propagateContracts
  simp only [ExtTreeMap.getElem?_map]
  cases facts.lineage[name]? with
  | none => simp
  | some info =>
    simp only [Option.map_some, Option.bind_some, Option.any_some]
    split
    · next h => simp [getElem?_foldl_insertIfNew, h]
    · next h => simp [h]

/-! ## One link -/

/-- Entries with distinct keys, put into a table one after the other. -/
theorem getElem?_foldl_insert (entries : List (String × Access))
    (hd : entries.Pairwise fun a b => a.1 ≠ b.1) (table : ExtTreeMap String Access)
    (s : String) (a : Access) :
    (entries.foldl (fun own (s, a) => own.insert s a) table)[s]? = some a ↔
      (s, a) ∈ entries ∨ ((∀ b, (s, b) ∉ entries) ∧ table[s]? = some a) := by
  induction entries generalizing table with
  | nil => simp
  | cons entry rest ih =>
    obtain ⟨s', a'⟩ := entry
    obtain ⟨hhead, hrest⟩ := List.pairwise_cons.mp hd
    rw [List.foldl_cons, ih hrest, ExtTreeMap.getElem?_insert]
    by_cases hs : s' = s
    · subst hs
      have hnot : ∀ b, (s', b) ∉ rest := fun b hb => hhead (s', b) hb rfl
      simp [hnot, eq_comm]
    · simp [hs, Ne.symm hs]

theorem pairwise_fst_ne (table : ExtTreeMap String Access) :
    table.toList.Pairwise fun a b => a.1 ≠ b.1 :=
  ExtTreeMap.distinct_keys_toList.imp fun {a b} h he => h (by rw [he]; exact Std.ReflCmp.compare_self)

/-- **The methods of a subclass after a link:** its own, and what it takes over. -/
theorem getElem?_inherit (usage : Usage) (child : String) (info : Lineage)
    (above : ExtTreeMap String Access) (s : String) (a : Access) :
    (inherit usage child info above.toList).methods[s]? = some a ↔
      info.methods[s]? = some a ∨
        (above[s]? = some a ∧ adopts usage child info s a = true) := by
  have hd : (above.toList.filter fun (s, a) => adopts usage child info s a).Pairwise
      fun a b => a.1 ≠ b.1 := (pairwise_fst_ne above).filter _
  unfold inherit
  simp only
  rw [getElem?_foldl_insert _ hd]
  simp only [List.mem_filter, ExtTreeMap.mem_toList_iff_getElem?_eq_some]
  constructor
  · rintro (hin | ⟨-, hown⟩)
    · exact Or.inr hin
    · exact Or.inl hown
  · rintro (hown | hin)
    · refine Or.inr ⟨?_, hown⟩
      rintro b ⟨-, hb⟩
      have hc : info.methods.contains s = true := by
        rw [ExtTreeMap.contains_eq_isSome_getElem?, hown]
        rfl
      simp [adopts, hc] at hb
    · exact Or.inl hin

theorem adopts_iff {usage : Usage} {child : String} {info : Lineage} {s : String} {a : Access}
    (ha : a.IsInheritable) :
    adopts usage child info s a = true ↔ info.methods[s]? = none ∧
      (a.isAbstract = true ∨ info.isAbstract = true ∨ usage.contains child s = true) := by
  have hc : info.methods.contains s = false ↔ info.methods[s]? = none := by
    rw [ExtTreeMap.contains_eq_isSome_getElem?, Option.isSome_eq_false_iff,
      Option.isNone_iff_eq_none]
  unfold adopts
  rw [Bool.and_eq_true, Bool.not_eq_true', hc]
  refine and_congr_right fun _ => ?_
  rcases ha with h | h | h <;> simp [h]

/-! ## The whole walk -/

variable {facts : Facts}

theorem link?_steps (facts : Facts) : facts.steps.filterMap Step.link? = facts.links := by
  rw [steps_eq, filterMap_link?_stepsFrom]
  rfl

theorem reached_steps (facts : Facts) : reached facts.steps = facts.links.map Prod.snd := by
  unfold reached
  rw [link?_steps]

/-- A class that heads no chain to a top class, or is one itself, keeps its entry. -/
theorem lineage_of_not_below (h : IsForest facts)
    (hw : Walked facts.usage facts.lineage facts.steps facts.hierarchyWalk) {name : String}
    (hn : ∀ parent rest, ¬ Ancestry facts name (parent :: rest)) :
    facts.resolveHierarchy.1.lineage[name]? = facts.lineage[name]? := by
  refine hw.frame name ?_
  rw [reached_steps]
  intro hm
  obtain ⟨⟨parent, child⟩, hl, rfl⟩ := List.mem_map.mp hm
  obtain ⟨rest, ha⟩ := h.mem_links_iff.mp hl
  exact hn parent rest ha

/-- The entries of a link before and after the walk. -/
theorem entries_of_ancestry (h : IsForest facts)
    (hw : Walked facts.usage facts.lineage facts.steps facts.hierarchyWalk)
    {name parent : String} {rest : List String} (ha : Ancestry facts name (parent :: rest)) :
    ∃ above info, facts.resolveHierarchy.1.lineage[parent]? = some above ∧
      facts.lineage[name]? = some info ∧
      facts.resolveHierarchy.1.lineage[name]? =
        some (inherit facts.usage name info above.methods.toList) := by
  refine hw.inherits parent name ?_
  rw [link?_steps]
  exact h.mem_links_iff.mpr ⟨rest, ha⟩

/-- The walk hands down methods that can be inherited, and no others. -/
theorem inheritable_resolveHierarchy (h : IsForest facts)
    (hw : Walked facts.usage facts.lineage facts.steps facts.hierarchyWalk)
    {name : String} {rest : List String} (ha : Ancestry facts name rest) {s : String} {a : Access}
    (hm : facts.resolveHierarchy.1.method? name s = some a) : a.IsInheritable := by
  unfold method? at hm
  induction ha with
  | @top name info hk hp =>
    rw [lineage_of_not_below h hw (Ancestry.top hk hp).not_below, hk] at hm
    exact h.inheritable name info s a hk hm
  | @step name info rest hk ho hup ih =>
    obtain ⟨above, info', hpar, hk', hname⟩ := entries_of_ancestry h hw (.step hk ho hup)
    rw [hname, Option.bind_some, getElem?_inherit] at hm
    rcases hm with hown | ⟨hup', -⟩
    · exact h.inheritable name info' s a hk' hown
    · exact ih (by rw [hpar]; exact hup')

/-- **The methods of a class after the walk are those found along its chain of superclasses.** -/
theorem method?_resolveHierarchy (h : IsForest facts)
    (hw : Walked facts.usage facts.lineage facts.steps facts.hierarchyWalk)
    {name : String} {rest : List String} (ha : Ancestry facts name rest) (s : String) (a : Access) :
    facts.resolveHierarchy.1.method? name s = some a ↔ FoundAlong facts (name :: rest) s a := by
  induction ha generalizing s a with
  | @top name info hk hp =>
    have hkeep := lineage_of_not_below h hw (Ancestry.top hk hp).not_below
    rw [foundAlong_cons]
    simp only [method?, hkeep, foundAlong_nil, and_false, or_false]
  | @step name info rest hk ho hup ih =>
    obtain ⟨above, info', hpar, hk', hname⟩ := entries_of_ancestry h hw (.step hk ho hup)
    rw [hk] at hk'
    obtain rfl := Option.some.inj hk'
    have habove : facts.resolveHierarchy.1.method? info.superName s = above.methods[s]? := by
      unfold method?
      rw [hpar, Option.bind_some]
    have hown : facts.method? name s = info.methods[s]? := by
      unfold method?
      rw [hk, Option.bind_some]
    have hlets : ∀ access, facts.LetsThrough name s access ↔ access.isAbstract = true ∨
        info.isAbstract = true ∨ facts.usage.contains name s = true := by
      intro access
      simp [LetsThrough, isAbstractClass, hk]
    have hleft : facts.resolveHierarchy.1.method? name s =
        (inherit facts.usage name info above.methods.toList).methods[s]? := by
      unfold method?
      rw [hname, Option.bind_some]
    rw [foundAlong_cons, ← ih, hleft, getElem?_inherit, habove, hown, hlets]
    refine or_congr_right ?_
    constructor
    · rintro ⟨hup', had⟩
      have hinh := inheritable_resolveHierarchy h hw hup (habove.trans hup')
      obtain ⟨hnone, hgate⟩ := (adopts_iff hinh).mp had
      exact ⟨hnone, hgate, hup'⟩
    · rintro ⟨hnone, hgate, hup'⟩
      have hinh := inheritable_resolveHierarchy h hw hup (habove.trans hup')
      exact ⟨hup', (adopts_iff hinh).mpr ⟨hnone, hgate⟩⟩

/-! ## Edges -/

/-- The edges between a class below a top class and its superclass: an abstract method of the
superclass leads down, and any other method leads up from a subclass that takes it over. -/
def IsHierarchyEdge (before after : Facts) (e : Edge) : Prop :=
  ∃ parent child rest signature access,
    Ancestry before child (parent :: rest) ∧ after.method? parent signature = some access ∧
    ((access.isAbstract = true ∧
        e = .inferred ⟨parent, signature⟩ .superToChild ⟨child, signature⟩) ∨
      (access.isAbstract = false ∧ before.method? child signature = none ∧
        (before.isAbstractClass child = true ∨ before.usage.contains child signature = true) ∧
        e = .inferred ⟨child, signature⟩ .childToSuper ⟨parent, signature⟩))

/-- The subclass that an edge of the walk is about. -/
def subclassOf (e : Edge) : String :=
  if e.kind = .superToChild then e.callee.owner else e.caller.owner

theorem linkEdge?_cases {usage : Usage} {parent child : String} {info : Lineage} {s : String}
    {a : Access} {e : Edge} (h : linkEdge? usage parent child info s a = some e) :
    (a.isAbstract = true ∧ e = .inferred ⟨parent, s⟩ .superToChild ⟨child, s⟩) ∨
      (a.isAbstract = false ∧ adopts usage child info s a = true ∧
        e = .inferred ⟨child, s⟩ .childToSuper ⟨parent, s⟩) := by
  unfold linkEdge? at h
  split at h
  · next ha => exact Or.inl ⟨ha, (Option.some.inj h).symm⟩
  · next ha =>
    split at h
    · next had => exact Or.inr ⟨by simpa using ha, had, (Option.some.inj h).symm⟩
    · simp at h

theorem signature_of_linkEdge? {usage : Usage} {parent child : String} {info : Lineage}
    {s : String} {a : Access} {e : Edge} (h : linkEdge? usage parent child info s a = some e) :
    e.caller.signature = s ∧ subclassOf e = child := by
  rcases linkEdge?_cases h with ⟨-, rfl⟩ | ⟨-, -, rfl⟩
  · exact ⟨rfl, rfl⟩
  · exact ⟨rfl, rfl⟩

theorem mem_linkEdges {usage : Usage} {after before : ExtTreeMap String Lineage}
    {link : String × String} {e : Edge} :
    e ∈ linkEdges usage after before link ↔ ∃ above info : Lineage,
      after[link.1]? = some above ∧ before[link.2]? = some info ∧
      ∃ (s : String) (a : Access), above.methods[s]? = some a ∧
        linkEdge? usage link.1 link.2 info s a = some e := by
  unfold linkEdges
  split
  · next above info ha hi =>
    simp [List.mem_filterMap, Prod.exists, ExtTreeMap.mem_toList_iff_getElem?_eq_some, ha, hi]
  · next hno =>
    simp only [List.not_mem_nil, false_iff]
    rintro ⟨above, info, ha, hi, -⟩
    exact hno above info ha hi

/-- A list of edges that takes one signature from each entry of a list takes each at most once. -/
theorem nodup_filterMap_of_signature {entries : List (String × Access)}
    (hd : entries.Pairwise fun a b => a.1 ≠ b.1) {f : String × Access → Option Edge}
    (hf : ∀ entry e, f entry = some e → e.caller.signature = entry.1) :
    (entries.filterMap f).Nodup := by
  refine List.Pairwise.filterMap f ?_ hd
  intro x y hxy e he e' he' heq
  exact hxy (by rw [← hf x e he, ← hf y e' he', heq])

theorem nodup_linkEdges (usage : Usage) (after before : ExtTreeMap String Lineage)
    (link : String × String) : (linkEdges usage after before link).Nodup := by
  unfold linkEdges
  split
  · exact nodup_filterMap_of_signature (pairwise_fst_ne _)
      fun _ _ he => (signature_of_linkEdge? he).1
  · exact List.nodup_nil

/-- The edges of the walk. -/
def hierarchyEdges (facts : Facts) : List Edge :=
  facts.links.flatMap
    (linkEdges facts.usage facts.resolveHierarchy.1.lineage facts.lineage)

/-- No edge is drawn twice: an edge tells its subclass, and no subclass is reached twice. -/
theorem nodup_hierarchyEdges (h : IsForest facts) : facts.hierarchyEdges.Nodup := by
  unfold hierarchyEdges
  rw [List.nodup_flatMap]
  refine ⟨fun link _ => nodup_linkEdges _ _ _ link, ?_⟩
  have hn : (facts.links.map Prod.snd).Nodup :=
    h.nodup_reached (List.Subset.refl _) (nodup_tops facts)
  refine (List.pairwise_map.mp hn).imp ?_
  intro link link' hne e he he'
  obtain ⟨_, _, _, _, _, _, _, hs⟩ := mem_linkEdges.mp he
  obtain ⟨_, _, _, _, _, _, _, hs'⟩ := mem_linkEdges.mp he'
  exact hne ((signature_of_linkEdge? hs).2.symm.trans (signature_of_linkEdge? hs').2)

theorem mem_hierarchyEdges (h : IsForest facts)
    (hw : Walked facts.usage facts.lineage facts.steps facts.hierarchyWalk) (e : Edge) :
    e ∈ facts.hierarchyEdges ↔ IsHierarchyEdge facts facts.resolveHierarchy.1 e := by
  unfold hierarchyEdges
  rw [List.mem_flatMap]
  constructor
  · rintro ⟨⟨parent, child⟩, hl, he⟩
    obtain ⟨rest, ha⟩ := h.mem_links_iff.mp hl
    obtain ⟨above, info, hpar, hk, s, a, hs, hedge⟩ := mem_linkEdges.mp he
    have hm : facts.resolveHierarchy.1.method? parent s = some a := by
      unfold method?
      rw [hpar]
      exact hs
    refine ⟨parent, child, rest, s, a, ha, hm, ?_⟩
    rcases linkEdge?_cases hedge with habs | ⟨hcon, had, rfl⟩
    · exact Or.inl habs
    · cases ha with
      | step _ _ hup =>
        have hinh := inheritable_resolveHierarchy h hw hup hm
        obtain ⟨hnone, hgate⟩ := (adopts_iff hinh).mp had
        refine Or.inr ⟨hcon, ?_, ?_, rfl⟩
        · unfold method?
          rw [hk]
          exact hnone
        · rcases hgate with hg | hg | hg
          · rw [hcon] at hg
            simp at hg
          · exact Or.inl (by simp [isAbstractClass, hk, hg])
          · exact Or.inr hg
  · rintro ⟨parent, child, rest, s, a, ha, hm, hcase⟩
    obtain ⟨above, info, hpar, hk, -⟩ := entries_of_ancestry h hw ha
    unfold method? at hm
    rw [hpar, Option.bind_some] at hm
    refine ⟨(parent, child), h.mem_links_iff.mpr ⟨rest, ha⟩, ?_⟩
    refine mem_linkEdges.mpr ⟨above, info, hpar, hk, s, a, hm, ?_⟩
    unfold linkEdge?
    rcases hcase with ⟨habs, rfl⟩ | ⟨hcon, hnone, hgate, rfl⟩
    · rw [if_pos habs]
    · cases ha with
      | step _ _ hup =>
        have hinh : a.IsInheritable :=
          inheritable_resolveHierarchy h hw hup (by unfold method?; rw [hpar]; exact hm)
        have had : adopts facts.usage child info s a = true := by
          refine (adopts_iff hinh).mpr ⟨?_, Or.inr ?_⟩
          · simpa [method?, hk] using hnone
          · simpa [isAbstractClass, hk] using hgate
        rw [if_neg (by simp [hcon]), if_pos had]

/-! ## The classes of an archive -/

/-- A walk that does not fail takes all steps. -/
theorem walked_of_resolveHierarchy {after : Facts} {edges : List Edge} (h : IsForest facts)
    (hr : facts.resolveHierarchy = (after, .ok edges)) :
    Walked facts.usage facts.lineage facts.steps facts.hierarchyWalk ∧
      after = facts.resolveHierarchy.1 ∧ edges = facts.hierarchyEdges := by
  have hedges : facts.hierarchyWalk.edges = .ok edges := congrArg Prod.snd hr
  have hw : Walked facts.usage facts.lineage facts.steps facts.hierarchyWalk := by
    cases ht : facts.tops.find? (fun t => !facts.children.contains t) with
    | none => exact walked_hierarchyWalk h ht
    | some top =>
      rw [hierarchyWalk_error h ht] at hedges
      simp at hedges
  refine ⟨hw, (congrArg Prod.fst hr).symm, ?_⟩
  have := hw.edges
  rw [hedges, link?_steps] at this
  exact Except.ok.inj this

/-- **What the walk over the classes of an archive comes to.** A class whose chain of superclasses
ends at a top class has the methods found along the chain; every other class has what it had. The
edges are exactly the hierarchy edges, each drawn once. -/
theorem resolveHierarchy_closed_form (usage : Usage) (archive : Nat) (classes : List Class)
    {after : Facts} {edges : List Edge}
    (h : (beforeWalk usage archive classes).resolveHierarchy = (after, .ok edges)) :
    (∀ name rest, Ancestry (beforeWalk usage archive classes) name rest →
      ∀ signature access, after.method? name signature = some access ↔
        FoundAlong (beforeWalk usage archive classes) (name :: rest) signature access) ∧
    (∀ name, (¬ ∃ rest, Ancestry (beforeWalk usage archive classes) name rest) →
      after.lineage[name]? = (beforeWalk usage archive classes).lineage[name]?) ∧
    edges.Nodup ∧
    ∀ e, e ∈ edges ↔ IsHierarchyEdge (beforeWalk usage archive classes) after e := by
  have hf := isForest_beforeWalk usage archive classes
  obtain ⟨hw, rfl, rfl⟩ := walked_of_resolveHierarchy hf h
  refine ⟨?_, ?_, nodup_hierarchyEdges hf, mem_hierarchyEdges hf hw⟩
  · intro name rest ha signature access
    exact method?_resolveHierarchy hf hw ha signature access
  · intro name hn
    exact lineage_of_not_below hf hw fun parent rest ha => hn ⟨parent :: rest, ha⟩

/-- Shapes: what all of them have, a polygon, a square, which asks for the area of a polygon, and
one whose superclass is nowhere to be found. -/
def shapes : List Class :=
  let draw : Method := ⟨"draw", [], { isAbstract := true, isPublic := true }, [], [], []⟩
  let area : Method := ⟨"area", [], { isPublic := true }, [], [], []⟩
  let measure : Method := ⟨"measure", [], {}, [], [],
    [⟨0, .invoke ⟨"Polygon", "area", [], .virtual, 0, none⟩⟩]⟩
  [⟨"Square", some "Polygon", [], false, false, [], [measure], []⟩,
   ⟨"Shape", none, [], false, true, [], [draw, area], []⟩,
   ⟨"Polygon", some "Shape", [], false, false, [], [], []⟩,
   ⟨"Orphan", some "Unknown", [], false, false, [], [], []⟩]

/-- The square inherits what it has to draw, and the area stops at the polygon. -/
def shapeEdges : List Edge :=
  [.inferred ⟨"Polygon", "area()"⟩ .childToSuper ⟨"Shape", "area()"⟩,
   .inferred ⟨"Shape", "draw()"⟩ .superToChild ⟨"Polygon", "draw()"⟩,
   .inferred ⟨"Polygon", "draw()"⟩ .superToChild ⟨"Square", "draw()"⟩]

theorem ancestry_shapes :
    Ancestry (beforeWalk .empty 1 shapes) "Square" ["Polygon", "Shape"] := by
  have hentry : ∀ name super : String,
      (beforeWalk .empty 1 shapes).lineage[name]?.map Lineage.superName = some super →
      ∃ info : Lineage, (beforeWalk .empty 1 shapes).lineage[name]? = some info ∧ info.superName = super :=
    fun _ _ h => Option.map_eq_some_iff.mp h
  obtain ⟨shape, hshape, hobject⟩ := hentry "Shape" objectName (by decide +kernel)
  obtain ⟨polygon, hpolygon, hp⟩ := hentry "Polygon" "Shape" (by decide +kernel)
  obtain ⟨square, hsquare, hs⟩ := hentry "Square" "Polygon" (by decide +kernel)
  have htop : Ancestry (beforeWalk .empty 1 shapes) "Shape" [] :=
    .top hshape (by rw [hobject]; decide)
  have hmiddle : Ancestry (beforeWalk .empty 1 shapes) "Polygon" ["Shape"] :=
    hp ▸ .step hpolygon (by rw [hp]; decide) (hp.symm ▸ htop)
  exact hs ▸ .step hsquare (by rw [hs]; decide) (hs.symm ▸ hmiddle)

theorem resolveHierarchy_closed_form_shapes :
    ∃ after, (beforeWalk .empty 1 shapes).resolveHierarchy = (after, .ok shapeEdges) ∧
      Ancestry (beforeWalk .empty 1 shapes) "Square" ["Polygon", "Shape"] ∧
      (∀ signature access, after.method? "Square" signature = some access ↔
        FoundAlong (beforeWalk .empty 1 shapes) ["Square", "Polygon", "Shape"] signature access) ∧
      shapeEdges.Nodup ∧
      ∀ e, e ∈ shapeEdges ↔ IsHierarchyEdge (beforeWalk .empty 1 shapes) after e := by
  have hedges : (beforeWalk .empty 1 shapes).resolveHierarchy.2 = .ok shapeEdges := by
    decide +kernel
  have h : (beforeWalk .empty 1 shapes).resolveHierarchy =
      ((beforeWalk .empty 1 shapes).resolveHierarchy.1, .ok shapeEdges) := Prod.ext rfl hedges
  obtain ⟨hmethods, -, hnodup, hmem⟩ := resolveHierarchy_closed_form .empty 1 shapes h
  exact ⟨_, h, ancestry_shapes, hmethods "Square" _ ancestry_shapes, hnodup, hmem⟩

end CallGraph.Facts
