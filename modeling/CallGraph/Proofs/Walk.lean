import CallGraph.Proofs.Links
import CallGraph.Proofs.Success

/-!
# What a walk leaves behind

The walk changes the entries that it reads. In a list of steps that never reaches a class twice, and
that reaches a class before it goes on from there, the entry of a class is complete when the walk
comes to its subclasses. What the walk leaves behind can then be said without the order of steps:
every reached class has inherited from what its superclass has *in the end*.

* `walked_of_walkable` — the state and the edges after a list of such steps
* `walkable_stepsFrom` — the steps from top classes with subclasses are of this kind
* `hierarchyWalk_error`, `walked_hierarchyWalk` — the walk fails at the first top class without
  subclasses, and nowhere else
-/

namespace CallGraph.Facts

open Std (ExtTreeMap)

/-! ## Lists of steps -/

/-- The link that a step follows. -/
def Step.link? : Step → Option (String × String)
  | enter _ => none
  | link parent child => some (parent, child)

/-- The classes that steps reach. -/
def reached (steps : List Step) : List String := (steps.filterMap Step.link?).map Prod.snd

@[simp] theorem reached_enter (top : String) (steps : List Step) :
    reached (.enter top :: steps) = reached steps := rfl

@[simp] theorem reached_link (parent child : String) (steps : List Step) :
    reached (.link parent child :: steps) = child :: reached steps := rfl

/-- Every step starts at a known class or at one that was reached before. -/
def ParentsFirst (known : List String) : List Step → Prop
  | [] => True
  | .enter _ :: steps => ParentsFirst known steps
  | .link parent child :: steps => parent ∈ known ∧ ParentsFirst (child :: known) steps

/-- The steps can be taken one after the other: each starts at a class whose entry is complete, and
reaches one whose entry is not. -/
structure Walkable (children : ExtTreeMap String (List String))
    (lineage : ExtTreeMap String Lineage) (known : List String) (steps : List Step) : Prop where
  entered : ∀ top, .enter top ∈ steps → top ∈ children
  parentsFirst : ParentsFirst known steps
  nodup : (reached steps).Nodup
  fresh : ∀ name ∈ reached steps, name ∉ known
  known_mem : ∀ name ∈ known, name ∈ lineage
  reached_mem : ∀ name ∈ reached steps, name ∈ lineage

/-- The edges of a link: those of the methods that the superclass has in the end. -/
def linkEdges (usage : Usage) (after before : ExtTreeMap String Lineage)
    (link : String × String) : List Edge :=
  match after[link.1]?, before[link.2]? with
  | some above, some info =>
    above.methods.toList.filterMap fun (signature, access) =>
      linkEdge? usage link.1 link.2 info signature access
  | _, _ => []

/-- What a walk over steps leaves behind. -/
structure Walked (usage : Usage) (lineage : ExtTreeMap String Lineage) (steps : List Step)
    (w : Walk) : Prop where
  frame : ∀ name, name ∉ reached steps → w.lineage[name]? = lineage[name]?
  inherits : ∀ parent child, (parent, child) ∈ steps.filterMap Step.link? →
    ∃ above info, w.lineage[parent]? = some above ∧ lineage[child]? = some info ∧
      w.lineage[child]? = some (inherit usage child info above.methods.toList)
  edges : w.edges =
    .ok ((steps.filterMap Step.link?).flatMap (linkEdges usage w.lineage lineage))

variable {usage : Usage} {children : ExtTreeMap String (List String)}
  {lineage : ExtTreeMap String Lineage} {known : List String} {steps : List Step}

theorem Walkable.of_enter {top : String}
    (h : Walkable children lineage known (.enter top :: steps)) :
    Walkable children lineage known steps where
  entered := fun t ht => h.entered t (List.mem_cons_of_mem _ ht)
  parentsFirst := h.parentsFirst
  nodup := h.nodup
  fresh := h.fresh
  known_mem := h.known_mem
  reached_mem := h.reached_mem

theorem Walkable.of_link {parent child : String}
    (h : Walkable children lineage known (.link parent child :: steps)) (info : Lineage) :
    Walkable children (lineage.insert child info) (child :: known) steps where
  entered := fun t ht => h.entered t (List.mem_cons_of_mem _ ht)
  parentsFirst := h.parentsFirst.2
  nodup := (List.nodup_cons.mp h.nodup).2
  fresh := by
    intro name hm hk
    rcases List.mem_cons.mp hk with rfl | hk
    · exact (List.nodup_cons.mp h.nodup).1 hm
    · exact h.fresh name (List.mem_cons_of_mem _ hm) hk
  known_mem := by
    intro name hm
    rw [ExtTreeMap.mem_insert]
    rcases List.mem_cons.mp hm with rfl | hm
    · exact Or.inl Std.ReflCmp.compare_self
    · exact Or.inr (h.known_mem name hm)
  reached_mem := by
    intro name hm
    rw [ExtTreeMap.mem_insert]
    exact Or.inr (h.reached_mem name (List.mem_cons_of_mem _ hm))

/-- What the first link of a list finds: both classes have entries, and no later step changes
them. -/
theorem Walkable.link_cases {parent child : String}
    (h : Walkable children lineage known (.link parent child :: steps)) :
    (∃ above, lineage[parent]? = some above) ∧ (∃ info, lineage[child]? = some info) ∧
      parent ≠ child ∧ parent ∉ reached steps ∧ child ∉ reached steps := by
  have hpk : parent ∈ known := h.parentsFirst.1
  have hck : child ∉ known := h.fresh child List.mem_cons_self
  refine ⟨?_, ?_, ?_, ?_, (List.nodup_cons.mp h.nodup).1⟩
  · exact Option.isSome_iff_exists.mp
      (ExtTreeMap.mem_iff_isSome_getElem?.mp (h.known_mem parent hpk))
  · exact Option.isSome_iff_exists.mp
      (ExtTreeMap.mem_iff_isSome_getElem?.mp (h.reached_mem child List.mem_cons_self))
  · rintro rfl
    exact hck hpk
  · exact fun hm => h.fresh parent (List.mem_cons_of_mem _ hm) hpk

theorem getElem?_insert_ne {name other : String} (h : name ≠ other) (info : Lineage) :
    (lineage.insert name info)[other]? = lineage[other]? := by
  rw [ExtTreeMap.getElem?_insert, if_neg (by simpa using h)]

/-- The edges of links do not depend on entries of classes that they do not reach. -/
theorem flatMap_linkEdges_insert {after : ExtTreeMap String Lineage} {child : String}
    (info : Lineage) (h : child ∉ reached steps) :
    (steps.filterMap Step.link?).flatMap (linkEdges usage after (lineage.insert child info)) =
      (steps.filterMap Step.link?).flatMap (linkEdges usage after lineage) := by
  refine List.flatMap_congr ?_
  rintro ⟨p, c⟩ hm
  have hne : child ≠ c := by
    rintro rfl
    exact h (List.mem_map_of_mem hm)
  simp only [linkEdges, getElem?_insert_ne hne]

theorem walk_enter {top : String} (h : top ∈ children) :
    walk usage children lineage (.enter top :: steps) =
      ⟨(walk usage children lineage steps).lineage,
        top :: (walk usage children lineage steps).entered,
        (walk usage children lineage steps).edges.map ([] ++ ·)⟩ := by
  simp [walk, takeStep, h, Step.top?]

/-- A link draws its edges and goes on from the new entry of the subclass. -/
theorem walk_link {parent child : String} {above info : Lineage} {later : Walk}
    (hp : lineage[parent]? = some above) (hc : lineage[child]? = some info)
    (hl : walk usage children
      (lineage.insert child (inherit usage child info above.methods.toList)) steps = later) :
    walk usage children lineage (.link parent child :: steps) =
      ⟨later.lineage, later.entered, later.edges.map
        ((above.methods.toList.filterMap fun (signature, access) =>
          linkEdge? usage parent child info signature access) ++ ·)⟩ := by
  simp [walk, takeStep, hp, hc, hl, Step.top?]

/-- **What the walk leaves behind**, by induction on the steps: a later step finds the entries that
this one needs as they are now. -/
theorem walked_of_walkable (h : Walkable children lineage known steps) :
    Walked usage lineage steps (walk usage children lineage steps) := by
  induction steps generalizing lineage known with
  | nil => exact ⟨fun _ _ => rfl, by simp, rfl⟩
  | cons step rest ih =>
    cases step with
    | enter top =>
      have hw := ih h.of_enter
      rw [walk_enter (h.entered top List.mem_cons_self)]
      refine ⟨hw.frame, hw.inherits, ?_⟩
      show Except.map _ (walk usage children lineage rest).edges = _
      rw [hw.edges]
      rfl
    | link parent child =>
      obtain ⟨⟨above, habove⟩, ⟨info, hinfo⟩, hne, hpr, hcr⟩ := h.link_cases
      have hw := ih (h.of_link (inherit usage child info above.methods.toList))
      -- The state after the whole walk, which starts from this link's new entry.
      generalize hlater : walk usage children
        (lineage.insert child (inherit usage child info above.methods.toList)) rest = later at hw
      have hparent : later.lineage[parent]? = some above := by
        rw [hw.frame parent hpr, getElem?_insert_ne (Ne.symm hne), habove]
      have hchild : later.lineage[child]? =
          some (inherit usage child info above.methods.toList) := by
        rw [hw.frame child hcr, ExtTreeMap.getElem?_insert_self]
      rw [walk_link habove hinfo hlater]
      refine ⟨?_, ?_, ?_⟩
      · intro name hm
        rw [reached_link, List.mem_cons, not_or] at hm
        show later.lineage[name]? = _
        rw [hw.frame name hm.2, getElem?_insert_ne (Ne.symm hm.1)]
      · intro p c hm
        rcases List.mem_cons.mp hm with he | hm
        · obtain ⟨rfl, rfl⟩ := Prod.mk.inj he
          exact ⟨above, info, hparent, hinfo, hchild⟩
        · obtain ⟨above', info', hp', hi', hc'⟩ := hw.inherits p c hm
          have hcne : child ≠ c := by
            rintro rfl
            exact hcr (List.mem_map_of_mem hm)
          rw [getElem?_insert_ne hcne] at hi'
          exact ⟨above', info', hp', hi', hc'⟩
      · show Except.map _ later.edges = _
        rw [hw.edges, flatMap_linkEdges_insert _ hcr]
        show Except.ok _ = Except.ok (((parent, child) :: rest.filterMap Step.link?).flatMap
          (linkEdges usage later.lineage lineage))
        rw [List.flatMap_cons]
        simp only [linkEdges, hparent, hinfo]

/-! ## The steps from top classes -/

theorem ParentsFirst.mono {known known' : List String} {steps : List Step}
    (h : ParentsFirst known steps) (hs : known ⊆ known') : ParentsFirst known' steps := by
  induction steps generalizing known known' with
  | nil => trivial
  | cons step rest ih =>
    cases step with
    | enter top => exact ih h hs
    | link parent child => exact ⟨hs h.1, ih h.2 (List.cons_subset_cons child hs)⟩

theorem ParentsFirst.append {known : List String} {steps steps' : List Step}
    (h : ParentsFirst known steps) (h' : ParentsFirst known steps') :
    ParentsFirst known (steps ++ steps') := by
  induction steps generalizing known with
  | nil => exact h'
  | cons step rest ih =>
    cases step with
    | enter top => exact ih h h'
    | link parent child => exact ⟨h.1, ih h.2 (h'.mono (List.subset_cons_self child known))⟩

theorem ParentsFirst.flatMap {α : Type} {known : List String} {l : List α} {f : α → List Step}
    (h : ∀ a ∈ l, ParentsFirst known (f a)) : ParentsFirst known (l.flatMap f) := by
  induction l with
  | nil => trivial
  | cons a rest ih =>
    rw [List.flatMap_cons]
    exact (h a List.mem_cons_self).append (ih fun b hb => h b (List.mem_cons_of_mem _ hb))

/-- The steps that follow links. -/
def stepsAlong (links : List (String × String)) : List Step :=
  links.map fun (parent, child) => .link parent child

/-- Below a known class the walk never gets ahead of itself. -/
theorem parentsFirst_linksBelow {known : List String} {root : String} (h : root ∈ known) :
    ParentsFirst known (stepsAlong (linksBelow children root)) := by
  induction children, root using linksBelow.induct generalizing known with
  | case1 children root hnone =>
    rw [linksBelow_eq]
    simp [childrenOf, hnone, stepsAlong, ParentsFirst]
  | case2 children root names _ ih =>
    rw [linksBelow_eq, stepsAlong, List.map_flatMap]
    refine ParentsFirst.flatMap fun name _ => ⟨h, ih name List.mem_cons_self⟩

/-- The steps of a walk that begins at some of the top classes. -/
def stepsFrom (children : ExtTreeMap String (List String)) (tops : List String) : List Step :=
  tops.flatMap fun top => .enter top :: stepsAlong (linksBelow children top)

theorem steps_eq (facts : Facts) : facts.steps = stepsFrom facts.children facts.tops := rfl

theorem filterMap_link?_stepsAlong (links : List (String × String)) :
    (stepsAlong links).filterMap Step.link? = links := by
  unfold stepsAlong
  rw [List.filterMap_map]
  exact List.filterMap_some

theorem filterMap_link?_stepsFrom (children : ExtTreeMap String (List String))
    (tops : List String) :
    (stepsFrom children tops).filterMap Step.link? = tops.flatMap (linksBelow children) := by
  unfold stepsFrom
  rw [List.filterMap_flatMap]
  refine List.flatMap_congr fun top _ => ?_
  exact filterMap_link?_stepsAlong _

theorem mem_of_enter_mem_stepsFrom {tops : List String} {top : String}
    (h : .enter top ∈ stepsFrom children tops) : top ∈ tops := by
  obtain ⟨t, ht, hm⟩ := List.mem_flatMap.mp h
  rcases List.mem_cons.mp hm with he | hm
  · obtain rfl := Step.enter.inj he
    exact ht
  · obtain ⟨link, -, he⟩ := List.mem_map.mp hm
    simp at he

/-- **The walk from top classes with subclasses can be taken to its end.** -/
theorem walkable_stepsFrom {facts : Facts} (h : IsForest facts) {tops : List String}
    (hs : tops ⊆ facts.tops) (hn : tops.Nodup) (hc : ∀ top ∈ tops, top ∈ facts.children) :
    Walkable facts.children facts.lineage facts.tops (stepsFrom facts.children tops) := by
  have hreached : reached (stepsFrom facts.children tops) =
      (tops.flatMap (linksBelow facts.children)).map Prod.snd := by
    unfold reached
    rw [filterMap_link?_stepsFrom]
  refine ⟨fun top ht => hc top (mem_of_enter_mem_stepsFrom ht), ?_, ?_, ?_, ?_, ?_⟩
  · exact ParentsFirst.flatMap fun top ht => parentsFirst_linksBelow (hs ht)
  · rw [hreached]
    exact h.nodup_reached hs hn
  · intro name hm
    rw [hreached] at hm
    exact (h.of_mem_reached hm).1
  · intro name hm
    obtain ⟨info, hi, -⟩ := mem_tops.mp hm
    exact ExtTreeMap.mem_iff_isSome_getElem?.mpr (by rw [hi]; rfl)
  · intro name hm
    rw [hreached] at hm
    exact (h.of_mem_reached hm).2

/-! ## How the walk ends -/

theorem map_eq_error_iff {ε α β : Type} {x : Except ε α} {f : α → β} {e : ε} :
    x.map f = .error e ↔ x = .error e := by
  cases x <;> simp [Except.map]

/-- After steps that can be taken, the walk goes on from what they leave behind. -/
theorem walk_append_of_ok {steps : List Step} {edges : List Edge}
    (h : (walk usage children lineage steps).edges = .ok edges) (steps' : List Step) :
    (walk usage children lineage (steps ++ steps')).lineage =
        (walk usage children (walk usage children lineage steps).lineage steps').lineage ∧
      (walk usage children lineage (steps ++ steps')).edges =
        (walk usage children (walk usage children lineage steps).lineage steps').edges.map
          (edges ++ ·) := by
  induction steps generalizing lineage edges with
  | nil =>
    obtain rfl := Except.ok.inj h
    refine ⟨rfl, ?_⟩
    rw [List.nil_append, walk]
    cases (walk usage children lineage steps').edges <;> rfl
  | cons step rest ih =>
    rw [walk] at h
    rw [List.cons_append, walk, walk]
    cases hstep : takeStep usage children lineage step with
    | error e =>
      rw [hstep] at h
      simp at h
    | ok result =>
      obtain ⟨lineage', drawn⟩ := result
      rw [hstep] at h
      obtain ⟨more, hmore, rfl⟩ := exists_of_map_eq_ok h
      obtain ⟨hl, he⟩ := ih hmore
      refine ⟨hl, ?_⟩
      simp only [he]
      cases (walk usage children (walk usage children lineage' rest).lineage steps').edges with
      | error e => rfl
      | ok last => simp [Except.map]

/-- A failure ends the walk, whatever steps are left. -/
theorem walk_append_of_error {steps : List Step} {e : HierarchyError}
    (h : (walk usage children lineage steps).edges = .error e) (steps' : List Step) :
    (walk usage children lineage (steps ++ steps')).edges = .error e := by
  induction steps generalizing lineage with
  | nil => simp [walk] at h
  | cons step rest ih =>
    rw [walk] at h
    rw [List.cons_append, walk]
    cases hstep : takeStep usage children lineage step with
    | error e' =>
      rw [hstep] at h
      exact h
    | ok result =>
      rw [hstep] at h
      exact map_eq_error_iff.mpr (ih (map_eq_error_iff.mp h))

/-- A top class without subclasses ends the walk, whatever steps are left. -/
theorem walk_append_enter {steps steps' : List Step} {top : String} {edges : List Edge}
    (h : (walk usage children lineage steps).edges = .ok edges) (ht : top ∉ children) :
    (walk usage children lineage (steps ++ .enter top :: steps')).edges =
      .error (.noSubclasses top) := by
  have hf : children.contains top = false := by
    rw [← Bool.not_eq_true, ExtTreeMap.contains_iff_mem]
    exact ht
  rw [(walk_append_of_ok h _).2]
  simp [walk, takeStep, hf, Except.map]

/-- **The walk fails at the first top class without subclasses, and nowhere else.** -/
theorem hierarchyWalk_error {facts : Facts} (h : IsForest facts) {top : String}
    (ht : facts.tops.find? (fun t => !facts.children.contains t) = some top) :
    facts.hierarchyWalk.edges = .error (.noSubclasses top) := by
  obtain ⟨htop, before, after, hsplit, hbefore⟩ := List.find?_eq_some_iff_append.mp ht
  have hn : (before ++ top :: after).Nodup := hsplit ▸ nodup_tops facts
  have hc : ∀ t ∈ before, t ∈ facts.children := by
    intro t hm
    have := hbefore t hm
    rw [Bool.not_not] at this
    exact ExtTreeMap.mem_iff_contains.mpr this
  have hw : Walked facts.usage facts.lineage (stepsFrom facts.children before)
      (walk facts.usage facts.children facts.lineage (stepsFrom facts.children before)) :=
    walked_of_walkable (walkable_stepsFrom h (by rw [hsplit]; exact List.subset_append_left _ _)
      (List.nodup_append.mp hn).1 hc)
  have hmiss : top ∉ facts.children := by
    intro hm
    rw [ExtTreeMap.mem_iff_contains.mp hm] at htop
    simp at htop
  unfold hierarchyWalk
  rw [steps_eq, hsplit, stepsFrom, List.flatMap_append, List.flatMap_cons, List.cons_append]
  exact walk_append_enter hw.edges hmiss

/-- Where every top class has subclasses, the walk comes to its end. -/
theorem walked_hierarchyWalk {facts : Facts} (h : IsForest facts)
    (ht : facts.tops.find? (fun t => !facts.children.contains t) = none) :
    Walked facts.usage facts.lineage facts.steps facts.hierarchyWalk := by
  refine walked_of_walkable (walkable_stepsFrom h (List.Subset.refl _) (nodup_tops facts) ?_)
  intro top hm
  have := List.find?_eq_none.mp ht top hm
  rw [Bool.not_eq_true, Bool.not_eq_false'] at this
  exact ExtTreeMap.mem_iff_contains.mpr this

end CallGraph.Facts
