import CallGraph.Proofs.Passes
import Mathlib.Data.PFun

/-!
# Walking the forest with a stack

Hierarchies can be deep, so a walk had better not recurse. `Facts.stackWalk` walks the forest in a
loop over a stack of classes, each with the number of its subclasses that have been visited. The loop
keeps no record of where it has been. It ends because no class lies below itself under a top class,
although classes that extend each other may be listed elsewhere.

* `linksBelow_of_acyclic` — striking classes off does not change the order in which the recursion goes
  through them
* `round_cases`, `weight_round` — what a round of the loop does, and what gets less in it
* `run_eq` — the loop follows the links that the stack has left
* `stackWalk_eq` — the loop does what the recursion does, in every forest
* `stackWalk_performAll` — so it does after passes in any order
-/

namespace CallGraph.Facts

open Std (ExtTreeMap)
open Relation (ReflTransGen TransGen)

/-! ## The loop -/

/-- A class on the stack, and how many of its subclasses have been visited. -/
structure Frame where
  name : String
  visited : Nat
deriving DecidableEq, Repr

/-- The state of the loop. -/
structure Traversal where
  lineage : ExtTreeMap String Lineage
  edges : List Edge
  /-- The links followed so far. -/
  followed : List (String × String)
  /-- The classes that the loop is below, the innermost one first. -/
  stack : List Frame

/-- How a traversal ends: its edges, or why it failed. -/
def Traversal.outcome (t : Traversal) : Option HierarchyError → Except HierarchyError (List Edge)
  | none => .ok t.edges
  | some e => .error e

section
variable (usage : Usage) (children : ExtTreeMap String (List String))

/-- One round of the loop: follows the next link of the innermost class, and goes on below the
subclass if it has subclasses itself. A class without further subclasses leaves the stack. -/
def Traversal.round (t : Traversal) : Except HierarchyError Traversal :=
  match t.stack with
  | [] => .ok t
  | frame :: outer =>
    match (childrenOf children frame.name)[frame.visited]? with
    | none => .ok { t with stack := outer }
    | some child =>
      (takeStep usage children t.lineage (.link frame.name child)).map fun (lineage, edges) =>
        { lineage
          edges := t.edges ++ edges
          followed := t.followed ++ [(frame.name, child)]
          stack := (if children.contains child then [⟨child, 0⟩] else []) ++
            ⟨frame.name, frame.visited + 1⟩ :: outer }

/-- Makes a round, unless the loop is over: the stack is empty, or a link fails. -/
def Traversal.advance (t : Traversal) : (Traversal × Option HierarchyError) ⊕ Traversal :=
  if t.stack.isEmpty then .inl (t, none)
  else
    match t.round usage children with
    | .error e => .inl (t, some e)
    | .ok t => .inr t

/-- Makes rounds until the loop is over. There is no answer if that never happens. -/
def Traversal.run (t : Traversal) : Part (Traversal × Option HierarchyError) :=
  PFun.fix (fun t => Part.some (t.advance usage children)) t

/-- Goes on below a top class. -/
def walkFromTop (t : Traversal) (top : String) : Part (Traversal × Option HierarchyError) :=
  if children.contains top then Traversal.run usage children { t with stack := [⟨top, 0⟩] }
  else .some (t, some (.noSubclasses top))

/-- Goes on below top classes, one after the other. -/
def walkFromTops (t : Traversal) : List String → Part (Traversal × Option HierarchyError)
  | [] => .some (t, none)
  | top :: tops =>
    (walkFromTop usage children t top).bind fun ended =>
      if ended.2.isNone then walkFromTops ended.1 tops else .some ended

end

/-- Walks the whole forest with a stack. -/
def stackWalk (facts : Facts) : Part (Traversal × Option HierarchyError) :=
  walkFromTops facts.usage facts.children ⟨facts.lineage, [], [], []⟩ facts.tops

/-! ## Nothing below itself -/

variable {usage : Usage} {children : ExtTreeMap String (List String)} {facts : Facts}

/-- No class at or below `root` lies below itself. -/
def AcyclicBelow (children : ExtTreeMap String (List String)) (root : String) : Prop :=
  ∀ name, ReflTransGen (ListedUnder children) name root →
    ¬ TransGen (ListedUnder children) name name

theorem AcyclicBelow.below {root name : String} (h : AcyclicBelow children root)
    (hn : ReflTransGen (ListedUnder children) name root) : AcyclicBelow children name :=
  fun lower hl => h lower (hl.trans hn)

/-- The recursion looks only at the lists of classes that it comes to. -/
theorem linksBelow_congr {children' : ExtTreeMap String (List String)} {root : String}
    (h : ∀ name, ReflTransGen (ListedUnder children) name root →
      childrenOf children' name = childrenOf children name) :
    linksBelow children' root = linksBelow children root := by
  induction children, root using linksBelow.induct generalizing children' with
  | case1 children root hnone =>
    rw [linksBelow_eq, linksBelow_eq, h root .refl]
    simp [childrenOf, hnone]
  | case2 children root names _ ih =>
    rw [linksBelow_eq, linksBelow_eq children, h root .refl]
    refine List.flatMap_congr fun name hn => ?_
    rw [ih name]
    intro lower hl
    have hup := (ReflTransGen.mono (fun _ _ ha => ha.of_erase.1) _ _ hl).tail hn
    rw [childrenOf_erase, childrenOf_erase, h lower hup]

/-- **Where no class lies below itself, the links below a class are those to its subclasses, each
followed by the links below the subclass.** -/
theorem linksBelow_of_acyclic {root : String} (h : AcyclicBelow children root) :
    linksBelow children root = (childrenOf children root).flatMap fun name =>
      (root, name) :: linksBelow children name := by
  rw [linksBelow_eq]
  refine List.flatMap_congr fun name hn => ?_
  rw [linksBelow_congr]
  intro lower hl
  rw [childrenOf_erase, if_neg]
  rintro rfl
  exact h root .refl (TransGen.tail' hl hn)

namespace IsForest

/-- Going up shortens the chain of superclasses. -/
theorem exists_shorter_ancestry (h : IsForest facts) {name above : String}
    (hup : TransGen (ListedUnder facts.children) name above) {rest : List String}
    (ha : Ancestry facts name rest) :
    ∃ rest', Ancestry facts above rest' ∧ rest'.length < rest.length := by
  have hparent : ∀ {child parent : String} {rest : List String},
      ListedUnder facts.children child parent → Ancestry facts child rest →
      ∃ rest', Ancestry facts parent rest' ∧ rest'.length < rest.length := by
    intro child parent rest hl ha
    obtain ⟨info, hi, rfl, ho⟩ := (h.mem_childrenOf parent child).mp hl
    cases ha with
    | top hk hp =>
      rw [hi] at hk
      obtain rfl := Option.some.inj hk
      rw [ho] at hp
      simp at hp
    | step hk _ hup =>
      rw [hi] at hk
      obtain rfl := Option.some.inj hk
      exact ⟨_, hup, by simp⟩
  induction hup with
  | single hl => exact hparent hl ha
  | tail _ hl ih =>
    obtain ⟨middle, hm, hlt⟩ := ih
    obtain ⟨rest', hr, hlt'⟩ := hparent hl hm
    exact ⟨rest', hr, Nat.lt_trans hlt' hlt⟩

theorem acyclicBelow_of_mem_tops (h : IsForest facts) {top : String} (ht : top ∈ facts.tops) :
    AcyclicBelow facts.children top := by
  intro name hn hcycle
  obtain ⟨rest, ha⟩ := h.exists_ancestry ht hn
  obtain ⟨rest', ha', hlt⟩ := h.exists_shorter_ancestry hcycle ha
  rw [ha.unique ha'] at hlt
  exact Nat.lt_irrefl _ hlt

theorem acyclicBelow_of_ancestry (h : IsForest facts) {name : String} {rest : List String}
    (ha : Ancestry facts name rest) : AcyclicBelow facts.children name := by
  obtain ⟨top, ht, ⟨rfl, -⟩ | ⟨-, parent, -, -, hl⟩⟩ := h.mem_linksBelow_of_ancestry ha
  · exact h.acyclicBelow_of_mem_tops ht
  · obtain ⟨hlist, hup⟩ := listedUnder_of_mem_linksBelow hl
    exact (h.acyclicBelow_of_mem_tops ht).below (hup.head hlist)

end IsForest

/-! ## What the stack has left -/

/-- The links that a class on the stack has left. -/
def Frame.pending (children : ExtTreeMap String (List String)) (frame : Frame) :
    List (String × String) :=
  ((childrenOf children frame.name).drop frame.visited).flatMap fun child =>
    (frame.name, child) :: linksBelow children child

/-- The links that the stack has left, in the order in which the loop comes to them. -/
def pendingLinks (children : ExtTreeMap String (List String)) (stack : List Frame) :
    List (String × String) :=
  stack.flatMap (Frame.pending children)

/-- Nothing at or below a class on the stack lies below itself. -/
def AcyclicStack (children : ExtTreeMap String (List String)) (stack : List Frame) : Prop :=
  ∀ frame ∈ stack, AcyclicBelow children frame.name

theorem pending_of_none {frame : Frame}
    (h : (childrenOf children frame.name)[frame.visited]? = none) :
    frame.pending children = [] := by
  unfold Frame.pending
  rw [List.drop_eq_nil_of_le (List.getElem?_eq_none_iff.mp h), List.flatMap_nil]

theorem pending_of_some {frame : Frame} {child : String}
    (h : (childrenOf children frame.name)[frame.visited]? = some child) :
    frame.pending children = (frame.name, child) :: linksBelow children child ++
      Frame.pending children ⟨frame.name, frame.visited + 1⟩ := by
  obtain ⟨hlt, rfl⟩ := List.getElem?_eq_some_iff.mp h
  unfold Frame.pending
  rw [List.drop_eq_getElem_cons hlt, List.flatMap_cons]

/-- A subclass that goes on the stack has all links below it left; one that does not has none. -/
theorem pendingLinks_push {child : String} (h : AcyclicBelow children child) :
    pendingLinks children (if children.contains child then [⟨child, 0⟩] else []) =
      linksBelow children child := by
  unfold pendingLinks
  split
  · rw [List.flatMap_singleton, linksBelow_of_acyclic h]
    rfl
  · next hc =>
    have hnone : children[child]? = none :=
      ExtTreeMap.getElem?_eq_none fun hm => hc (ExtTreeMap.mem_iff_contains.mp hm)
    rw [linksBelow_eq, childrenOf, hnone]
    rfl

/-! ## One round -/

/-- **What a round does:** it drops a class that has no links left, or follows the next of all links
that are left. -/
theorem round_cases (usage : Usage) {t : Traversal} (ha : AcyclicStack children t.stack)
    (hne : t.stack ≠ []) :
    (∃ outer, t.round usage children = .ok { t with stack := outer } ∧
      AcyclicStack children outer ∧ pendingLinks children t.stack = pendingLinks children outer ∧
      outer.length < t.stack.length) ∨
    ∃ parent child stack,
      (t.round usage children =
        (takeStep usage children t.lineage (.link parent child)).map fun (lineage, edges) =>
          { lineage
            edges := t.edges ++ edges
            followed := t.followed ++ [(parent, child)]
            stack }) ∧
      AcyclicStack children stack ∧
      pendingLinks children t.stack = (parent, child) :: pendingLinks children stack ∧
      stack.length ≤ t.stack.length + 1 := by
  obtain ⟨frame, outer, hstack⟩ := List.exists_cons_of_ne_nil hne
  rw [hstack] at ha
  have houter : AcyclicStack children outer := fun f hf => ha f (List.mem_cons_of_mem _ hf)
  have hframe : AcyclicBelow children frame.name := ha frame List.mem_cons_self
  unfold Traversal.round
  rw [hstack]
  simp only
  cases hnext : (childrenOf children frame.name)[frame.visited]? with
  | none =>
    refine Or.inl ⟨outer, rfl, houter, ?_, Nat.lt_succ_self _⟩
    unfold pendingLinks
    rw [List.flatMap_cons, pending_of_none hnext, List.nil_append]
  | some child =>
    have hlist : ListedUnder children child frame.name := List.mem_of_getElem? hnext
    have hchild : AcyclicBelow children child := hframe.below (.single hlist)
    refine Or.inr ⟨frame.name, child, _, rfl, ?_, ?_, ?_⟩
    · intro f hf
      rcases List.mem_append.mp hf with hf | hf
      · split at hf
        · rw [List.mem_singleton.mp hf]
          exact hchild
        · simp at hf
      · rcases List.mem_cons.mp hf with rfl | hf
        · exact hframe
        · exact houter f hf
    · have hpush := pendingLinks_push hchild
      unfold pendingLinks at hpush ⊢
      rw [List.flatMap_cons, pending_of_some hnext, List.flatMap_append, List.flatMap_cons, hpush]
      simp
    · split <;> simp

/-- What gets less in every round. A link that is followed counts for more than the class that it
puts on the stack. -/
def Traversal.weight (children : ExtTreeMap String (List String)) (t : Traversal) : Nat :=
  2 * (pendingLinks children t.stack).length + t.stack.length

/-- **A round keeps cycles out of reach, and there is less to do after it.** -/
theorem weight_round {t t' : Traversal} (ha : AcyclicStack children t.stack) (hne : t.stack ≠ [])
    (h : t.round usage children = .ok t') :
    AcyclicStack children t'.stack ∧ t'.weight children < t.weight children := by
  unfold Traversal.weight
  rcases round_cases usage ha hne with
    ⟨outer, hr, ha', hp, hlt⟩ | ⟨parent, child, stack, hr, ha', hp, hle⟩
  · rw [hr] at h
    obtain rfl := Except.ok.inj h
    rw [hp]
    exact ⟨ha', Nat.add_lt_add_left hlt _⟩
  · rw [hr] at h
    obtain ⟨result, -, rfl⟩ := exists_of_map_eq_ok h
    refine ⟨ha', ?_⟩
    rw [hp, List.length_cons]
    simp only
    omega

/-! ## The whole loop -/

theorem run_of_advance_inl {t : Traversal} {ended : Traversal × Option HierarchyError}
    (h : t.advance usage children = .inl ended) : t.run usage children = .some ended :=
  Part.eq_some_iff.mpr (PFun.fix_stop (Part.mem_some_iff.mpr h.symm))

theorem run_of_nil {t : Traversal} (h : t.stack = []) : t.run usage children = .some (t, none) :=
  run_of_advance_inl (by simp [Traversal.advance, h])

theorem run_of_error {t : Traversal} {e : HierarchyError} (hne : t.stack ≠ [])
    (h : t.round usage children = .error e) : t.run usage children = .some (t, some e) :=
  run_of_advance_inl (by simp [Traversal.advance, hne, h])

theorem run_of_ok {t t' : Traversal} (hne : t.stack ≠ [])
    (h : t.round usage children = .ok t') : t.run usage children = t'.run usage children :=
  PFun.fix_fwd_eq (Part.mem_some_iff.mpr (by simp [Traversal.advance, hne, h]))

/-- **The loop ends,** by induction on what gets less in a round. -/
theorem exists_run_eq {t : Traversal} (ha : AcyclicStack children t.stack) :
    ∃ ended, t.run usage children = .some ended := by
  generalize hn : t.weight children = n
  induction n using Nat.strongRecOn generalizing t with
  | ind n ih =>
    by_cases hne : t.stack = []
    · exact ⟨_, run_of_nil hne⟩
    cases hr : t.round usage children with
    | error e => exact ⟨_, run_of_error hne hr⟩
    | ok t' =>
      obtain ⟨ha', hlt⟩ := weight_round ha hne hr
      rw [run_of_ok hne hr]
      exact ih _ (hn ▸ hlt) ha' rfl

/-- **It follows the links that the stack has left,** unless one of them fails. -/
theorem run_eq {t : Traversal} (ha : AcyclicStack children t.stack) {w : Walk} {edges : List Edge}
    (hw : walk usage children t.lineage (stepsAlong (pendingLinks children t.stack)) = w)
    (he : w.edges = .ok edges) :
    t.run usage children =
      .some (⟨w.lineage, t.edges ++ edges, t.followed ++ pendingLinks children t.stack, []⟩, none) := by
  generalize hn : t.weight children = n
  induction n using Nat.strongRecOn generalizing t w edges with
  | ind n ih =>
    by_cases hne : t.stack = []
    · rw [run_of_nil hne]
      obtain ⟨lineage, drawn, followed, stack⟩ := t
      obtain rfl : stack = [] := hne
      subst hw
      obtain rfl := Except.ok.inj he
      simp [pendingLinks, stepsAlong, walk]
    have hless : ∀ t', t.round usage children = .ok t' → t'.weight children < n :=
      fun t' hr => hn ▸ (weight_round ha hne hr).2
    rcases round_cases usage ha hne with
      ⟨outer, hr, ha', hp, -⟩ | ⟨parent, child, stack, hr, ha', hp, -⟩
    · rw [hp] at hw ⊢
      rw [run_of_ok hne hr]
      exact ih _ (hless _ hr) ha' hw he rfl
    · -- The walk takes the same first step, so the round cannot fail.
      have hcons : stepsAlong ((parent, child) :: pendingLinks children stack) =
          .link parent child :: stepsAlong (pendingLinks children stack) := rfl
      rw [hp, hcons, walk] at hw
      cases hs : takeStep usage children t.lineage (.link parent child) with
      | error e =>
        rw [hs] at hw
        subst hw
        simp at he
      | ok result =>
        rw [hs] at hr hw
        subst hw
        obtain ⟨more, hmore, rfl⟩ := exists_of_map_eq_ok he
        have hr : t.round usage children =
            .ok ⟨result.1, t.edges ++ result.2, t.followed ++ [(parent, child)], stack⟩ := hr
        rw [run_of_ok hne hr, hp]
        simpa using ih _ (hless _ hr) ha' rfl hmore rfl

theorem acyclicStack_singleton {top : String} (h : AcyclicBelow children top) :
    AcyclicStack children [⟨top, 0⟩] := by
  intro frame hf
  rw [List.mem_singleton.mp hf]
  exact h

/-- The loop below a top class does what the recursion does there. -/
theorem walkFromTop_eq {t : Traversal} {top : String} (ha : AcyclicBelow children top)
    (hc : top ∈ children) {edges : List Edge}
    (he : (walk usage children t.lineage (stepsAlong (linksBelow children top))).edges = .ok edges) :
    walkFromTop usage children t top =
      .some (⟨(walk usage children t.lineage (stepsAlong (linksBelow children top))).lineage,
        t.edges ++ edges, t.followed ++ linksBelow children top, []⟩, none) := by
  have hc : children.contains top = true := ExtTreeMap.mem_iff_contains.mp hc
  have hpending : pendingLinks children [⟨top, 0⟩] = linksBelow children top := by
    have hpush := pendingLinks_push ha
    rwa [if_pos hc] at hpush
  unfold walkFromTop
  rw [if_pos hc]
  have hrun := run_eq (t := { t with stack := [⟨top, 0⟩] }) (acyclicStack_singleton ha) rfl
    (by rw [hpending]; exact he)
  rw [hpending] at hrun
  exact hrun

/-- Links fail because a class has no entry, not because a top class has no subclasses. -/
theorem ne_noSubclasses_of_walk_error {lineage : ExtTreeMap String Lineage}
    {links : List (String × String)} {e : HierarchyError}
    (h : (walk usage children lineage (stepsAlong links)).edges = .error e) (top : String) :
    e ≠ .noSubclasses top := by
  induction links generalizing lineage with
  | nil => simp [stepsAlong, walk] at h
  | cons link links ih =>
    rw [stepsAlong, List.map_cons, walk] at h
    cases hs : takeStep usage children lineage (.link link.1 link.2) with
    | error e' =>
      rw [hs] at h
      obtain rfl := Except.error.inj h
      simp only [takeStep] at hs
      split at hs
      · obtain rfl := Except.error.inj hs
        simp
      · split at hs
        · obtain rfl := Except.error.inj hs
          simp
        · simp at hs
    | ok result =>
      rw [hs] at h
      exact ih (map_eq_error_iff.mp h)

/-- **From top class to top class the loop does what the recursion does.** It has followed all links
below the top classes that it came to the end of. -/
theorem walkFromTops_eq {tops : List String} (ha : ∀ top ∈ tops, AcyclicBelow children top)
    {t : Traversal}
    (he : ∀ e, (walk usage children t.lineage (stepsFrom children tops)).edges = .error e →
      ∃ top, e = .noSubclasses top) :
    ∃ t' failure finished, walkFromTops usage children t tops = .some (t', failure) ∧
      t'.lineage = (walk usage children t.lineage (stepsFrom children tops)).lineage ∧
      t'.outcome failure =
        (walk usage children t.lineage (stepsFrom children tops)).edges.map (t.edges ++ ·) ∧
      finished <+: tops ∧ t'.followed = t.followed ++ finished.flatMap (linksBelow children) ∧
      (failure = none → finished = tops) := by
  induction tops generalizing t with
  | nil =>
    refine ⟨t, none, [], rfl, rfl, ?_, List.nil_prefix, by simp, fun _ => rfl⟩
    simp [Traversal.outcome, stepsFrom, walk, Except.map]
  | cons top tops ih =>
    have hcons : stepsFrom children (top :: tops) =
        .enter top :: (stepsAlong (linksBelow children top) ++ stepsFrom children tops) := by
      unfold stepsFrom
      rw [List.flatMap_cons, List.cons_append]
    rw [walkFromTops]
    by_cases hc : top ∈ children
    · have henter : walk usage children t.lineage (.enter top ::
          (stepsAlong (linksBelow children top) ++ stepsFrom children tops)) = _ := walk_enter hc
      have hempty : ∀ x : Except HierarchyError (List Edge), x.map ([] ++ ·) = x := by
        intro x
        cases x <;> rfl
      rw [hcons, henter] at he ⊢
      simp only [hempty] at he ⊢
      cases hl : (walk usage children t.lineage (stepsAlong (linksBelow children top))).edges with
      | error e =>
        obtain ⟨top', rfl⟩ := he e (walk_append_of_error hl _)
        exact absurd rfl (ne_noSubclasses_of_walk_error hl top')
      | ok edges =>
        obtain ⟨hlineage, hedges⟩ := walk_append_of_ok hl (stepsFrom children tops)
        rw [hlineage, hedges]
        rw [hedges] at he
        rw [walkFromTop_eq (ha top List.mem_cons_self) hc hl, Part.bind_some]
        obtain ⟨t', failure, finished, hrun, hlin, hout, hpre, hfol, hall⟩ := ih
          (fun top h => ha top (List.mem_cons_of_mem _ h))
          (t := ⟨_, t.edges ++ edges, t.followed ++ linksBelow children top, []⟩)
          (fun e h => he e (map_eq_error_iff.mpr h))
        refine ⟨t', failure, top :: finished, (if_pos rfl).trans hrun, hlin, ?_, ?_, ?_, ?_⟩
        · rw [hout]
          cases (walk usage children _ (stepsFrom children tops)).edges <;> simp [Except.map]
        · exact (List.prefix_cons_inj top).mpr hpre
        · rw [hfol, List.flatMap_cons, List.append_assoc]
        · exact fun hnone => by rw [hall hnone]
    · have hf : children.contains top = false := by
        rw [← Bool.not_eq_true, ExtTreeMap.contains_iff_mem]
        exact hc
      refine ⟨t, some (.noSubclasses top), [], ?_, ?_, ?_, List.nil_prefix, by simp, by simp⟩
      · simp [walkFromTop, hf]
      · simp [hcons, walk, takeStep, hf]
      · simp [hcons, walk, takeStep, hf, Except.map, Traversal.outcome]

/-- **In every forest the loop ends and does what the recursion does.** -/
theorem stackWalk_eq (h : IsForest facts) :
    ∃ t failure finished, facts.stackWalk = .some (t, failure) ∧
      facts.resolveHierarchy = ({ facts with lineage := t.lineage }, t.outcome failure) ∧
      finished <+: facts.tops ∧ t.followed = finished.flatMap (linksBelow facts.children) ∧
      (failure = none → finished = facts.tops) := by
  have he : ∀ e, facts.hierarchyWalk.edges = .error e → ∃ top, e = .noSubclasses top := by
    intro e he
    cases ht : facts.tops.find? (fun t => !facts.children.contains t) with
    | none =>
      rw [(walked_hierarchyWalk h ht).edges] at he
      simp at he
    | some top =>
      rw [hierarchyWalk_error h ht] at he
      exact ⟨top, (Except.error.inj he).symm⟩
  obtain ⟨t, failure, finished, hrun, hlin, hout, hpre, hfol, hall⟩ :=
    walkFromTops_eq (t := ⟨facts.lineage, [], [], []⟩)
      (fun top ht => h.acyclicBelow_of_mem_tops ht) he
  refine ⟨t, failure, finished, hrun, ?_, hpre, by simpa using hfol, hall⟩
  unfold resolveHierarchy hierarchyWalk
  rw [hlin, hout, steps_eq]
  cases (walk facts.usage facts.children facts.lineage
    (stepsFrom facts.children facts.tops)).edges <;> simp [Except.map]

/-- **Passes in any order leave a forest, and the walk over it with a stack ends.** The entries of the
classes and the lists of subclasses fit together, no class is listed twice, and nothing is listed
under classes of the platform. Below every top class the loop ends, whatever it finds there. In the
whole walk it comes to no class twice, and it leaves the same forest and the same edges, or fails in
the same way, as going through the subclasses of each class by recursion. -/
theorem stackWalk_performAll (usage : Usage) (passes : List Pass) :
    let facts := (ofUsage usage).performAll passes
    IsForest facts ∧ (facts.children.toList.flatMap Prod.snd).Nodup ∧
    (∀ parent ∈ facts.children, ClassName.isPlatform parent = false) ∧
    (∀ top ∈ facts.tops, ∀ t, ∃ ended,
      walkFromTop facts.usage facts.children t top = .some ended) ∧
    (∃ t failure, facts.stackWalk = .some (t, failure) ∧ (t.followed.map Prod.snd).Nodup ∧
      facts.resolveHierarchy = ({ facts with lineage := t.lineage }, t.outcome failure) ∧
      (failure = none → t.followed = facts.tops.flatMap (linksBelow facts.children))) ∧
    ∀ name rest, Ancestry facts name rest →
      linksBelow facts.children name = (childrenOf facts.children name).flatMap fun child =>
        (name, child) :: linksBelow facts.children child := by
  intro facts
  have h : IsForest facts := isForest_performAll usage passes
  refine ⟨h, h.nodup_children, fun _ hp => h.isPlatform_of_mem_children hp, ?_, ?_, ?_⟩
  · intro top ht t
    unfold walkFromTop
    split
    · exact exists_run_eq (acyclicStack_singleton (h.acyclicBelow_of_mem_tops ht))
    · exact ⟨_, rfl⟩
  · obtain ⟨t, failure, finished, hrun, heq, hpre, hfol, hall⟩ := stackWalk_eq h
    refine ⟨t, failure, hrun, ?_, heq, fun hnone => by rw [hfol, hall hnone]⟩
    rw [hfol]
    exact h.nodup_reached hpre.subset ((nodup_tops facts).sublist hpre.sublist)
  · intro name rest ha
    exact linksBelow_of_acyclic (h.acyclicBelow_of_ancestry ha)

/-- Classes that extend themselves or each other, beside a small tree. -/
def tangle : List Class :=
  [⟨"Mirror", some "Mirror", [], false, false, [], [], []⟩,
   ⟨"Hen", some "Egg", [], false, false, [], [], []⟩,
   ⟨"Egg", some "Hen", [], false, false, [], [], []⟩,
   ⟨"Square", some "Shape", [], false, false, [], [], []⟩,
   ⟨"Shape", none, [], false, true, [], [], []⟩]

example :
    let facts := (ofUsage .empty).performAll (.index tangle :: tangle.map .register)
    facts.children.toList =
        [("Egg", ["Hen"]), ("Hen", ["Egg"]), ("Mirror", ["Mirror"]), ("Shape", ["Square"])] ∧
      facts.links = [("Shape", "Square")] := by
  decide +kernel

end CallGraph.Facts
