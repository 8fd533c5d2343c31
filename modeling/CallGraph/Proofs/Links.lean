import CallGraph.Proofs.Forest
import Mathlib.Data.List.Nodup
import Mathlib.Logic.Relation

/-!
# The links of a walk

A walk goes from each top class to its subclasses, from these to theirs, and so on. Which links it
follows depends on the lists of subclasses alone. `linksBelow` strikes a class off before it goes
on below it; where each class is listed once, this makes no difference to what is reached.

* `nodup_linksBelow` — no class is reached twice
* `linksBelow_closed` — what is listed under a reached class is reached
* `mem_links_iff` — the links are the steps of the chains that lead up to a top class
-/

namespace CallGraph.Facts

open Std (ExtTreeMap)
open Relation (ReflTransGen)

/-! ## Lists of subclasses -/

/-- Each class is listed at most once, and under one class only. -/
structure Branching (children : ExtTreeMap String (List String)) : Prop where
  nodup : ∀ parent, (childrenOf children parent).Nodup
  parent_unique : ∀ {parent parent' child : String}, child ∈ childrenOf children parent →
    child ∈ childrenOf children parent' → parent = parent'

/-- The class `child` is listed under `parent`. -/
def ListedUnder (children : ExtTreeMap String (List String)) (child parent : String) : Prop :=
  child ∈ childrenOf children parent

variable {children : ExtTreeMap String (List String)}

theorem childrenOf_erase (children : ExtTreeMap String (List String)) (struck parent : String) :
    childrenOf (children.erase struck) parent =
      if struck = parent then [] else childrenOf children parent := by
  unfold childrenOf
  rw [ExtTreeMap.getElem?_erase]
  by_cases h : struck = parent
  · simp [h]
  · simp [h]

theorem ListedUnder.of_erase {struck child parent : String}
    (h : ListedUnder (children.erase struck) child parent) :
    ListedUnder children child parent ∧ struck ≠ parent := by
  unfold ListedUnder at h ⊢
  rw [childrenOf_erase] at h
  split at h
  · simp at h
  · next hne => exact ⟨h, hne⟩

theorem Branching.erase (h : Branching children) (struck : String) :
    Branching (children.erase struck) where
  nodup := by
    intro parent
    rw [childrenOf_erase]
    split
    · exact List.nodup_nil
    · exact h.nodup parent
  parent_unique := fun ha hb => h.parent_unique (ListedUnder.of_erase ha).1 (ListedUnder.of_erase hb).1

/-- Once its superclass is struck off, a class is listed nowhere. -/
theorem Branching.not_listedUnder_erase (h : Branching children) {parent child : String}
    (hc : child ∈ childrenOf children parent) (other : String) :
    ¬ ListedUnder (children.erase parent) child other := by
  intro hl
  obtain ⟨ho, hne⟩ := hl.of_erase
  exact hne (h.parent_unique hc ho)

/-- Two classes that are listed nowhere have nothing below them in common. -/
theorem Branching.root_unique (h : Branching children) {x r r' : String}
    (hr : ∀ parent, ¬ ListedUnder children r parent)
    (hr' : ∀ parent, ¬ ListedUnder children r' parent)
    (hx : ReflTransGen (ListedUnder children) x r)
    (hx' : ReflTransGen (ListedUnder children) x r') : r = r' := by
  have hru : Relator.RightUnique (ListedUnder children) := fun _ _ _ ha hb => h.parent_unique ha hb
  rcases ReflTransGen.total_of_right_unique hru hx hx' with hp | hp
  · rcases ReflTransGen.cases_head hp with he | ⟨p, hl, -⟩
    · exact he
    · exact absurd hl (hr p)
  · rcases ReflTransGen.cases_head hp with he | ⟨p, hl, -⟩
    · exact he.symm
    · exact absurd hl (hr' p)

/-! ## Links below a class -/

theorem linksBelow_eq (children : ExtTreeMap String (List String)) (parent : String) :
    linksBelow children parent = (childrenOf children parent).flatMap fun name =>
      (parent, name) :: linksBelow (children.erase parent) name := by
  rw [linksBelow]
  unfold childrenOf
  split
  · next h => simp [h]
  · next names h => simp [h]

theorem mem_linksBelow_iff {root : String} {link : String × String} :
    link ∈ linksBelow children root ↔
      ∃ name ∈ childrenOf children root,
        link = (root, name) ∨ link ∈ linksBelow (children.erase root) name := by
  rw [linksBelow_eq, List.mem_flatMap]
  simp only [List.mem_cons]

/-- A link leads to a class listed under its start, and its start lies below the root. -/
theorem listedUnder_of_mem_linksBelow {root parent child : String}
    (h : (parent, child) ∈ linksBelow children root) :
    ListedUnder children child parent ∧ ReflTransGen (ListedUnder children) parent root := by
  induction children, root using linksBelow.induct with
  | case1 children root hnone =>
    obtain ⟨name, hm, -⟩ := mem_linksBelow_iff.mp h
    simp [childrenOf, hnone] at hm
  | case2 children root names _ ih =>
    obtain ⟨name, hm, he | hl⟩ := mem_linksBelow_iff.mp h
    · obtain ⟨rfl, rfl⟩ := Prod.mk.inj he
      exact ⟨hm, .refl⟩
    · obtain ⟨hlist, hup⟩ := ih name hl
      refine ⟨hlist.of_erase.1, ?_⟩
      exact (ReflTransGen.mono (fun _ _ ha => ha.of_erase.1) _ _ hup).tail hm

theorem reflTransGen_of_mem_reached {root x : String}
    (h : x ∈ root :: (linksBelow children root).map Prod.snd) :
    ReflTransGen (ListedUnder children) x root := by
  rcases List.mem_cons.mp h with rfl | hm
  · exact .refl
  · obtain ⟨⟨parent, child⟩, hl, rfl⟩ := List.mem_map.mp hm
    obtain ⟨hlist, hup⟩ := listedUnder_of_mem_linksBelow hl
    exact hup.head hlist

/-- **No class is reached twice.** -/
theorem nodup_linksBelow (h : Branching children) (root : String) :
    ((linksBelow children root).map Prod.snd).Nodup := by
  induction children, root using linksBelow.induct with
  | case1 children root hnone =>
    rw [linksBelow_eq]
    simp [childrenOf, hnone]
  | case2 children root names _ ih =>
    have horphan : ∀ name ∈ childrenOf children root, ∀ parent,
        ¬ ListedUnder (children.erase root) name parent :=
      fun name hm parent => h.not_listedUnder_erase hm parent
    rw [linksBelow_eq, List.map_flatMap, List.nodup_flatMap]
    refine ⟨?_, ?_⟩
    · intro name hm
      rw [List.map_cons, List.nodup_cons]
      refine ⟨?_, ih name (h.erase root)⟩
      intro hc
      obtain ⟨⟨parent, child⟩, hl, rfl⟩ := List.mem_map.mp hc
      exact horphan child hm parent (listedUnder_of_mem_linksBelow hl).1
    · -- A class in two branches would lie below two siblings, which are listed nowhere by now.
      refine (h.nodup root).pairwise_of_forall_ne ?_
      intro a ha b hb hab x hxa hxb
      exact hab ((h.erase root).root_unique (horphan a ha) (horphan b hb)
        (reflTransGen_of_mem_reached hxa) (reflTransGen_of_mem_reached hxb))

/-- What is listed under a reached class is reached from there. -/
theorem linksBelow_closed (h : Branching children) {root parent middle child : String}
    (hm : (parent, middle) ∈ linksBelow children root) (hne : middle ≠ root)
    (hc : child ∈ childrenOf children middle) : (middle, child) ∈ linksBelow children root := by
  induction children, root using linksBelow.induct with
  | case1 children root hnone =>
    obtain ⟨name, hn, -⟩ := mem_linksBelow_iff.mp hm
    simp [childrenOf, hnone] at hn
  | case2 children root names _ ih =>
    have hc' : child ∈ childrenOf (children.erase root) middle := by
      rw [childrenOf_erase, if_neg (Ne.symm hne)]
      exact hc
    obtain ⟨name, hn, he | hl⟩ := mem_linksBelow_iff.mp hm
    · obtain ⟨-, rfl⟩ := Prod.mk.inj he
      refine mem_linksBelow_iff.mpr ⟨middle, hn, Or.inr ?_⟩
      exact mem_linksBelow_iff.mpr ⟨child, hc', Or.inl rfl⟩
    · have hmn : middle ≠ name := by
        rintro rfl
        exact h.not_listedUnder_erase hn parent (listedUnder_of_mem_linksBelow hl).1
      exact mem_linksBelow_iff.mpr ⟨name, hn, Or.inr (ih name (h.erase root) hl hmn hc')⟩

/-! ## Chains of superclasses -/

/-- The superclasses of a class, from the nearest one up to a top class. -/
inductive Ancestry (facts : Facts) : String → List String → Prop
  | top {name : String} {info : Lineage} (known : facts.lineage[name]? = some info)
      (platform : ClassName.isPlatform info.superName = true) : Ancestry facts name []
  | step {name : String} {info : Lineage} {rest : List String}
      (known : facts.lineage[name]? = some info)
      (outside : ClassName.isPlatform info.superName = false)
      (up : Ancestry facts info.superName rest) : Ancestry facts name (info.superName :: rest)

variable {facts : Facts}

theorem Ancestry.unique {name : String} {rest rest' : List String}
    (h : Ancestry facts name rest) (h' : Ancestry facts name rest') : rest = rest' := by
  induction h generalizing rest' with
  | top hk hp =>
    cases h' with
    | top _ _ => rfl
    | step hk' ho' _ =>
      rw [hk] at hk'
      obtain rfl := Option.some.inj hk'
      rw [hp] at ho'
      simp at ho'
  | step hk ho _ ih =>
    cases h' with
    | top hk' hp' =>
      rw [hk] at hk'
      obtain rfl := Option.some.inj hk'
      rw [ho] at hp'
      simp at hp'
    | step hk' _ hu' =>
      rw [hk] at hk'
      obtain rfl := Option.some.inj hk'
      rw [ih hu']

/-- A top class is below no class. -/
theorem Ancestry.not_below {name : String} (h : Ancestry facts name []) (parent : String)
    (rest : List String) : ¬ Ancestry facts name (parent :: rest) := by
  intro hb
  have := h.unique hb
  simp at this

theorem mem_tops {name : String} :
    name ∈ facts.tops ↔ ∃ info, facts.lineage[name]? = some info ∧
      ClassName.isPlatform info.superName = true := by
  unfold tops
  simp only [List.mem_map, List.mem_filter, Prod.exists, ExtTreeMap.mem_toList_iff_getElem?_eq_some,
    exists_and_right, exists_eq_right]

theorem nodup_tops (facts : Facts) : facts.tops.Nodup := by
  unfold tops
  refine List.Nodup.sublist (List.filter_sublist.map Prod.fst) ?_
  rw [ExtTreeMap.map_fst_toList_eq_keys]
  exact ExtTreeMap.nodup_keys

/-- Every link of the forest, in the order in which the walk follows them. -/
def links (facts : Facts) : List (String × String) :=
  facts.tops.flatMap (linksBelow facts.children)

namespace IsForest

theorem branching (h : IsForest facts) : Branching facts.children where
  nodup := h.nodup
  parent_unique := by
    intro parent parent' child hc hc'
    obtain ⟨info, hi, hs, -⟩ := (h.mem_childrenOf parent child).mp hc
    obtain ⟨info', hi', hs', -⟩ := (h.mem_childrenOf parent' child).mp hc'
    rw [hi] at hi'
    obtain rfl := Option.some.inj hi'
    rw [← hs, ← hs']

/-- A top class is listed under no class. -/
theorem not_listedUnder_of_mem_tops (h : IsForest facts) {top : String} (ht : top ∈ facts.tops)
    (parent : String) : ¬ ListedUnder facts.children top parent := by
  intro hl
  obtain ⟨info, hi, hp⟩ := mem_tops.mp ht
  obtain ⟨info', hi', hs', ho'⟩ := (h.mem_childrenOf parent top).mp hl
  rw [hi] at hi'
  obtain rfl := Option.some.inj hi'
  rw [hs', ho'] at hp
  simp at hp

theorem ancestry_of_listedUnder (h : IsForest facts) {child parent : String} {rest : List String}
    (hl : ListedUnder facts.children child parent) (hup : Ancestry facts parent rest) :
    Ancestry facts child (parent :: rest) := by
  obtain ⟨info, hi, rfl, ho⟩ := (h.mem_childrenOf parent child).mp hl
  exact .step hi ho hup

/-- What lies below a top class has a chain that leads up to one. -/
theorem exists_ancestry (h : IsForest facts) {name top : String} (ht : top ∈ facts.tops)
    (hup : ReflTransGen (ListedUnder facts.children) name top) :
    ∃ rest, Ancestry facts name rest := by
  induction hup using ReflTransGen.head_induction_on with
  | refl =>
    obtain ⟨info, hi, hp⟩ := mem_tops.mp ht
    exact ⟨[], .top hi hp⟩
  | head hl _ ih =>
    obtain ⟨rest, hrest⟩ := ih
    exact ⟨_, h.ancestry_of_listedUnder hl hrest⟩

/-- A chain of superclasses ends at a top class, and the walk follows its first step. -/
theorem mem_linksBelow_of_ancestry (h : IsForest facts) {name : String} {rest : List String}
    (ha : Ancestry facts name rest) :
    ∃ top ∈ facts.tops, (name = top ∧ rest = []) ∨
      (name ≠ top ∧ ∃ parent above, rest = parent :: above ∧
        (parent, name) ∈ linksBelow facts.children top) := by
  induction ha with
  | @top name info hk hp => exact ⟨name, mem_tops.mpr ⟨info, hk, hp⟩, Or.inl ⟨rfl, rfl⟩⟩
  | @step name info above hk ho _ ih =>
    obtain ⟨top, ht, hcase⟩ := ih
    have hlist : name ∈ childrenOf facts.children info.superName :=
      (h.mem_childrenOf _ _).mpr ⟨info, hk, rfl, ho⟩
    have hne : name ≠ top := by
      rintro rfl
      exact h.not_listedUnder_of_mem_tops ht _ hlist
    refine ⟨top, ht, Or.inr ⟨hne, info.superName, above, rfl, ?_⟩⟩
    rcases hcase with ⟨he, -⟩ | ⟨hsne, parent, above', -, hl⟩
    · rw [← he]
      exact mem_linksBelow_iff.mpr ⟨name, hlist, Or.inl rfl⟩
    · exact linksBelow_closed h.branching hl hsne hlist

/-- **The links of the walk are the steps of the chains that lead up to a top class.** -/
theorem mem_links_iff (h : IsForest facts) {parent child : String} :
    (parent, child) ∈ facts.links ↔ ∃ rest, Ancestry facts child (parent :: rest) := by
  unfold links
  rw [List.mem_flatMap]
  constructor
  · rintro ⟨top, ht, hl⟩
    obtain ⟨hlist, hup⟩ := listedUnder_of_mem_linksBelow hl
    obtain ⟨rest, hrest⟩ := h.exists_ancestry ht hup
    exact ⟨rest, h.ancestry_of_listedUnder hlist hrest⟩
  · rintro ⟨rest, hrest⟩
    obtain ⟨top, ht, ⟨-, he⟩ | ⟨-, p, above, he, hl⟩⟩ := h.mem_linksBelow_of_ancestry hrest
    · simp at he
    · obtain ⟨rfl, rfl⟩ := List.cons.inj he
      exact ⟨top, ht, hl⟩

/-- No class is reached twice, whichever of the top classes a walk begins at. -/
theorem nodup_reached (h : IsForest facts) {tops : List String} (hs : tops ⊆ facts.tops)
    (hn : tops.Nodup) :
    ((tops.flatMap (linksBelow facts.children)).map Prod.snd).Nodup := by
  rw [List.map_flatMap, List.nodup_flatMap]
  refine ⟨fun top _ => nodup_linksBelow h.branching top, ?_⟩
  refine hn.pairwise_of_forall_ne ?_
  intro a ha b hb hab x hxa hxb
  exact hab (h.branching.root_unique (h.not_listedUnder_of_mem_tops (hs ha))
    (h.not_listedUnder_of_mem_tops (hs hb))
    (reflTransGen_of_mem_reached (List.mem_cons_of_mem _ hxa))
    (reflTransGen_of_mem_reached (List.mem_cons_of_mem _ hxb)))

/-- A reached class is listed somewhere, so it is no top class, and it has an entry. -/
theorem of_mem_reached (h : IsForest facts) {tops : List String} {name : String}
    (hm : name ∈ (tops.flatMap (linksBelow facts.children)).map Prod.snd) :
    name ∉ facts.tops ∧ name ∈ facts.lineage := by
  obtain ⟨⟨parent, child⟩, hl, rfl⟩ := List.mem_map.mp hm
  obtain ⟨top, -, hl⟩ := List.mem_flatMap.mp hl
  have hlist := (listedUnder_of_mem_linksBelow hl).1
  refine ⟨fun ht => h.not_listedUnder_of_mem_tops ht parent hlist, ?_⟩
  obtain ⟨info, hi, -⟩ := (h.mem_childrenOf parent child).mp hlist
  exact ExtTreeMap.mem_iff_isSome_getElem?.mpr (by rw [hi]; rfl)

end IsForest

end CallGraph.Facts
