import CallGraph.Proofs.Inheritance

/-!
# Passes in any order

An archive goes through its passes in a fixed order. That the entries of the classes and the lists of
their subclasses fit together does not depend on it: every pass keeps the forest, a walk that fails
included.

* `isForest_walk` — a walk changes what classes have, not where they are
* `isForest_performAll` — so passes leave a forest, whatever their order
* `nodup_children` — in a forest no class is listed twice, under one class or under two
-/

namespace CallGraph.Facts

open Std (ExtTreeMap)

/-- Something that is done to the facts about an archive. -/
inductive Pass
  | index (classes : List Class)
  | register (c : Class)
  | visit (c : Class) (archive : Nat)
  | propagateContracts
  /-- Walks the forest, to the end or until the walk fails. -/
  | resolveHierarchy
  /-- Notes a call. -/
  | record (owner signature : String)
deriving DecidableEq, Repr

/-- The facts after a pass. -/
def perform (facts : Facts) : Pass → Facts
  | .index classes => facts.index classes
  | .register c => facts.register c
  | .visit c archive => (facts.visit c archive).1
  | .propagateContracts => facts.propagateContracts
  | .resolveHierarchy => facts.resolveHierarchy.1
  | .record owner signature => { facts with usage := facts.usage.record owner signature }

/-- The facts after passes. -/
def performAll (facts : Facts) (passes : List Pass) : Facts := passes.foldl perform facts

variable {facts : Facts}

/-! ## The walk -/

/-- A class may get another entry with the same superclass. -/
theorem IsForest.insert_entry (h : IsForest facts) {name : String} {info info' : Lineage}
    (hk : facts.lineage[name]? = some info) (hs : info'.superName = info.superName)
    (hm : ∀ (s : String) (a : Access), info'.methods[s]? = some a → a.IsInheritable) :
    IsForest { facts with lineage := facts.lineage.insert name info' } where
  mem_childrenOf := by
    intro parent child
    refine (h.mem_childrenOf parent child).trans ?_
    by_cases hn : name = child
    · subst hn
      simp [hk, hs]
    · simp only [getElem?_insert_ne hn]
  nodup := h.nodup
  ne_nil := h.ne_nil
  participates := by
    intro other ho
    refine h.participates other ?_
    rcases ExtTreeMap.mem_insert.mp ho with he | ho
    · rw [← Std.LawfulEqCmp.eq_of_compare he]
      exact ExtTreeMap.mem_iff_isSome_getElem?.mpr (by rw [hk]; rfl)
    · exact ho
  inheritable := by
    intro other entry s a he ha
    by_cases hn : name = other
    · subst hn
      rw [ExtTreeMap.getElem?_insert_self] at he
      obtain rfl := Option.some.inj he
      exact hm s a ha
    · rw [getElem?_insert_ne hn] at he
      exact h.inheritable other entry s a he ha

/-- **A step of the walk keeps the forest:** a subclass takes over methods of its superclass. -/
theorem isForest_takeStep (h : IsForest facts) {usage : Usage} {step : Step}
    {lineage : ExtTreeMap String Lineage} {edges : List Edge}
    (hs : takeStep usage facts.children facts.lineage step = .ok (lineage, edges)) :
    IsForest { facts with lineage } := by
  cases step with
  | enter top =>
    simp only [takeStep] at hs
    split at hs
    · obtain ⟨rfl, -⟩ := Prod.mk.inj (Except.ok.inj hs)
      exact h
    · simp at hs
  | link parent child =>
    simp only [takeStep] at hs
    split at hs
    · simp at hs
    · next above hp =>
      split at hs
      · simp at hs
      · next info hc =>
        obtain ⟨rfl, -⟩ := Prod.mk.inj (Except.ok.inj hs)
        refine h.insert_entry hc rfl fun s a ha => ?_
        rcases (getElem?_inherit usage child info above.methods s a).mp ha with ha | ⟨ha, -⟩
        · exact h.inheritable child info s a hc ha
        · exact h.inheritable parent above s a hp ha

/-- **So does a walk, also one that fails.** -/
theorem isForest_walk (h : IsForest facts) (usage : Usage) (steps : List Step) :
    IsForest { facts with lineage := (walk usage facts.children facts.lineage steps).lineage } := by
  induction steps generalizing facts with
  | nil => exact h
  | cons step steps ih =>
    rw [walk]
    cases hs : takeStep usage facts.children facts.lineage step with
    | error e => exact h
    | ok result =>
      obtain ⟨lineage, edges⟩ := result
      exact ih (isForest_takeStep h hs)

/-! ## All passes -/

theorem isForest_perform (h : IsForest facts) (pass : Pass) : IsForest (facts.perform pass) := by
  cases pass with
  | index classes => exact isForest_index h classes
  | register c => exact isForest_register h c
  | visit c archive => exact (visitMethods_sameForest facts c archive c.methods).symm.isForest h
  | propagateContracts => exact isForest_propagateContracts h
  | resolveHierarchy => exact isForest_walk h facts.usage facts.steps
  | record owner signature =>
    have hsame : SameForest facts (facts.perform (.record owner signature)) := ⟨rfl, rfl, rfl⟩
    exact hsame.isForest h

/-- **Whatever passes are made, in whatever order, they leave a forest.** -/
theorem isForest_performAll (usage : Usage) (passes : List Pass) :
    IsForest ((ofUsage usage).performAll passes) := by
  have hrun : ∀ facts, IsForest facts → IsForest (performAll facts passes) := by
    unfold performAll
    induction passes with
    | nil => exact fun facts h => h
    | cons pass passes ih => exact fun facts h => ih _ (isForest_perform h pass)
  exact hrun _ (isForest_ofUsage usage)

/-! ## What holds in a forest -/

theorem childrenOf_eq {children : ExtTreeMap String (List String)} {parent : String}
    {names : List String} (h : children[parent]? = some names) :
    childrenOf children parent = names := by
  rw [childrenOf, h, Option.getD_some]

/-- No class is listed twice, neither under one class nor under two. -/
theorem IsForest.nodup_children (h : IsForest facts) :
    (facts.children.toList.flatMap Prod.snd).Nodup := by
  have hlist : ∀ entry ∈ facts.children.toList, childrenOf facts.children entry.1 = entry.2 :=
    fun _ he => childrenOf_eq (ExtTreeMap.mem_toList_iff_getElem?_eq_some.mp he)
  rw [List.nodup_flatMap]
  refine ⟨fun entry he => hlist entry he ▸ h.nodup entry.1, ?_⟩
  refine ExtTreeMap.distinct_keys_toList.imp_of_mem ?_
  intro entry entry' he he' hne name hn hn'
  rw [← hlist entry he] at hn
  rw [← hlist entry' he'] at hn'
  exact hne (by rw [h.branching.parent_unique hn hn']; exact Std.ReflCmp.compare_self)

/-- No subclasses are listed under classes of the platform. -/
theorem IsForest.isPlatform_of_mem_children (h : IsForest facts) {parent : String}
    (hp : parent ∈ facts.children) : ClassName.isPlatform parent = false := by
  obtain ⟨-, -, -, -, ho⟩ := (h.mem_children parent).mp hp
  exact ho

end CallGraph.Facts
