import CallGraph.Proofs.Occurrence
import Mathlib.Data.List.Forall2

/-!
# The calls as they stand in the code

The calls of a method are found by going through the code with the instruction before at hand. Here
they are described by position: the call instructions in order, and behind each the method that is
handed to it, if the instruction right before makes a function object of one.

* `Class.HandedTo` — the method reference that a call is handed, as it stands in the code
* `Class.getElem?_withPrevious` — going through the code with the instruction before
* `Class.referenceAt?_eq` — the method reference at a position is found on the way
* `Class.calls_inBlocks` — the calls of a method, call instruction by call instruction
* `occurrences_inBlocks` — the calls of an archive, class by class and method by method
-/

namespace CallGraph

/-! ## Blocks -/

/-- The list is one block after the other, one for each item. -/
def InBlocks {α β : Type} (IsBlock : α → List β → Prop) (items : List α) (all : List β) : Prop :=
  ∃ blocks, List.Forall₂ IsBlock items blocks ∧ all = blocks.flatten

namespace InBlocks

variable {α β γ : Type} {IsBlock : α → List β → Prop}

theorem nil : InBlocks IsBlock [] [] := ⟨[], .nil, rfl⟩

theorem cons {item : α} {items : List α} {block all : List β} (h : IsBlock item block)
    (hrest : InBlocks IsBlock items all) : InBlocks IsBlock (item :: items) (block ++ all) := by
  obtain ⟨blocks, hblocks, rfl⟩ := hrest
  exact ⟨block :: blocks, .cons h hblocks, rfl⟩

/-- Of each member of a list either a block is made for an item, or nothing at all. -/
theorem filterMap_flatMap {item? : γ → Option α} {block : γ → List β} {l : List γ}
    (hnone : ∀ x ∈ l, item? x = none → block x = [])
    (hsome : ∀ x ∈ l, ∀ item, item? x = some item → IsBlock item (block x)) :
    InBlocks IsBlock (l.filterMap item?) (l.flatMap block) := by
  induction l with
  | nil => exact .nil
  | cons x l ih =>
    have hrest := ih (fun y hy => hnone y (List.mem_cons_of_mem _ hy))
      (fun y hy => hsome y (List.mem_cons_of_mem _ hy))
    rw [List.flatMap_cons]
    cases hx : item? x with
    | none =>
      rw [List.filterMap_cons_none hx, hnone x List.mem_cons_self hx]
      exact hrest
    | some item =>
      rw [List.filterMap_cons_some hx]
      exact .cons (hsome x List.mem_cons_self item hx) hrest

/-- What the blocks hold, if it is known for each item what its block holds. -/
theorem mem_iff {items : List α} {all : List β} (h : InBlocks IsBlock items all)
    {Holds : α → β → Prop}
    (hholds : ∀ item block, IsBlock item block → ∀ x, x ∈ block ↔ Holds item x) (x : β) :
    x ∈ all ↔ ∃ item ∈ items, Holds item x := by
  obtain ⟨blocks, hblocks, rfl⟩ := h
  induction hblocks with
  | nil => simp
  | cons hblock _ ih =>
    rw [List.flatten_cons, List.mem_append, ih, hholds _ _ hblock]
    simp

end InBlocks

/-! ## Method references -/

/-- A combinator of `Optional` is called, and the dynamic call right before makes a function object of
the method behind the handle. -/
def Class.HandedTo (c : Class) (previous : Option Instruction) (site : CallSite)
    (handle : MethodHandle) : Prop :=
  site.kind = .virtual ∧ site.owner = combinatorOwner ∧ site.name ∈ combinatorNames ∧
    ∃ instruction maker index arguments, previous = some instruction ∧
      instruction.operation = .invoke maker ∧ maker.kind = .dynamic ∧
      maker.bootstrap = some index ∧ c.bootstrap[index]? = some arguments ∧
      arguments[Class.implementationArgument]? = some (.handle handle)

theorem Instruction.call?_eq_some {instruction : Instruction} {site : CallSite} :
    instruction.call? = some site ↔ instruction.operation = .invoke site := by
  unfold call?
  cases instruction.operation with
  | invoke call => simp
  | other opcode => simp

namespace Class

variable {c : Class} {previous : Option Instruction} {current : Instruction} {site : CallSite}
  {handle handle' : MethodHandle}

theorem implementation?_eq_some {index : Nat} :
    c.implementation? index = some handle ↔ ∃ arguments, c.bootstrap[index]? = some arguments ∧
      arguments[implementationArgument]? = some (.handle handle) := by
  unfold implementation?
  simp only [Option.bind_eq_bind, Option.bind_eq_some_iff]
  refine exists_congr fun arguments => and_congr_right fun _ => ?_
  constructor
  · rintro ⟨argument, ha, hh⟩
    cases argument with
    | handle h =>
      obtain rfl := Option.some.inj hh
      exact ha
    | other => simp at hh
    | unresolved => simp at hh
  · intro ha
    exact ⟨_, ha, rfl⟩

theorem reference?_eq_some (hs : current.call? = some site) :
    c.reference? previous current = some handle ↔ c.HandedTo previous site handle := by
  unfold reference? combinatorPair? madeFrom? HandedTo
  simp only [Option.bind_eq_bind, hs, Option.bind_some, Option.bind_eq_some_iff]
  constructor
  · rintro ⟨⟨site', maker⟩, ⟨maker', ⟨instruction, hp, hm⟩, hpair⟩, index, hb, hi⟩
    split at hpair
    · next hcond =>
      obtain ⟨rfl, rfl⟩ := Prod.mk.inj (Option.some.inj hpair)
      obtain ⟨hc, hk⟩ := hcond
      obtain ⟨hv, ho, hn⟩ := of_decide_eq_true hc
      obtain ⟨arguments, ha, hh⟩ := implementation?_eq_some.mp hi
      exact ⟨hv, ho, hn, instruction, maker', index, arguments, hp,
        Instruction.call?_eq_some.mp hm, hk, hb, ha, hh⟩
    · simp at hpair
  · rintro ⟨hv, ho, hn, instruction, maker, index, arguments, hp, hm, hk, hb, ha, hh⟩
    refine ⟨(site, maker), ⟨maker, ⟨instruction, hp, Instruction.call?_eq_some.mpr hm⟩, ?_⟩, index,
      hb, implementation?_eq_some.mpr ⟨arguments, ha, hh⟩⟩
    rw [if_pos ⟨decide_eq_true ⟨hv, ho, hn⟩, hk⟩]

/-- A call is handed one method at most. -/
theorem HandedTo.unique (h : c.HandedTo previous site handle)
    (h' : c.HandedTo previous site handle') : handle = handle' := by
  let current : Instruction := ⟨site.offset, .invoke site⟩
  have hs : current.call? = some site := rfl
  exact Option.some.inj
    (((reference?_eq_some hs).mpr h).symm.trans ((reference?_eq_some hs).mpr h'))

/-! ## Positions -/

/-- The instruction right before a position of the code. -/
def previousAt? (instructions : List Instruction) (index : Nat) : Option Instruction :=
  if index = 0 then none else instructions[index - 1]?

/-- **Going through the code with the instruction before:** each position with the one before it. -/
theorem getElem?_withPrevious (instructions : List Instruction) (index : Nat) :
    (withPrevious instructions)[index]? =
      instructions[index]?.map fun current => (previousAt? instructions index, current) := by
  unfold withPrevious previousAt?
  rw [List.zip, List.getElem?_zipWith]
  cases index with
  | zero => cases instructions[0]? <;> rfl
  | succ index =>
    cases hlast : instructions[index + 1]? with
    | none => simp
    | some current =>
      have hlt : index + 1 < instructions.length := (List.getElem?_eq_some_iff.mp hlast).1
      have hbefore : instructions[index]? = some (instructions[index]) :=
        List.getElem?_eq_getElem (by omega)
      simp [hbefore]

theorem withPrevious_eq (instructions : List Instruction) :
    withPrevious instructions =
      instructions.zipIdx.map fun entry => (previousAt? instructions entry.2, entry.1) := by
  refine List.ext_getElem? fun index => ?_
  rw [getElem?_withPrevious, List.getElem?_map, List.getElem?_zipIdx, Option.map_map]
  simp [Function.comp_def]

section
variable {instructions : List Instruction} {index : Nat}

/-- The reference at a position is the one that going through the code finds there. -/
theorem referenceAt?_eq (c : Class) (instructions : List Instruction) (index : Nat) :
    c.referenceAt? instructions index =
      (withPrevious instructions)[index]?.bind fun entry => c.reference? entry.1 entry.2 := by
  rw [getElem?_withPrevious]
  unfold referenceAt? previousAt?
  cases instructions[index]? <;> rfl

theorem referenceAt?_of_getElem? (hat : instructions[index]? = some current) :
    c.referenceAt? instructions index = c.reference? (previousAt? instructions index) current := by
  rw [referenceAt?_eq, getElem?_withPrevious, hat]
  rfl

theorem callsAt_previousAt? (hat : instructions[index]? = some current)
    (hs : current.call? = some site) :
    c.callsAt (previousAt? instructions index) current =
      .ofSite site ::
        ((c.referenceAt? instructions index).map (Call.ofHandle · site.offset)).toList := by
  unfold callsAt
  rw [hs, referenceAt?_of_getElem? hat]

/-- At a call the reference at its position is the method that it is handed. -/
theorem referenceAt?_eq_some (hat : instructions[index]? = some current)
    (hs : current.call? = some site) :
    c.referenceAt? instructions index = some handle ↔
      c.HandedTo (previousAt? instructions index) site handle := by
  rw [referenceAt?_of_getElem? hat, reference?_eq_some hs]

end

end Class

/-! ## The calls of a method -/

/-- The call instructions in the code of a method, each with the instruction right before it. -/
def Method.invocations (m : Method) : List (Option Instruction × CallSite) :=
  m.instructions.zipIdx.filterMap fun (current, index) =>
    current.call?.map (Class.previousAt? m.instructions index, ·)

namespace Class

variable {c : Class} {m : Method} {call : Call}

/-- The calls of a call instruction: the one that stands there and, if it is handed a method, the one
of that method. -/
def IsCallBlock (c : Class) : Option Instruction × CallSite → List Call → Prop
  | (previous, site), calls =>
    (∃ handle, c.HandedTo previous site handle ∧
      calls = [.ofSite site, .ofHandle handle site.offset]) ∨
    (¬ ∃ handle, c.HandedTo previous site handle) ∧ calls = [.ofSite site]

/-- **The calls of a method, call instruction by call instruction.** -/
theorem calls_inBlocks (hb : m.hasBody = true) :
    InBlocks c.IsCallBlock m.invocations (c.calls m) := by
  unfold calls Method.invocations
  rw [if_pos hb, withPrevious_eq, List.flatMap_map]
  refine InBlocks.filterMap_flatMap ?_ ?_
  · rintro ⟨current, index⟩ - hnone
    simp only [Option.map_eq_none_iff] at hnone
    simp [callsAt, hnone]
  · rintro ⟨current, index⟩ hentry ⟨previous, site⟩ hsome
    obtain ⟨site', hs, hpair⟩ := Option.map_eq_some_iff.mp hsome
    obtain ⟨rfl, rfl⟩ := Prod.mk.inj hpair
    have hat : m.instructions[index]? = some current := List.mk_mem_zipIdx_iff_getElem?.mp hentry
    show c.IsCallBlock _ (c.callsAt (previousAt? m.instructions index) current)
    rw [callsAt_previousAt? hat hs]
    cases hr : c.referenceAt? m.instructions index with
    | none =>
      refine Or.inr ⟨?_, rfl⟩
      rintro ⟨handle, hh⟩
      rw [(referenceAt?_eq_some hat hs).mpr hh] at hr
      cases hr
    | some handle => exact Or.inl ⟨handle, (referenceAt?_eq_some hat hs).mp hr, rfl⟩

theorem IsCallBlock.mem_iff {entry : Option Instruction × CallSite} {calls : List Call}
    (h : c.IsCallBlock entry calls) (call : Call) :
    call ∈ calls ↔ call = .ofSite entry.2 ∨
      ∃ handle, c.HandedTo entry.1 entry.2 handle ∧ call = .ofHandle handle entry.2.offset := by
  obtain ⟨previous, site⟩ := entry
  rcases h with ⟨handle, hh, rfl⟩ | ⟨hnone, rfl⟩
  · rw [List.mem_cons, List.mem_singleton]
    refine or_congr_right ⟨fun hcall => ⟨handle, hh, hcall⟩, ?_⟩
    rintro ⟨handle', hh', rfl⟩
    rw [hh.unique hh']
  · rw [List.mem_singleton]
    refine ⟨Or.inl, ?_⟩
    rintro (hcall | ⟨handle, hh, -⟩)
    · exact hcall
    · exact absurd ⟨handle, hh⟩ hnone

/-- The calls of a method are those at its call sites and through the method references there. -/
theorem mem_calls_iff :
    call ∈ c.calls m ↔ m.hasBody = true ∧ ∃ previous site, (previous, site) ∈ m.invocations ∧
      (call = .ofSite site ∨
        ∃ handle, c.HandedTo previous site handle ∧ call = .ofHandle handle site.offset) := by
  cases hb : m.hasBody with
  | false => simp [calls, hb]
  | true =>
    rw [(calls_inBlocks hb).mem_iff fun entry block => IsCallBlock.mem_iff]
    simp

end Class

/-! ## The calls of an archive -/

/-- The calls of a method with code, each with its place. -/
def Class.IsMethodCalls (c : Class) (archive : Nat) (m : Method) (os : List Occurrence) : Prop :=
  ∃ calls, InBlocks c.IsCallBlock m.invocations calls ∧
    os = calls.map (.ofCall (c.key m) m archive)

/-- The calls of a class: method by method, for those that have code. -/
def IsClassCalls (archive : Nat) (c : Class) (os : List Occurrence) : Prop :=
  InBlocks (c.IsMethodCalls archive) (c.methods.filter Method.hasBody) os

theorem Class.occurrences_inBlocks (c : Class) (archive : Nat) :
    IsClassCalls archive c (c.occurrences archive) := by
  unfold IsClassCalls Class.occurrences
  rw [← List.filterMap_eq_filter]
  refine InBlocks.filterMap_flatMap ?_ ?_
  · intro m _ hnone
    have hb : m.hasBody = false := by simpa using hnone
    rw [c.calls_of_not_hasBody hb, List.map_nil]
  · intro m _ item hsome
    obtain ⟨rfl, hb⟩ := Option.guard_eq_some_iff.mp hsome
    exact ⟨_, calls_inBlocks hb, rfl⟩

/-- **The calls of an archive, class by class.** -/
theorem occurrences_inBlocks (archive : Nat) (classes : List Class) :
    InBlocks (IsClassCalls archive) classes (occurrences archive classes) :=
  ⟨_, List.forall₂_map_right_iff.mpr (List.forall₂_same.mpr fun c _ => c.occurrences_inBlocks archive),
    by rw [occurrences, List.flatMap]⟩

end CallGraph
