import CallGraph.Proofs.CodeBlocks
import CallGraph.Proofs.Configuration
import Mathlib.Data.List.Induction

/-!
# What an engine remembers

An engine hands its usage to the next archive and gets it back only if the archive does not fail. Seen
over a whole run, it remembers the calls of the archives since the last failure, and nothing else.

* `Calls` — what the code of classes calls, read off the code
* `Usage.Holds` — a usage that holds exactly these calls
* `Engine.Remembers` — the calls of the archives since the last failure
* `afterAll_remembers` — the usage after a run, and what the next archive makes of it
-/

namespace CallGraph

open Std (ExtTreeMap ExtTreeSet)

/-! ## What code calls -/

/-- The code of the classes calls a signature on a class. -/
inductive Calls (classes : List Class) : String → String → Prop
  /-- At a call site. -/
  | site {c : Class} {m : Method} {previous : Option Instruction} {site : CallSite}
      (hc : c ∈ classes) (hm : m ∈ c.methods) (hb : m.hasBody = true)
      (hs : (previous, site) ∈ m.invocations) :
      Calls classes site.owner (signature site.name site.arguments)
  /-- Through the method reference that a call site is handed. -/
  | reference {c : Class} {m : Method} {previous : Option Instruction} {site : CallSite}
      {handle : MethodHandle} (hc : c ∈ classes) (hm : m ∈ c.methods) (hb : m.hasBody = true)
      (hs : (previous, site) ∈ m.invocations) (hh : c.HandedTo previous site handle) :
      Calls classes handle.owner (signature handle.name (handle.arguments.getD []))

theorem calls_iff (archive : Nat) (classes : List Class) (owner s : String) :
    Calls classes owner s ↔ ∃ o ∈ occurrences archive classes,
      o.call.owner = owner ∧ o.call.callee.signature = s := by
  have hmem : ∀ o, o ∈ occurrences archive classes ↔ ∃ c ∈ classes, ∃ m ∈ c.methods,
      ∃ call ∈ c.calls m, Occurrence.ofCall (c.key m) m archive call = o := by
    intro o
    unfold occurrences Class.occurrences
    simp only [List.mem_flatMap, List.mem_map]
  constructor
  · rintro (⟨hc, hm, hb, hs⟩ | ⟨hc, hm, hb, hs, hh⟩)
    · exact ⟨_, (hmem _).mpr ⟨_, hc, _, hm, _, Class.mem_calls_iff.mpr ⟨hb, _, _, hs, Or.inl rfl⟩, rfl⟩,
        rfl, rfl⟩
    · exact ⟨_, (hmem _).mpr ⟨_, hc, _, hm, _,
        Class.mem_calls_iff.mpr ⟨hb, _, _, hs, Or.inr ⟨_, hh, rfl⟩⟩, rfl⟩, rfl, rfl⟩
  · rintro ⟨o, ho, rfl, rfl⟩
    obtain ⟨c, hc, m, hm, call, hcall, rfl⟩ := (hmem o).mp ho
    obtain ⟨hb, previous, site, hs, rfl | ⟨handle, hh, rfl⟩⟩ := Class.mem_calls_iff.mp hcall
    · exact .site hc hm hb hs
    · exact .reference hc hm hb hs hh

/-! ## What a usage holds -/

namespace Usage

variable {usage usage' : Usage} {called : String → String → Prop}

/-- The usage holds exactly these calls, and no class on which nothing has been called. -/
structure Holds (usage : Usage) (called : String → String → Prop) : Prop where
  contains_iff : ∀ owner s, usage.contains owner s = true ↔ called owner s
  called_of_mem : ∀ owner, owner ∈ usage.byClass → ∃ s, called owner s

theorem holds_empty (h : ∀ owner s, ¬ called owner s) : empty.Holds called where
  contains_iff := by
    intro owner s
    rw [contains_empty]
    simp [h owner s]
  called_of_mem := by
    intro owner ho
    simp [empty] at ho

theorem Holds.isSome_getElem? (h : usage.Holds called) (owner : String) :
    usage.byClass[owner]?.isSome = true ↔ ∃ s, called owner s := by
  rw [← ExtTreeMap.mem_iff_isSome_getElem?]
  refine ⟨h.called_of_mem owner, ?_⟩
  rintro ⟨s, hs⟩
  have hc := (h.contains_iff owner s).mpr hs
  unfold contains signatures? at hc
  rw [ExtTreeMap.mem_iff_isSome_getElem?]
  cases he : usage.byClass[owner]? with
  | none =>
    rw [he] at hc
    simp at hc
  | some signatures => rfl

/-- Only one usage holds given calls. -/
theorem Holds.eq (h : usage.Holds called) (h' : usage'.Holds called) : usage = usage' := by
  refine congrArg Usage.mk (ExtTreeMap.ext_getElem? fun owner => ?_)
  have hsome : usage.byClass[owner]?.isSome = usage'.byClass[owner]?.isSome := by
    rw [Bool.eq_iff_iff, h.isSome_getElem?, h'.isSome_getElem?]
  have hcontains : ∀ s, usage.contains owner s = usage'.contains owner s := by
    intro s
    rw [Bool.eq_iff_iff, h.contains_iff, h'.contains_iff]
  unfold contains signatures? at hcontains
  cases he : usage.byClass[owner]? with
  | none =>
    rw [he] at hsome
    exact (Option.isNone_iff_eq_none.mp (Option.isSome_eq_false_iff.mp hsome.symm)).symm
  | some signatures =>
    rw [he] at hsome hcontains
    obtain ⟨signatures', he'⟩ := Option.isSome_iff_exists.mp hsome.symm
    rw [he'] at hcontains ⊢
    refine congrArg some (ExtTreeSet.ext_mem fun s => ?_)
    have hs := hcontains s
    simp only [Option.any_some] at hs
    rw [← ExtTreeSet.contains_iff_mem, ← ExtTreeSet.contains_iff_mem, hs]

theorem Holds.congr {called' : String → String → Prop} (h : usage.Holds called)
    (hc : ∀ owner s, called owner s ↔ called' owner s) : usage.Holds called' where
  contains_iff := fun owner s => (h.contains_iff owner s).trans (hc owner s)
  called_of_mem := by
    intro owner ho
    obtain ⟨s, hs⟩ := h.called_of_mem owner ho
    exact ⟨s, (hc owner s).mp hs⟩

theorem mem_record (usage : Usage) (owner s owner' : String) :
    owner' ∈ (usage.record owner s).byClass ↔ owner = owner' ∨ owner' ∈ usage.byClass := by
  unfold record
  rw [ExtTreeMap.mem_iff_isSome_getElem?, ExtTreeMap.getElem?_alter]
  by_cases hn : owner = owner'
  · simp [hn]
  · simp [hn]

theorem mem_recordAll (usage : Usage) (os : List Occurrence) (owner : String) :
    owner ∈ (usage.recordAll os).byClass ↔
      owner ∈ usage.byClass ∨ ∃ o ∈ os, o.call.owner = owner := by
  unfold recordAll
  induction os generalizing usage with
  | nil => simp
  | cons o os ih =>
    simp only [List.foldl_cons, ih, mem_record, List.mem_cons, exists_eq_or_imp]
    rw [or_assoc, or_left_comm]

/-- Calls are added to what the usage holds. -/
theorem Holds.recordAll (h : usage.Holds called) (os : List Occurrence) :
    (usage.recordAll os).Holds fun owner s => called owner s ∨
      ∃ o ∈ os, o.call.owner = owner ∧ o.call.callee.signature = s where
  contains_iff := by
    intro owner s
    rw [contains_recordAll, h.contains_iff]
  called_of_mem := by
    intro owner ho
    rcases (mem_recordAll usage os owner).mp ho with ho | ⟨o, hm, ho⟩
    · obtain ⟨s, hs⟩ := h.called_of_mem owner ho
      exact ⟨s, Or.inl hs⟩
    · exact ⟨_, Or.inr ⟨o, hm, ho, rfl⟩⟩

end Usage

/-! ## Runs -/

namespace Engine

/-- The engine after archives, also after failures. -/
def afterAll (engine : Engine) (archives : List (Nat × List Class)) : Engine :=
  archives.foldl (fun engine archive => (engine.processClasses archive.1 archive.2).engine) engine

/-- An archive did not fail, none after it did, and its code makes the call. -/
def Remembers (engine : Engine) (archives : List (Nat × List Class)) (owner s : String) : Prop :=
  ∃ earlier archive later, archives = earlier ++ archive :: later ∧
    (∀ o ∈ (engine.afterAll earlier).outcomes (archive :: later),
      ∃ summary, o.result = .ok summary) ∧
    Calls archive.2 owner s

variable {engine engine' : Engine} {archives : List (Nat × List Class)}

theorem outcomes_append (engine : Engine) (archives more : List (Nat × List Class)) :
    engine.outcomes (archives ++ more) =
      engine.outcomes archives ++ (engine.afterAll archives).outcomes more := by
  induction archives generalizing engine with
  | nil => rfl
  | cons archive archives ih => exact congrArg _ (ih _)

theorem afterAll_append (engine : Engine) (archives more : List (Nat × List Class)) :
    engine.afterAll (archives ++ more) = (engine.afterAll archives).afterAll more := by
  unfold afterAll
  rw [List.foldl_append]

/-- **What is remembered after one more archive:** nothing if it fails, and otherwise its calls and what
was remembered before. -/
theorem remembers_concat (engine : Engine) (archives : List (Nat × List Class))
    (archive : Nat × List Class) (owner s : String) :
    engine.Remembers (archives ++ [archive]) owner s ↔
      (∃ summary, ((engine.afterAll archives).processClasses archive.1 archive.2).result =
        .ok summary) ∧ (engine.Remembers archives owner s ∨ Calls archive.2 owner s) := by
  constructor
  · rintro ⟨earlier, first, later, hsplit, hok, hcalls⟩
    rcases List.eq_nil_or_concat' later with rfl | ⟨later, last, rfl⟩
    · obtain ⟨rfl, hlast⟩ := List.append_inj' hsplit rfl
      obtain rfl := List.singleton_inj.mp hlast
      exact ⟨hok _ List.mem_cons_self, Or.inr hcalls⟩
    · rw [← List.cons_append, ← List.append_assoc] at hsplit
      obtain ⟨rfl, hlast⟩ := List.append_inj' hsplit rfl
      obtain rfl := List.singleton_inj.mp hlast
      rw [← List.cons_append, outcomes_append, ← afterAll_append] at hok
      refine ⟨hok _ (List.mem_append_right _ List.mem_cons_self), Or.inl ?_⟩
      exact ⟨earlier, first, later, rfl, fun o ho => hok o (List.mem_append_left _ ho), hcalls⟩
  · rintro ⟨hlast, ⟨earlier, first, later, rfl, hok, hcalls⟩ | hcalls⟩
    · refine ⟨earlier, first, later ++ [archive], by simp, ?_, hcalls⟩
      rw [← List.cons_append, outcomes_append, ← afterAll_append]
      intro o ho
      rcases List.mem_append.mp ho with ho | ho
      · exact hok o ho
      · rw [List.mem_singleton.mp ho]
        exact hlast
    · refine ⟨archives, archive, [], rfl, ?_, hcalls⟩
      intro o ho
      rw [List.mem_singleton.mp ho]
      exact hlast

theorem config_processClasses (engine : Engine) (index : Nat) (classes : List Class) :
    (engine.processClasses index classes).engine.config = engine.config := by
  cases h : (engine.forestWalk index classes).edges with
  | error e => rw [(processClasses_of_error h).2.2]; rfl
  | ok hierarchy => rw [(processClasses_of_ok h).2.2]; rfl

theorem config_afterAll (engine : Engine) (archives : List (Nat × List Class)) :
    (engine.afterAll archives).config = engine.config := by
  induction archives generalizing engine with
  | nil => rfl
  | cons archive archives ih => exact (ih _).trans (config_processClasses engine _ _)

/-- **What one archive does to a carried usage:** it adds its calls, or loses all if it fails. -/
theorem holds_processClasses (hc : engine.config.carriesUsage = true)
    {called : String → String → Prop} (h : engine.usage.Holds called) (index : Nat)
    (classes : List Class) :
    (engine.processClasses index classes).engine.usage.Holds fun owner s =>
      (∃ summary, (engine.processClasses index classes).result = .ok summary) ∧
        (called owner s ∨ Calls classes owner s) := by
  have hleaving : ∀ usage, (engine.leaving usage).usage = usage := fun _ => if_pos hc
  cases hw : (engine.forestWalk index classes).edges with
  | error e =>
    obtain ⟨hr, -, heng⟩ := processClasses_of_error hw
    rw [heng, hleaving, hr]
    exact Usage.holds_empty (by simp)
  | ok hierarchy =>
    obtain ⟨hr, -, heng⟩ := processClasses_of_ok hw
    have husage : (engine.visited index classes).1.usage =
        engine.usage.recordAll (occurrences index classes) := by
      unfold visited
      rw [Facts.usage_extract, Facts.usage_index]
      exact congrArg (Usage.recordAll · _) (if_pos hc)
    rw [heng, hleaving, husage]
    refine (h.recordAll _).congr fun owner s => ?_
    rw [← calls_iff]
    simp [hr]

/-- A usage that is not carried stays as it is. -/
theorem usage_processClasses_of_not_carries (hc : engine.config.carriesUsage = false) (index : Nat)
    (classes : List Class) :
    (engine.processClasses index classes).engine.usage = engine.usage := by
  have hleaving : ∀ usage, (engine.leaving usage).usage = engine.usage :=
    fun _ => if_neg (by simp [hc])
  cases hw : (engine.forestWalk index classes).edges with
  | error e => rw [(processClasses_of_error hw).2.2, hleaving]
  | ok hierarchy => rw [(processClasses_of_ok hw).2.2, hleaving]

/-- **The stored usage after a run** holds what is remembered, or nothing if usage is not carried. -/
theorem holds_afterAll (config : EngineConfig) (archives : List (Nat × List Class)) :
    ((start config).afterAll archives).usage.Holds fun owner s =>
      config.carriesUsage = true ∧ (start config).Remembers archives owner s := by
  -- From the last archive backwards: it is the last failure that counts.
  induction archives using List.reverseRecOn with
  | nil =>
    refine Usage.holds_empty ?_
    rintro owner s ⟨-, earlier, archive, later, hsplit, -⟩
    simp at hsplit
  | append_singleton archives archive ih =>
    have hconfig := config_afterAll (start config) archives
    rw [afterAll_append]
    show (((start config).afterAll archives).processClasses archive.1 archive.2).engine.usage.Holds _
    cases hc : config.carriesUsage with
    | false =>
      rw [usage_processClasses_of_not_carries (by rw [hconfig]; exact hc)]
      exact ih.congr (by simp [hc])
    | true =>
      refine (holds_processClasses (by rw [hconfig]; exact hc) ih archive.1 archive.2).congr ?_
      intro owner s
      rw [remembers_concat]
      simp [hc]

/-- What comes of an archive depends on the configuration and on the usage at its beginning. -/
theorem processClasses_congr (hc : engine.config = engine'.config)
    (hu : engine.initialUsage = engine'.initialUsage) (index : Nat) (classes : List Class) :
    (engine.processClasses index classes).records = (engine'.processClasses index classes).records ∧
      (engine.processClasses index classes).result = (engine'.processClasses index classes).result ∧
      (engine.processClasses index classes).log = (engine'.processClasses index classes).log ∧
      (engine.processClasses index classes).spans = (engine'.processClasses index classes).spans := by
  unfold processClasses
  rw [hc, hu]
  simp only
  split <;> exact ⟨rfl, rfl, rfl, rfl⟩

/-- **An engine remembers the calls since the last failure, and nothing else.** After any archives, one
after the other and also after failures, the stored usage is the one that holds exactly the calls of the
archives since the last one that failed, or none if usage is not carried. An engine that has met no
archive, given this usage, makes the same of the next archive. -/
theorem afterAll_remembers (config : EngineConfig) (archives : List (Nat × List Class)) :
    let engine := (start config).afterAll archives
    (∀ usage : Usage, engine.usage = usage ↔ usage.Holds fun owner s =>
      config.carriesUsage = true ∧ (start config).Remembers archives owner s) ∧
    ∀ index classes,
      let o := engine.processClasses index classes
      let o' := ({ start config with usage := engine.usage } : Engine).processClasses index classes
      (start config).outcomes (archives ++ [(index, classes)]) =
        (start config).outcomes archives ++ [o] ∧
      o.records = o'.records ∧ o.result = o'.result ∧ o.log = o'.log ∧ o.spans = o'.spans := by
  intro engine
  have hholds := holds_afterAll config archives
  refine ⟨fun usage => ⟨fun h => h ▸ hholds, hholds.eq⟩, ?_⟩
  intro index classes
  have hconfig : engine.config = config := config_afterAll (start config) archives
  have hinit : engine.initialUsage =
      ({ start config with usage := engine.usage } : Engine).initialUsage := by
    unfold initialUsage
    rw [hconfig]
    rfl
  exact ⟨outcomes_append _ _ _, processClasses_congr hconfig hinit index classes⟩

/-- An archive that fails: the superclass of an interface has no subclass. -/
def stranded : List Class :=
  [⟨"Base", some "java.lang.Object", [], false, false, [], [], []⟩,
   ⟨"Face", some "Base", [], true, true, [], [], []⟩]

example :
    ((start {}).afterAll [(1, Facts.shapes), (2, Facts.shapes.tail)]).usage.contains "Polygon" "area()" =
        true ∧
      ((start {}).afterAll [(1, Facts.shapes), (2, stranded)]).usage.contains "Polygon" "area()" =
        false ∧
      ((start {}).afterAll [(1, stranded), (2, Facts.shapes)]).usage.contains "Polygon" "area()" =
        true := by
  decide +kernel

end Engine

end CallGraph
