import CallGraph.Proofs.Streams

/-!
# Paths that lead to the same archive

An engine knows an archive by its canonical path, from the moment it meets it. So of several paths
to one archive only the first counts, also if the archive fails, and a run over a list of paths is a
run over the list without the others.

* `Engine.mem_seen_processArchive` — what an engine has met after a path
* `Run.silent_archives_filter` — paths to archives that have been met can be left out
* `Run.filterMap_header?_outcomes` — the archives are numbered in the order they are met
* `collected_eraseDuplicates` — whole runs
-/

namespace CallGraph

open Std (ExtTreeSet)

/-- The canonical path and the number that a header shows. -/
def Record.header? : Record → Option (String × Nat)
  | archive index path => some (path, index)
  | _ => none

/-- The canonical form of a path, if it leads anywhere. -/
def canonical? (locate : String → Except FileError Input) (path : String) : Option String :=
  (locate path).toOption.map Input.path

/-- Both paths have a canonical form, and it is the same. -/
def sameArchive (locate : String → Except FileError Input) (path path' : String) : Bool :=
  (canonical? locate path).any fun p => canonical? locate path' = some p

/-! ## One path -/

namespace Engine

variable {engine : Engine} {path : String} {input : Input}
  {locate : String → Except FileError Input}

theorem frame_processClasses (engine : Engine) (index : Nat) (classes : List Class) :
    (engine.processClasses index classes).engine.seen = engine.seen ∧
      (engine.processClasses index classes).engine.archiveCount = engine.archiveCount := by
  cases h : (engine.forestWalk index classes).edges with
  | error e => rw [(processClasses_of_error h).2.2]; exact ⟨rfl, rfl⟩
  | ok hierarchy => rw [(processClasses_of_ok h).2.2]; exact ⟨rfl, rfl⟩

/-- The classes of an archive are reported without another header. -/
theorem header?_processClasses (engine : Engine) (index : Nat) (classes : List Class) :
    (engine.processClasses index classes).records.filterMap Record.header? = [] := by
  have hedges : ∀ edges : List Edge, (edges.map Record.edge).filterMap Record.header? = [] := by
    intro edges
    simp [Record.header?]
  have hcode : (engine.codeRecords index classes).filterMap Record.header? = [] := by
    rw [List.filterMap_eq_nil_iff]
    intro r hr
    obtain ⟨⟨c, edges⟩, -, hr⟩ := List.mem_flatMap.mp hr
    rcases List.mem_append.mp hr with hr | hr
    · split at hr
      · obtain ⟨name, -, rfl⟩ := List.mem_map.mp hr
        rfl
      · simp at hr
    · obtain ⟨e, -, rfl⟩ := List.mem_map.mp hr
      rfl
  have hannotated : ∀ facts : Facts, facts.annotationRecords.filterMap Record.header? = [] := by
    intro facts
    rw [List.filterMap_eq_nil_iff]
    intro r hr
    obtain ⟨⟨method, types⟩, -, hr⟩ := List.mem_flatMap.mp hr
    obtain ⟨type, -, rfl⟩ := List.mem_map.mp hr
    rfl
  cases h : (engine.forestWalk index classes).edges with
  | error e => rw [(processClasses_of_error h).2.1, hcode]
  | ok hierarchy =>
    rw [(processClasses_of_ok h).2.1]
    simp only [List.filterMap_append, hcode, hedges, hannotated, List.append_nil]

/-- **An archive that is new** is known from now on and has the next number, whether or not it
fails. -/
theorem processInput_frame (engine : Engine) (input : Input) :
    (engine.processInput input).engine.seen = engine.seen.insert input.path ∧
      (engine.processInput input).engine.archiveCount = engine.archiveCount + 1 ∧
      (engine.processInput input).records.filterMap Record.header? =
        [(input.path, engine.archiveCount + 1)] := by
  unfold processInput
  simp only
  split
  · exact ⟨rfl, rfl, rfl⟩
  · next classes hscan =>
    obtain ⟨hseen, hcount⟩ :=
      frame_processClasses (engine.meet input.path) (engine.archiveCount + 1) classes
    refine ⟨hseen, hcount, ?_⟩
    exact congrArg (_ :: ·) (header?_processClasses (engine.meet input.path) _ classes)

theorem exists_of_canonical? {p : String} (h : canonical? locate path = some p) :
    ∃ input, locate path = .ok input ∧ input.path = p := by
  unfold canonical? at h
  cases hl : locate path with
  | error cause => simp [hl, Except.toOption] at h
  | ok input => exact ⟨input, rfl, by simpa [hl, Except.toOption] using h⟩

/-- A path that leads nowhere changes nothing. -/
theorem processArchive_of_none (engine : Engine) (h : canonical? locate path = none) :
    ∃ cause, engine.processArchive path (locate path) =
      ⟨engine, [], [], [], .error (.inputNotFound path cause)⟩ := by
  unfold canonical? at h
  cases hl : locate path with
  | error cause => exact ⟨cause, rfl⟩
  | ok input => simp [hl, Except.toOption] at h

/-- A path to an archive that has been met changes nothing. -/
theorem processArchive_of_mem {p : String} (h : canonical? locate path = some p)
    (hp : p ∈ engine.seen) :
    ∃ log, engine.processArchive path (locate path) = ⟨engine, [], log, [], .ok none⟩ := by
  obtain ⟨input, hl, rfl⟩ := exists_of_canonical? h
  unfold processArchive
  simp only [hl]
  rw [if_pos (ExtTreeSet.contains_iff_mem.mpr hp)]
  exact ⟨_, rfl⟩

/-- A path to a new archive: it is known from now on and has the next number. -/
theorem processArchive_of_not_mem {p : String} (h : canonical? locate path = some p)
    (hp : p ∉ engine.seen) :
    (engine.processArchive path (locate path)).engine.seen = engine.seen.insert p ∧
      (engine.processArchive path (locate path)).engine.archiveCount = engine.archiveCount + 1 ∧
      (engine.processArchive path (locate path)).records.filterMap Record.header? =
        [(p, engine.archiveCount + 1)] := by
  obtain ⟨input, hl, rfl⟩ := exists_of_canonical? h
  unfold processArchive
  simp only [hl]
  rw [if_neg (fun hc => hp (ExtTreeSet.contains_iff_mem.mp hc))]
  exact processInput_frame engine input

/-- **What an engine has met after a path:** what it had met before, and the archive that the path
leads to. -/
theorem mem_seen_processArchive (engine : Engine) (path p : String) :
    p ∈ (engine.processArchive path (locate path)).engine.seen ↔
      p ∈ engine.seen ∨ canonical? locate path = some p := by
  cases h : canonical? locate path with
  | none =>
    obtain ⟨cause, ho⟩ := processArchive_of_none engine h
    simp [ho]
  | some q =>
    by_cases hq : q ∈ engine.seen
    · obtain ⟨log, ho⟩ := processArchive_of_mem h hq
      rw [ho, Option.some_inj]
      exact ⟨Or.inl, fun hp => hp.elim id fun hp => hp ▸ hq⟩
    · rw [(processArchive_of_not_mem h hq).1, ExtTreeSet.mem_insert, Std.compare_eq_iff_eq,
        Option.some_inj]
      exact or_comm

/-! ## One path after the other -/

/-- The engine after paths, also after failures. -/
def afterPaths (locate : String → Except FileError Input) (engine : Engine) (paths : List String) :
    Engine :=
  paths.foldl (fun engine path => (engine.processArchive path (locate path)).engine) engine

/-- An engine has met all archives that paths led to, whatever became of them. -/
theorem mem_seen_afterPaths (engine : Engine) (paths : List String) (p : String) :
    p ∈ (engine.afterPaths locate paths).seen ↔
      p ∈ engine.seen ∨ ∃ path ∈ paths, canonical? locate path = some p := by
  induction paths generalizing engine with
  | nil => simp [afterPaths]
  | cons path paths ih =>
    show p ∈ ((engine.processArchive path (locate path)).engine.afterPaths locate paths).seen ↔ _
    rw [ih, mem_seen_processArchive, List.exists_mem_cons_iff, or_assoc]

end Engine

/-! ## Runs -/

namespace Run

variable {locate : String → Except FileError Input} {sink : Sink}

/-- A run without its log. -/
def silent {σ : Type} (run : Run σ) : Run σ := { run with log := [] }

theorem silent_andThen {σ : Type} {first next next' : Run σ} (h : next.silent = next'.silent) :
    (first.andThen next).silent = (first.andThen next').silent := by
  cases hr : first.result with
  | error e => rw [andThen_of_error hr, andThen_of_error hr]
  | ok u =>
    rw [andThen_of_ok hr, andThen_of_ok hr]
    simp only [silent, mk.injEq] at h ⊢
    simp [h]

/-- **Paths to archives that have been met can be left out.** -/
theorem silent_archives_filter (hs : sink.dropped = 0) (drop : String → Bool) (written : Written)
    (engine : Engine) (totals : Totals) (paths : List String)
    (hd : ∀ path ∈ paths, drop path = true → ∃ p ∈ engine.seen, canonical? locate path = some p) :
    (archives (.collecting locate) written engine sink totals paths).silent =
      (archives (.collecting locate) written engine sink totals
        (paths.filter (!drop ·))).silent := by
  have hlocate : ∀ a : Written, (Host.collecting locate).locate a = locate := fun _ => rfl
  induction paths generalizing written engine totals with
  | nil => rfl
  | cons path paths ih =>
    rw [archives_cons hs]
    simp only [hlocate]
    cases hdrop : drop path with
    | true =>
      obtain ⟨p, hp, hc⟩ := hd path List.mem_cons_self hdrop
      obtain ⟨log, ho⟩ := Engine.processArchive_of_mem hc hp
      have hfirst : ofOutcome (.collecting locate) written sink totals ⟨engine, [], log, [], .ok none⟩ =
          ⟨written ++ {}, engine, totals, log ++ sink.flush.2, [], .ok ()⟩ := rfl
      rw [List.filter_cons_of_neg (by simp [hdrop]), ho, hfirst, Written.append_empty]
      exact ih written engine totals fun path' hm => hd path' (List.mem_cons_of_mem _ hm)
    | false =>
      rw [List.filter_cons_of_pos (by simp [hdrop]), archives_cons hs]
      refine silent_andThen (ih _ _ _ ?_)
      intro path' hm hd'
      obtain ⟨p, hp, hc⟩ := hd path' (List.mem_cons_of_mem _ hm) hd'
      exact ⟨p, (Engine.mem_seen_processArchive engine path p).mpr (Or.inl hp), hc⟩

/-- **Of several paths to one archive only the first counts.** -/
theorem silent_archives_eraseDups (hs : sink.dropped = 0) (written : Written) (engine : Engine)
    (totals : Totals) (paths : List String) :
    (archives (.collecting locate) written engine sink totals paths).silent =
      (archives (.collecting locate) written engine sink totals
        (paths.eraseDupsBy (sameArchive locate))).silent := by
  cases paths with
  | nil => rfl
  | cons path paths =>
    have hdrop : ∀ path' ∈ paths, sameArchive locate path' path = true →
        ∃ p ∈ (engine.processArchive path (locate path)).engine.seen,
          canonical? locate path' = some p := by
      intro path' _ hsame
      obtain ⟨p, hp, hq⟩ := (Option.any_eq_true _ _).mp hsame
      exact ⟨p, (Engine.mem_seen_processArchive engine path p).mpr (Or.inr (of_decide_eq_true hq)), hp⟩
    have hfilter : paths.filter (fun path' => decide (sameArchive locate path' path = false)) =
        paths.filter (fun path' => !sameArchive locate path' path) :=
      List.filter_congr fun path' _ => by simp
    rw [List.eraseDupsBy_cons, archives_cons hs, archives_cons hs, hfilter]
    refine silent_andThen ?_
    exact (silent_archives_filter hs _ _ _ _ paths hdrop).trans
      (silent_archives_eraseDups hs _ _ _ _)
termination_by paths.length
decreasing_by exact Nat.lt_succ_of_le (List.length_filter_le _ _)

/-! ## Headers -/

/-- What becomes of each path, up to the first that fails. -/
def outcomes (locate : String → Except FileError Input) (engine : Engine) :
    List String → List (Outcome ArchiveError (Option Summary))
  | [] => []
  | path :: paths =>
    let o := engine.processArchive path (locate path)
    o :: if o.result.toBool then outcomes locate o.engine paths else []

theorem outcomes_cons (engine : Engine) (path : String) (paths : List String) :
    outcomes locate engine (path :: paths) =
      engine.processArchive path (locate path) ::
        if (engine.processArchive path (locate path)).result.toBool then
          outcomes locate (engine.processArchive path (locate path)).engine paths
        else [] := rfl

/-- What is written to the stream of edges are the records of these paths, and all paths are among
them if none fails. -/
theorem edges_archives (hs : sink.dropped = 0) (engine : Engine) (totals : Totals)
    (paths : List String) :
    let run := archives (.collecting locate) {} engine sink totals paths
    let os := outcomes locate engine paths
    run.state.edges =
        Record.lines sink.format ((os.flatMap Outcome.records).filter (!·.isAnnotated)) ∧
      (run.result = .ok () → os.length = paths.length) := by
  induction paths generalizing engine totals with
  | nil => exact ⟨rfl, fun _ => rfl⟩
  | cons path paths ih =>
    rw [archives_cons hs, outcomes_cons]
    have hlocate : ∀ a : Written, (Host.collecting locate).locate a = locate := fun _ => rfl
    simp only [hlocate]
    generalize engine.processArchive path (locate path) = o
    obtain ⟨engine', records, log, spans, e | summary⟩ := o
    · refine ⟨?_, fun h => ?_⟩
      · show (({} : Written) ++ (sink.writeAll records).2).edges = _
        rw [Written.empty_append, Sink.edges_writeAll]
        simp [Except.toBool]
      · cases h
    · obtain ⟨hedges, hlength⟩ := ih engine' (totals.add summary)
      show (archives (.collecting locate) (({} : Written) ++ (sink.writeAll records).2) engine' sink
          (totals.add summary) paths).state.edges = _ ∧
        ((archives (.collecting locate) (({} : Written) ++ (sink.writeAll records).2) engine' sink
          (totals.add summary) paths).result = _ → _)
      rw [archives_collecting hs]
      refine ⟨?_, fun h => congrArg (· + 1) (hlength h)⟩
      rw [Written.empty_append, Written.edges_append, hedges, Sink.edges_writeAll,
        ← Record.lines_append, ← List.filter_append]
      rfl

/-- **The archives are numbered in the order they are met.** -/
theorem filterMap_header?_outcomes (engine : Engine) (paths : List String) :
    ((outcomes locate engine paths).flatMap Outcome.records).filterMap Record.header? =
      ((((paths.take (outcomes locate engine paths).length).filterMap (canonical? locate)).filter
        (!engine.seen.contains ·)).eraseDups).zipIdx (engine.archiveCount + 1) := by
  induction paths generalizing engine with
  | nil => rfl
  | cons path paths ih =>
    rw [outcomes_cons, List.flatMap_cons, List.filterMap_append, List.length_cons,
      List.take_succ_cons]
    cases hc : canonical? locate path with
    | none =>
      obtain ⟨cause, ho⟩ := Engine.processArchive_of_none engine hc
      rw [List.filterMap_cons_none hc, ho]
      simp [Except.toBool]
    | some p =>
      rw [List.filterMap_cons_some hc]
      by_cases hp : p ∈ engine.seen
      · obtain ⟨log, ho⟩ := Engine.processArchive_of_mem hc hp
        rw [List.filter_cons_of_neg (by simp [hp]), ho]
        exact ih engine
      · obtain ⟨hseen, hcount, hheader⟩ := Engine.processArchive_of_not_mem hc hp
        have hnot : engine.seen.contains p = false :=
          Bool.eq_false_iff.mpr fun h => hp (ExtTreeSet.contains_iff_mem.mp h)
        rw [List.filter_cons_of_pos (by simp [hnot]), List.eraseDups_cons, List.zipIdx_cons, hheader]
        refine congrArg ((p, engine.archiveCount + 1) :: ·) ?_
        split
        · rw [ih, hcount, hseen, List.filter_filter]
          refine congrArg (fun l => (List.eraseDups l).zipIdx _) (List.filter_congr fun q _ => ?_)
          have hcompare : (compare p q == .eq) = (q == p) := by
            rw [Bool.eq_iff_iff, beq_iff_eq, beq_iff_eq, Std.compare_eq_iff_eq]
            exact eq_comm
          rw [ExtTreeSet.contains_insert, Bool.not_or, hcompare]
        · rfl

/-- **Further paths to the same archive are invisible.** A run over paths, on files that never
change, writes the same, has the same totals and ends in the same way as one over the list without
the paths whose canonical form has occurred before. The headers that are written number the distinct
canonical paths from one on, as far as the run comes. For an engine that goes on after failures, a
path to an archive that an earlier path led to writes nothing, has no summary and changes nothing,
whatever became of the archive, and neither does a path that leads nowhere. -/
theorem collected_eraseDuplicates (locate : String → Except FileError Input) (config : EngineConfig)
    (format : OutputFormat) (keepsAnnotations : Bool) (paths : List String) :
    let run := collected locate config format keepsAnnotations
    let distinct := paths.eraseDupsBy (sameArchive locate)
    let os := outcomes locate (.start config) paths
    let records := os.flatMap Outcome.records
    ((run paths).state = (run distinct).state ∧ (run paths).totals = (run distinct).totals ∧
      (run paths).result = (run distinct).result) ∧
    ((run paths).state.edges = Record.lines format (records.filter (!·.isAnnotated)) ∧
      records.filterMap Record.header? =
        (((paths.take os.length).filterMap (canonical? locate)).eraseDups).zipIdx 1 ∧
      ((run paths).result = .ok () → os.length = paths.length)) ∧
    ∀ (engine : Engine) (earlier : List String) (path : String),
      let now := engine.afterPaths locate earlier
      let o := now.processArchive path (locate path)
      ((∃ path' ∈ earlier, sameArchive locate path' path = true) →
        o.records = [] ∧ o.result = .ok none ∧ o.engine = now) ∧
      (canonical? locate path = none →
        o.records = [] ∧ (∃ cause, o.result = .error (.inputNotFound path cause)) ∧
          o.engine = now) := by
  intro run distinct os records
  have hsilent : (run paths).silent = (run distinct).silent :=
    silent_archives_eraseDups rfl {} (.start config) {} paths
  have hwritten : (run paths).state.edges = Record.lines format (records.filter (!·.isAnnotated)) ∧
      ((run paths).result = .ok () → os.length = paths.length) := edges_archives rfl _ _ _
  obtain ⟨hstate, -, htotals, -, -, hresult⟩ := Run.mk.inj hsilent
  refine ⟨⟨hstate, htotals, hresult⟩, ⟨hwritten.1, ?_, hwritten.2⟩, ?_⟩
  · have hnone : ∀ l : List String, l.filter (!(Engine.start config).seen.contains ·) = l := by
      intro l
      exact List.filter_eq_self.mpr fun p _ => rfl
    rw [filterMap_header?_outcomes, hnone]
    rfl
  · intro engine earlier path now o
    constructor
    · rintro ⟨path', hmem, hsame⟩
      obtain ⟨p, hp', hp⟩ := (Option.any_eq_true _ _).mp hsame
      have hseen : p ∈ now.seen :=
        (Engine.mem_seen_afterPaths engine earlier p).mpr (Or.inr ⟨path', hmem, hp'⟩)
      obtain ⟨log, ho⟩ := Engine.processArchive_of_mem (of_decide_eq_true hp) hseen
      exact ⟨congrArg Outcome.records ho, congrArg Outcome.result ho, congrArg Outcome.engine ho⟩
    · intro hnone
      obtain ⟨cause, ho⟩ := Engine.processArchive_of_none now hnone
      exact ⟨congrArg Outcome.records ho, ⟨cause, congrArg Outcome.result ho⟩,
        congrArg Outcome.engine ho⟩

/-- Files that can also be named from the current directory on. -/
def aliased : String → Except FileError Input
  | "./A.class" => shelf "A.class"
  | "./B.class" => shelf "B.class"
  | path => shelf path

theorem collected_eraseDuplicates_aliased :
    let run := collected aliased {} .text true
    let o := ((Engine.start {}).afterPaths aliased ["B.class"]).processArchive "./B.class"
      (aliased "./B.class")
    (run ["A.class", "./A.class", "A.class", "B.class"]).state = (run ["A.class", "B.class"]).state ∧
      ((Engine.start {}).processArchive "B.class" (aliased "B.class")).result.toBool = false ∧
      o.records = [] ∧ o.result = .ok none := by
  intro run o
  obtain ⟨⟨hstate, -⟩, -, hengine⟩ := collected_eraseDuplicates aliased {} .text true
    ["A.class", "./A.class", "A.class", "B.class"]
  have hdistinct : ["A.class", "./A.class", "A.class", "B.class"].eraseDupsBy (sameArchive aliased) =
      ["A.class", "B.class"] := by decide +kernel
  rw [hdistinct] at hstate
  have hagain := (hengine (.start {}) ["B.class"] "./B.class").1
    ⟨"B.class", List.mem_singleton_self _, by decide +kernel⟩
  exact ⟨hstate, by decide +kernel, hagain.1, hagain.2.1⟩

end Run

end CallGraph
