import CallGraph.Proofs.Outcome
import CallGraph.Run
import Mathlib.Data.List.Induction

/-!
# What a run writes

A run writes what an archive reports as soon as the archive is done, and stops at the first archive
that fails. So more paths only add to what is written, and nothing is written after a failure.

* `Run.archives_append` — a run over two lists goes on where the run over the first one ended
* `Engine.FailsAfter` — what an archive has reported when it fails
* `collected_streams` — the streams of a run begin those of a longer one, and how they end at a
  failure
-/

namespace CallGraph

/-! ## Lines -/

@[simp] theorem Written.append_empty (a : Written) : a ++ ({} : Written) = a := by
  show Written.append a {} = a
  simp [Written.append]

/-- The records as lines of text. -/
def Record.lines (format : OutputFormat) (records : List Record) : String :=
  String.join (records.map fun r => r.line format ++ "\n")

theorem Record.lines_append (format : OutputFormat) (records more : List Record) :
    lines format (records ++ more) = lines format records ++ lines format more := by
  unfold lines
  rw [List.map_append, String.join_append]

namespace Sink

/-- What the sink is after writing: only the count of dropped annotations changes. -/
theorem fst_writeAll (sink : Sink) (records : List Record) :
    (sink.writeAll records).1 = { sink with
      dropped := sink.dropped +
        if sink.keepsAnnotations then 0 else (records.filter (·.isAnnotated)).length } := by
  induction records generalizing sink with
  | nil => simp [writeAll]
  | cons r records ih =>
    simp only [writeAll, write]
    cases ha : r.isAnnotated <;> cases hk : sink.keepsAnnotations <;>
      simp [ih, ha, hk, Nat.add_assoc, Nat.add_comm 1]

/-- All but annotations go to the stream of edges. -/
theorem edges_writeAll (sink : Sink) (records : List Record) :
    (sink.writeAll records).2.edges =
      Record.lines sink.format (records.filter (!·.isAnnotated)) := by
  induction records generalizing sink with
  | nil => rfl
  | cons r records ih =>
    simp only [writeAll, write]
    cases ha : r.isAnnotated <;> cases hk : sink.keepsAnnotations <;>
      simp [ih, ha, Record.lines]

/-- Annotations go to their own stream, if there is one. -/
theorem annotations_writeAll (sink : Sink) (records : List Record) :
    (sink.writeAll records).2.annotations =
      if sink.keepsAnnotations then Record.lines sink.format (records.filter (·.isAnnotated))
      else "" := by
  induction records generalizing sink with
  | nil => cases hk : sink.keepsAnnotations <;> rfl
  | cons r records ih =>
    simp only [writeAll, write]
    cases ha : r.isAnnotated <;> cases hk : sink.keepsAnnotations <;>
      simp [ih, ha, hk, Record.lines]

/-- After a flush nothing is left of what was written before. -/
theorem fst_flush_writeAll (sink : Sink) (records : List Record) :
    (sink.writeAll records).1.flush.1 = { sink with dropped := 0 } := by
  rw [fst_writeAll]
  generalize sink.dropped + _ = n
  cases n with
  | zero => rfl
  | succ n => rfl

end Sink

/-! ## Runs over two lists -/

namespace Run

variable {σ : Type} {host : Host σ} {sink : Sink} {state : σ} {engine : Engine} {totals : Totals}
  {path : String} {paths : List String} {e : ArchiveError}

/-- A run that goes on, unless it has failed. -/
def andThen (first next : Run σ) : Run σ :=
  match first.result with
  | .error _ => first
  | .ok () => { next with log := first.log ++ next.log, spans := first.spans ++ next.spans }

theorem andThen_of_error {first : Run σ} (h : first.result = .error e) (next : Run σ) :
    first.andThen next = first := by
  unfold andThen
  rw [h]

theorem andThen_of_ok {first : Run σ} (h : first.result = .ok ()) (next : Run σ) :
    first.andThen next =
      { next with log := first.log ++ next.log, spans := first.spans ++ next.spans } := by
  unfold andThen
  rw [h]

theorem andThen_assoc (a b c : Run σ) : (a.andThen b).andThen c = a.andThen (b.andThen c) := by
  obtain ⟨_, _, _, _, _, _ | _⟩ := a
  · rfl
  · obtain ⟨_, _, _, _, _, _ | _⟩ := b
    · rfl
    · simp [andThen]

/-- What one archive comes to: its records are written, and its summary counts. -/
def ofOutcome (host : Host σ) (state : σ) (sink : Sink) (totals : Totals)
    (o : Outcome ArchiveError (Option Summary)) : Run σ where
  state := host.write state (sink.writeAll o.records).2
  engine := o.engine
  totals := totals.add (o.result.toOption.getD none)
  log := o.log ++ (sink.writeAll o.records).1.flush.2
  spans := o.spans
  result := o.result.map fun _ => ()

@[simp] theorem archives_nil (host : Host σ) (state : σ) (engine : Engine) (sink : Sink)
    (totals : Totals) :
    archives host state engine sink totals [] = ⟨state, engine, totals, [], [], .ok ()⟩ := rfl

/-- A run processes the first path and then, unless that fails, the others. -/
theorem archives_cons (hs : sink.dropped = 0) (state : σ) (engine : Engine) (totals : Totals)
    (path : String) (paths : List String) :
    archives host state engine sink totals (path :: paths) =
      let first := ofOutcome host state sink totals
        (engine.processArchive path (host.locate state path))
      first.andThen (archives host first.state first.engine sink first.totals paths) := by
  have hsink : ∀ records, (sink.writeAll records).1.flush.1 = sink := by
    intro records
    rw [Sink.fst_flush_writeAll, ← hs]
  rw [archives, processAll]
  simp only [Host.port, StateT.run_bind, StateT.run_pure, StateT.run_get, StateT.run_modify,
    pure_bind, hsink]
  generalize engine.processArchive path (host.locate state path) = o
  obtain ⟨engine', records, log, spans, e | summary⟩ := o
  · rfl
  · rfl

/-- **A run over two lists** is a run over the first and then, from where that one ended, over the
second. -/
theorem archives_append (hs : sink.dropped = 0) (state : σ) (engine : Engine) (totals : Totals)
    (xs ys : List String) :
    archives host state engine sink totals (xs ++ ys) =
      let first := archives host state engine sink totals xs
      first.andThen (archives host first.state first.engine sink first.totals ys) := by
  induction xs generalizing state engine totals with
  | nil => rfl
  | cons path xs ih =>
    simp only [List.cons_append, archives_cons hs, ih]
    generalize ofOutcome host state sink totals _ = first
    cases hr : first.result with
    | error e => simp only [andThen_of_error hr]
    | ok u =>
      rw [← andThen_assoc]
      simp only [andThen_of_ok hr]

/-- A run that fails stops at a path: the run up to it did not fail. -/
theorem exists_failing (hs : sink.dropped = 0)
    (h : (archives host state engine sink totals paths).result = .error e) :
    ∃ before path after, paths = before ++ path :: after ∧
      let first := archives host state engine sink totals before
      let outcome := first.engine.processArchive path (host.locate first.state path)
      first.result = .ok () ∧ outcome.result = .error e ∧
        (archives host state engine sink totals paths).state =
          host.write first.state (sink.writeAll outcome.records).2 := by
  induction paths using List.reverseRecOn with
  | nil => simp at h
  | append_singleton paths path ih =>
    cases hr : (archives host state engine sink totals paths).result with
    | error e' =>
      rw [archives_append hs, andThen_of_error hr] at h ⊢
      obtain ⟨before, stop, after, rfl, hstop⟩ := ih h
      exact ⟨before, stop, after ++ [path], by simp, hstop⟩
    | ok u =>
      refine ⟨paths, path, [], rfl, hr, ?_⟩
      rw [archives_append hs] at h ⊢
      simp only [andThen_of_ok hr, archives_cons hs] at h ⊢
      generalize Engine.processArchive _ path _ = o at h ⊢
      obtain ⟨_, _, _, _, e' | summary⟩ := o
      · obtain rfl : e' = e := Except.error.inj h
        exact ⟨rfl, rfl⟩
      · simp [ofOutcome, Except.map, andThen] at h

/-! ## Files that never change -/

/-- The run from the beginning over paths of a file system that never changes. -/
def collected (locate : String → Except FileError Input) (config : EngineConfig)
    (format : OutputFormat) (keepsAnnotations : Bool) (paths : List String) : Run Written :=
  archives (.collecting locate) {} (.start config) { format, keepsAnnotations } {} paths

variable {locate : String → Except FileError Input}

/-- What was written before stays at the front, and nothing else depends on it. -/
theorem archives_collecting (hs : sink.dropped = 0) (written : Written) (engine : Engine)
    (totals : Totals) (paths : List String) :
    archives (.collecting locate) written engine sink totals paths =
      { archives (.collecting locate) {} engine sink totals paths with
        state := written ++ (archives (.collecting locate) {} engine sink totals paths).state } := by
  have hwrite : ∀ a b : Written, (Host.collecting locate).write a b = a ++ b := fun _ _ => rfl
  have hlocate : ∀ a : Written, (Host.collecting locate).locate a = locate := fun _ => rfl
  induction paths generalizing written engine totals with
  | nil => simp only [archives_nil, Written.append_empty]
  | cons path paths ih =>
    simp only [archives_cons hs, hlocate]
    generalize engine.processArchive path (locate path) = o
    obtain ⟨engine', records, log, spans, e | summary⟩ := o
    · simp only [ofOutcome, andThen, Except.map, hwrite, Written.empty_append]
    · simp only [ofOutcome, andThen, Except.map, hwrite, Written.empty_append]
      rw [ih (written ++ _), ih (sink.writeAll records).2, Written.append_assoc]

end Run

/-! ## Archives that fail -/

namespace Engine

variable {engine : Engine} {path : String} {located : Except FileError Input} {e : ArchiveError}

/-- What an archive has reported when it fails, and why it fails: nothing if there is no such
archive, its header if it cannot be decoded, and otherwise its header and, for each of its classes,
the references and the edges of the code. -/
inductive FailsAfter (engine : Engine) (path : String) :
    Except FileError Input → ArchiveError → List Record → Prop
  | notFound (cause : FileError) :
      FailsAfter engine path (.error cause) (.inputNotFound path cause) []
  | notDecoded {input : Input} {cause : ScanError}
      (hscan : (Archive.scan input.path input.found).result = .error cause) :
      FailsAfter engine path (.ok input) (.failed input.path (.scan cause))
        [.archive (engine.archiveCount + 1) input.path]
  | notWalked {input : Input} {classes : List Class} {extracted : List (Class × List Edge)}
      {cause : HierarchyError}
      (hscan : (Archive.scan input.path input.found).result = .ok classes)
      (hall : extracted.map Prod.fst = classes)
      (hedges : ((engine.meet input.path).visited (engine.archiveCount + 1) classes).2 = extracted)
      (hwalk : ((engine.meet input.path).forestWalk (engine.archiveCount + 1) classes).edges =
        .error cause) :
      FailsAfter engine path (.ok input) (.failed input.path (.hierarchy cause))
        (.archive (engine.archiveCount + 1) input.path ::
          extracted.flatMap engine.config.classRecords)

theorem map_fst_extract (facts : Facts) (archive : Nat) (classes : List Class) :
    (facts.extract archive classes).2.map Prod.fst = classes := by
  induction classes generalizing facts with
  | nil => rfl
  | cons c classes ih => exact congrArg (c :: ·) (ih _)

/-- An archive that fails fails in one of the three ways. -/
theorem failsAfter_of_error (h : (engine.processArchive path located).result = .error e) :
    engine.FailsAfter path located e (engine.processArchive path located).records := by
  unfold processArchive at h ⊢
  cases located with
  | error cause =>
    obtain rfl := Except.error.inj h
    exact .notFound cause
  | ok input =>
    simp only at h ⊢
    split at h
    · simp at h
    · next hseen =>
      rw [if_neg hseen]
      unfold processInput at h ⊢
      simp only at h ⊢
      split at h
      · next cause hscan =>
        obtain rfl := Except.error.inj h
        exact .notDecoded hscan
      · next classes hscan =>
        simp only at h ⊢
        cases hw : ((engine.meet input.path).forestWalk (engine.archiveCount + 1) classes).edges with
        | error cause =>
          obtain ⟨hr, hrecords, -⟩ := processClasses_of_error hw
          simp only [meet] at hr hrecords h ⊢
          rw [hr] at h
          obtain rfl := Except.error.inj h
          rw [hrecords]
          exact .notWalked hscan (map_fst_extract _ _ _) rfl hw
        | ok hierarchy =>
          obtain ⟨⟨summary, hr⟩, -⟩ := processClasses_of_ok hw
          simp only [meet] at hr h
          rw [hr] at h
          simp at h

/-- Whatever an archive that fails has reported, there are no annotations and no edges of
inheritance or dispatch in it. -/
theorem FailsAfter.plain {records : List Record} (h : engine.FailsAfter path located e records)
    {r : Record} (hr : r ∈ records) :
    r.isAnnotated = false ∧
      ∀ edge, r = .edge edge → edge.kind.isInherited = false ∧ edge.kind ≠ .dispatch := by
  cases h with
  | notFound => simp at hr
  | notDecoded => simp_all [Record.isAnnotated]
  | @notWalked input classes extracted cause _ _ hedges _ =>
    rcases List.mem_cons.mp hr with rfl | hr
    · simp [Record.isAnnotated]
    · have hcode : r ∈ (engine.meet input.path).codeRecords (engine.archiveCount + 1) classes := by
        unfold codeRecords
        rw [hedges]
        exact hr
      constructor
      · have hnone := isAnnotated_codeRecords (engine.meet input.path) (engine.archiveCount + 1) classes
        simpa using List.filter_eq_nil_iff.mp hnone r hcode
      · rintro edge rfl
        have hmem : edge ∈ List.filterMap Record.edge? _ := List.mem_filterMap.mpr ⟨_, hcode, rfl⟩
        rw [edge?_codeRecords] at hmem
        exact EdgeKind.isInherited_of_isFromCode (Facts.isFromCode_of_mem_extract hmem)

end Engine

namespace Run

/-- **The streams of a run begin those of a run over more paths, and a run that fails writes the
same whatever follows.** What was written before the archive that fails stays; of that archive there
are the header, if there is such an archive, and, if it could be decoded, the class references and
the edges of the code of all its classes, but no edges of inheritance or dispatch and no
annotations. -/
theorem collected_streams (locate : String → Except FileError Input) (config : EngineConfig)
    (format : OutputFormat) (keepsAnnotations : Bool) (xs ys : List String) :
    let run := collected locate config format keepsAnnotations
    (run xs).state.edges.toList <+: (run (xs ++ ys)).state.edges.toList ∧
    (run xs).state.annotations.toList <+: (run (xs ++ ys)).state.annotations.toList ∧
    ∀ e, (run xs).result = .error e →
      (run (xs ++ ys)).result = .error e ∧ (run (xs ++ ys)).state = (run xs).state ∧
      ∃ before path after records, xs = before ++ path :: after ∧ (run before).result = .ok () ∧
        (run before).engine.FailsAfter path (locate path) e records ∧
        (∀ r ∈ records, r.isAnnotated = false ∧
          ∀ edge, r = .edge edge → edge.kind.isInherited = false ∧ edge.kind ≠ .dispatch) ∧
        (run xs).state.edges = (run before).state.edges ++ Record.lines format records ∧
        (run xs).state.annotations = (run before).state.annotations := by
  intro run
  have happend : run (xs ++ ys) = (run xs).andThen _ := archives_append rfl _ _ _ _ _
  have hstate : ∃ more : Written, (run (xs ++ ys)).state = (run xs).state ++ more := by
    rw [happend]
    unfold andThen
    split
    · exact ⟨{}, (Written.append_empty _).symm⟩
    · rw [archives_collecting rfl]
      exact ⟨_, rfl⟩
  obtain ⟨more, hmore⟩ := hstate
  refine ⟨?_, ?_, ?_⟩
  · rw [hmore, Written.edges_append, String.toList_append]
    exact List.prefix_append _ _
  · rw [hmore, Written.annotations_append, String.toList_append]
    exact List.prefix_append _ _
  · intro e he
    have hsame : run (xs ++ ys) = run xs := happend.trans (andThen_of_error he _)
    obtain ⟨before, path, after, hxs, hok, herr, hlast⟩ := exists_failing rfl he
    have hfails := Engine.failsAfter_of_error herr
    generalize Engine.processArchive _ path _ = o at herr hlast hfails
    have hplain : ∀ r ∈ o.records, r.isAnnotated = false := fun r hr => (hfails.plain hr).1
    have hedges : o.records.filter (!·.isAnnotated) = o.records :=
      List.filter_eq_self.mpr fun r hr => by simp [hplain r hr]
    have hnone : o.records.filter (·.isAnnotated) = [] :=
      List.filter_eq_nil_iff.mpr fun r hr => by simp [hplain r hr]
    refine ⟨by rw [hsame, he], by rw [hsame], before, path, after, o.records, hxs, hok, hfails,
      fun r hr => hfails.plain hr, ?_, ?_⟩
    · refine (congrArg Written.edges hlast).trans (congrArg (_ ++ ·) ?_)
      rw [Sink.edges_writeAll, hedges]
    · refine (congrArg Written.annotations hlast).trans ?_
      refine (congrArg (_ ++ ·) ?_).trans String.append_empty
      rw [Sink.annotations_writeAll, hnone]
      split <;> rfl

/-- Two class files, of which the first one has a class without methods and the second one is empty.
-/
def shelf : String → Except FileError Input
  | "A.class" => .ok ⟨"/A.class", .ok (.file ⟨#[0xCA, 0xFE, 0xBA, 0xBE, 0, 0, 0, 52, 0, 3,
      1, 0, 1, 65, 7, 0, 1, 0, 0x21, 0, 2, 0, 0, 0, 0, 0, 0, 0, 0, 0, 0]⟩)⟩
  | "B.class" => .ok ⟨"/B.class", .ok (.file .empty)⟩
  | _ => .error .notFound

theorem collected_streams_shelf :
    let run := collected shelf {} .text true
    let e := ArchiveError.failed "/B.class" (.scan (.parseClass "/B.class" "/B.class" .malformed))
    (run ["A.class", "B.class"]).result = .error e ∧
      (run ["A.class", "B.class"]).state.edges = "J:1 /A.class\nJ:2 /B.class\n" ∧
      (run ["A.class", "B.class", "C.class"]).result = .error e ∧
      (run ["A.class", "B.class", "C.class"]).state = (run ["A.class", "B.class"]).state := by
  intro run e
  have he : (run ["A.class", "B.class"]).result = .error e := by decide +kernel
  have hs := (collected_streams shelf {} .text true ["A.class", "B.class"] ["C.class"]).2.2 e he
  exact ⟨he, by decide +kernel, hs.1, hs.2.1⟩

end Run

end CallGraph
