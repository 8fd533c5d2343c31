import CallGraph.Class.Decode
import CallGraph.Proofs.Success
import Mathlib.Data.List.Basic

/-!
# The source line of an offset

A method may have several line number tables, in no particular order. They are put into one table,
ordered by offset, in which the entries of one offset stay in the order of the file; the lookup stops
at the first entry that starts later. So the line of an offset is that of the entry that starts last
at or before it, and of several such entries of the last one in the file.

* `Attribute.lineTables` — the line number tables of the code, in the order of the file
* `Governs` — the entry that gives the line of an offset
* `filter_start_ofEntries` — ordering keeps the entries of one offset in their order
* `getLast?_filter_ofEntries` — the last entry up to an offset is the one that governs it
* `sourceLine_of_governing` — the line that is found for an offset of a method that was read
-/

namespace CallGraph.LineTable

/-- The entry starts at or before the offset, no such entry starts later, and of those that start with
it none follows. -/
def Governs (entries : List LineEntry) (offset : Nat) (entry : LineEntry) : Prop :=
  entry.start ≤ offset ∧
    (∀ other ∈ entries, other.start ≤ offset → other.start ≤ entry.start) ∧
    ∃ before after, entries = before ++ entry :: after ∧
      ∀ other ∈ after, other.start ≠ entry.start

variable {entries table : List LineEntry} {offset start : Nat} {entry entry' : LineEntry}

/-! ## The ordered table -/

theorem startsBefore_trans (a b c : LineEntry) (hab : decide (a.start ≤ b.start) = true)
    (hbc : decide (b.start ≤ c.start) = true) : decide (a.start ≤ c.start) = true := by
  simp only [decide_eq_true_eq] at hab hbc ⊢
  omega

theorem startsBefore_total (a b : LineEntry) :
    (decide (a.start ≤ b.start) || decide (b.start ≤ a.start)) = true := by
  simp only [Bool.or_eq_true, decide_eq_true_eq]
  omega

theorem perm_ofEntries (entries : List LineEntry) : (ofEntries entries).Perm entries :=
  List.mergeSort_perm entries _

theorem pairwise_ofEntries (entries : List LineEntry) :
    (ofEntries entries).Pairwise fun a b => a.start ≤ b.start :=
  (List.pairwise_mergeSort startsBefore_trans startsBefore_total entries).imp of_decide_eq_true

/-- **Entries of one offset stay in their order.** -/
theorem filter_start_ofEntries (entries : List LineEntry) (start : Nat) :
    (ofEntries entries).filter (·.start = start) = entries.filter (·.start = start) := by
  have hsame : (entries.filter (·.start = start)).Pairwise
      fun a b => decide (a.start ≤ b.start) = true := by
    refine List.pairwise_of_forall_mem_list fun a ha b hb => ?_
    have hstart := (List.mem_filter.mp ha).2
    have hstart' := (List.mem_filter.mp hb).2
    simp only [decide_eq_true_eq] at hstart hstart' ⊢
    omega
  -- The entries of one offset are ordered as they stand, so ordering keeps them as a sublist.
  have hsub : (entries.filter (·.start = start)).Sublist (ofEntries entries) :=
    List.sublist_mergeSort startsBefore_trans startsBefore_total hsame List.filter_sublist
  have hfilter := hsub.filter (·.start = start)
  rw [List.filter_filter] at hfilter
  have hlength := ((perm_ofEntries entries).filter (·.start = start)).length_eq
  refine (List.Sublist.eq_of_length ?_ hlength.symm).symm
  simpa using hfilter

theorem takeWhile_of_pairwise (h : table.Pairwise fun a b => a.start ≤ b.start) (offset : Nat) :
    (table.takeWhile fun entry => decide (entry.start ≤ offset)) =
      table.filter (·.start ≤ offset) := by
  induction table with
  | nil => rfl
  | cons entry table ih =>
    obtain ⟨hhead, htail⟩ := List.pairwise_cons.mp h
    by_cases hentry : entry.start ≤ offset
    · simp [hentry, ih htail]
    · have hnone : table.filter (·.start ≤ offset) = [] := by
        refine List.filter_eq_nil_iff.mpr fun other hother => ?_
        have := hhead other hother
        simp only [decide_eq_true_eq]
        omega
      simp [hentry, hnone]

/-- The lookup takes the last of the entries up to the offset. -/
theorem lineAt?_ofEntries (entries : List LineEntry) (offset : Nat) :
    lineAt? (ofEntries entries) offset =
      ((ofEntries entries).filter (·.start ≤ offset)).getLast?.map LineEntry.line := by
  rw [lineAt?, takeWhile_of_pairwise (pairwise_ofEntries entries)]

/-! ## The entry that governs an offset -/

theorem Governs.mem (h : Governs entries offset entry) : entry ∈ entries := by
  obtain ⟨-, -, before, after, rfl, -⟩ := h
  simp

/-- Among the entries of its offset it is the last one. -/
theorem Governs.getLast?_filter (h : Governs entries offset entry) :
    (entries.filter (·.start = entry.start)).getLast? = some entry := by
  obtain ⟨-, -, before, after, rfl, hafter⟩ := h
  have hnone : after.filter (·.start = entry.start) = [] := by
    refine List.filter_eq_nil_iff.mpr fun other hother => ?_
    simpa using hafter other hother
  simp [hnone]

/-- An offset is governed by one entry at most. -/
theorem Governs.unique (h : Governs entries offset entry) (h' : Governs entries offset entry') :
    entry = entry' := by
  have hstart : entry.start = entry'.start :=
    Nat.le_antisymm (h'.2.1 entry h.mem h.1) (h.2.1 entry' h'.mem h'.1)
  have hlast := h.getLast?_filter
  rw [hstart, h'.getLast?_filter] at hlast
  exact (Option.some.inj hlast).symm

theorem governs_of_getLast?
    (h : ((ofEntries entries).filter (·.start ≤ offset)).getLast? = some entry) :
    Governs entries offset entry := by
  obtain ⟨front, hfront⟩ := List.getLast?_eq_some_iff.mp h
  have hentry : entry ∈ (ofEntries entries).filter (·.start ≤ offset) := by
    rw [hfront]
    simp
  have hoffset : entry.start ≤ offset := by simpa using (List.mem_filter.mp hentry).2
  refine ⟨hoffset, ?_, ?_⟩
  · -- The table is ordered, so its last entry up to the offset starts last.
    intro other hother hle
    have hmem : other ∈ front ++ [entry] := by
      rw [← hfront, List.mem_filter]
      exact ⟨(perm_ofEntries entries).mem_iff.mpr hother, decide_eq_true hle⟩
    have hsorted := (pairwise_ofEntries entries).sublist
      (List.filter_sublist : List.Sublist (List.filter (·.start ≤ offset) _) _)
    rw [hfront] at hsorted
    rcases List.mem_append.mp hmem with hother | hother
    · exact (List.pairwise_append.mp hsorted).2.2 other hother entry (List.mem_singleton_self _)
    · exact Nat.le_of_eq (congrArg LineEntry.start (List.mem_singleton.mp hother))
  · -- Of the entries that start with it, it is the last one in the table, hence in the file.
    have hupTo : (ofEntries entries).filter (·.start = entry.start) =
        ((ofEntries entries).filter (·.start ≤ offset)).filter (·.start = entry.start) := by
      rw [List.filter_filter]
      refine List.filter_congr fun other _ => ?_
      by_cases hother : other.start = entry.start
      · simp [hother, hoffset]
      · simp [hother]
    have hlast : entries.filter (·.start = entry.start) =
        front.filter (·.start = entry.start) ++ [entry] := by
      rw [← filter_start_ofEntries, hupTo, hfront, List.filter_append]
      simp
    obtain ⟨left, right, rfl, -, hright⟩ := List.filter_eq_append_iff.mp hlast
    obtain ⟨middle, after, rfl, -, -, hafter⟩ := List.filter_eq_cons_iff.mp hright
    refine ⟨left ++ middle, after, by simp, fun other hother => ?_⟩
    simpa using List.filter_eq_nil_iff.mp hafter other hother

/-- **The last entry up to an offset is the one that governs it.** -/
theorem getLast?_filter_ofEntries :
    ((ofEntries entries).filter (·.start ≤ offset)).getLast? = some entry ↔
      Governs entries offset entry := by
  refine ⟨governs_of_getLast?, fun h => ?_⟩
  have hmem : entry ∈ (ofEntries entries).filter (·.start ≤ offset) :=
    List.mem_filter.mpr ⟨(perm_ofEntries entries).mem_iff.mpr h.mem, decide_eq_true h.1⟩
  cases hlast : ((ofEntries entries).filter (·.start ≤ offset)).getLast? with
  | none =>
    rw [List.getLast?_eq_none_iff.mp hlast] at hmem
    simp at hmem
  | some entry' => rw [h.unique (governs_of_getLast? hlast)]

end CallGraph.LineTable

/-! ## Methods that were read -/

namespace CallGraph.Attribute

/-- The entries of a line number table. -/
def lineTable? : Attribute → Option (List LineEntry)
  | lineNumbers entries => some entries
  | _ => none

/-- The line number tables among attributes, in the order of the file. -/
def lineTables (attributes : List Attribute) : List (List LineEntry) :=
  attributes.filterMap lineTable?

theorem lineEntries_eq (attributes : List Attribute) :
    lineEntries attributes = (lineTables attributes).flatten := by
  unfold lineTables
  induction attributes with
  | nil => rfl
  | cons a attributes ih =>
    rw [lineEntries, List.flatMap_cons, ← lineEntries, ih]
    cases a <;> rfl

/-- The code is that of the first code attribute. -/
theorem code?_of_first {before : List Attribute} (hfirst : ∀ bytes nested, code bytes nested ∉ before)
    (bytes : List UInt8) (nested after : List Attribute) :
    code? (before ++ code bytes nested :: after) = some (bytes, nested) := by
  induction before with
  | nil => rfl
  | cons a before ih =>
    have hrest := ih fun bytes nested h => hfirst bytes nested (List.mem_cons_of_mem _ h)
    cases a with
    | code bytes nested => exact absurd List.mem_cons_self (hfirst bytes nested)
    | lineNumbers | annotations | bootstrapMethods | other => exact hrest

end CallGraph.Attribute

/-- A method that was read has the line table of its code. -/
theorem CallGraph.MethodInfo.lines_of_decode {pool : Pool} {info : MethodInfo} {m : Method}
    {lines : List LineEntry} {instructions : List Instruction}
    (hbody : body pool info.attributes = .ok (lines, instructions))
    (h : info.decode pool = .ok m) : m.lines = lines := by
  obtain ⟨name, -, h⟩ := exists_of_bind_eq_ok h
  obtain ⟨descriptor, -, h⟩ := exists_of_bind_eq_ok h
  obtain ⟨arguments, -, h⟩ := exists_of_bind_eq_ok h
  obtain ⟨annotations, -, h⟩ := exists_of_bind_eq_ok h
  rw [hbody] at h
  cases h
  rfl

namespace CallGraph.Method

open LineTable (Governs)

/-- **The source line of an offset.** Let a method have its first code attribute after `before`, and
let the code be readable. Then its line table can be built, and with the entries of the line number
tables of the code, one table after the other in the order of the file, an offset has no line if all
entries start after it. Otherwise its line is that of the entry that starts last at or before the
offset, and of several such entries of the last one in the file. -/
theorem sourceLine_of_governing (pool : Pool) (before nested after : List Attribute)
    (code : List UInt8) (instructions : List Instruction)
    (hfirst : ∀ bytes attributes, Attribute.code bytes attributes ∉ before)
    (hcode : Bytecode.instructions pool code = .ok instructions) :
    let attributes := before ++ .code code nested :: after
    let entries := (Attribute.lineTables nested).flatten
    ∃ lines, MethodInfo.body pool attributes = .ok (lines, instructions) ∧
      (∀ info m, info.attributes = attributes → MethodInfo.decode pool info = .ok m →
        m.lines = lines) ∧
      ∀ (m : Method) (offset : Nat), m.lines = lines →
        (m.lineAt? offset = none ↔ ∀ entry ∈ entries, offset < entry.start) ∧
        ∀ line, m.lineAt? offset = some line ↔
          ∃ entry, Governs entries offset entry ∧ entry.line = line := by
  intro attributes entries
  have hbody : MethodInfo.body pool attributes =
      .ok (LineTable.ofEntries entries, instructions) := by
    unfold MethodInfo.body
    rw [Attribute.code?_of_first hfirst]
    simp only [hcode, Attribute.lineEntries_eq]
    rfl
  refine ⟨_, hbody, ?_, ?_⟩
  · rintro info m hattributes hdecode
    rw [← hattributes] at hbody
    exact MethodInfo.lines_of_decode hbody hdecode
  · intro m offset hlines
    have hline : m.lineAt? offset = _ :=
      (congrArg (LineTable.lineAt? · offset) hlines).trans (LineTable.lineAt?_ofEntries entries offset)
    rw [hline]
    constructor
    · rw [Option.map_eq_none_iff, List.getLast?_eq_none_iff, List.filter_eq_nil_iff]
      simp [(LineTable.perm_ofEntries entries).mem_iff]
    · intro line
      rw [Option.map_eq_some_iff]
      exact exists_congr fun entry => and_congr_left' LineTable.getLast?_filter_ofEntries

/-- Two line number tables. Neither is ordered, and both have an entry for offset 2. -/
def shuffled : List Attribute :=
  [.lineNumbers [⟨8, 30⟩, ⟨2, 10⟩], .other "StackMapTable", .lineNumbers [⟨4, 20⟩, ⟨2, 11⟩]]

theorem sourceLine_of_governing_shuffled :
    let pool : Pool := ⟨#[.unused, .utf8 "run", .utf8 "()V"]⟩
    let info : MethodInfo := ⟨1, 1, 2, [.other "Signature", .code [0xB1] shuffled]⟩
    ∃ m, info.decode pool = .ok m ∧ m.lineAt? 1 = none ∧ m.lineAt? 3 = some 11 ∧
      m.lineAt? 7 = some 20 ∧ m.lineAt? 9 = some 30 := by
  intro pool info
  have hcode : Bytecode.instructions pool [0xB1] = .ok [⟨0, .other 0xB1⟩] := by decide +kernel
  obtain ⟨lines, hlines, -, hline⟩ := sourceLine_of_governing pool [.other "Signature"] shuffled []
    [0xB1] _ (by simp) hcode
  have hbody : MethodInfo.body pool info.attributes = _ := hlines
  have hname : pool.utf8 info.name = .ok "run" := rfl
  have hdescriptor : pool.utf8 info.descriptor = .ok "()V" := rfl
  have harguments : MethodDescriptor.argumentNames "()V" = .ok [] := by decide +kernel
  have hread : info.decode pool = .ok ⟨"run", [], .ofBits 1, [], lines, [⟨0, .other 0xB1⟩]⟩ := by
    simp only [MethodInfo.decode, hname, hdescriptor, harguments, hbody, Except.mapError, bind,
      Except.bind]
    rfl
  refine ⟨_, hread, (hline _ 1 rfl).1.mpr (by decide), ?_, ?_, ?_⟩
  · exact ((hline _ 3 rfl).2 11).mpr
      ⟨⟨2, 11⟩, ⟨by decide, by decide, [⟨8, 30⟩, ⟨2, 10⟩, ⟨4, 20⟩], [], rfl, by simp⟩, rfl⟩
  · exact ((hline _ 7 rfl).2 20).mpr
      ⟨⟨4, 20⟩, ⟨by decide, by decide, [⟨8, 30⟩, ⟨2, 10⟩], [⟨2, 11⟩], rfl, by decide⟩, rfl⟩
  · exact ((hline _ 9 rfl).2 30).mpr
      ⟨⟨8, 30⟩, ⟨by decide, by decide, [], [⟨2, 10⟩, ⟨4, 20⟩, ⟨2, 11⟩], rfl, by decide⟩, rfl⟩

end CallGraph.Method
