import CallGraph.Proofs.ByteOrder
import CallGraph.Proofs.ExtractedArchive
import CallGraph.Proofs.Success
import Mathlib.Data.List.Sort
import Mathlib.Data.String.Basic

/-!
# The order of class files in a directory

Members of a directory are sorted before they are looked into, so files come in the order of the
lists of names that lead to them. This is not the order of their paths: the files below `a` come
before `a$b.class`, although a slash is greater than a dollar sign.

* `Node.IsProper` — directories whose members have different names
* `Path.Before` — the order of lists of names
* `Node.pairwise_walk` — files are met in that order
* `Node.Relisted` — the same tree with its directories listed in another order
* `Archive.scan_directory` — which class files a directory has, in which order
-/

namespace CallGraph

/-! ## Names -/

namespace Path

/-- What names are compared by. -/
def component (name : String) : List UInt8 := Text.bytes (key name)

/-- Names are compared one by one, from the first one on. -/
def Before (names names' : List String) : Prop := names.map component < names'.map component

/-- Names differ in their form for comparison: only a backslash becomes a slash. -/
theorem key_inj {name name' : String} (h : IsName name) (h' : IsName name')
    (he : key name = key name') : name = name' := by
  have hback : ∀ {name : String}, IsName name →
      (key name).toList.map (fun c => if c = '/' then '\\' else c) = name.toList := by
    intro name hn
    unfold key
    rw [Text.toList_replace, List.map_map]
    refine (List.map_congr_left fun c hc => ?_).trans (List.map_id _)
    have hslash : c ≠ '/' := fun hc' => hn.2 (hc' ▸ hc)
    by_cases hc : c = '\\'
    · simp [hc]
    · simp [hc, hslash]
  apply String.toList_inj.mp
  rw [← hback h, ← hback h', he]

theorem before_of_key_lt {name name' : String} (h : key name < key name')
    (names names' : List String) : Before (name :: names) (name' :: names') :=
  List.cons_lt_cons_iff.mpr (Or.inl ((Text.bytes_lt_iff _ _).mpr h))

theorem Before.cons {names names' : List String} (h : Before names names') (name : String) :
    Before (name :: names) (name :: names') :=
  List.cons_lt_cons_iff.mpr (Or.inr ⟨rfl, h⟩)

theorem descend_empty {names : List String} (hn : ∀ name ∈ names, IsName name) :
    descend "" names = String.intercalate "/" names := by
  cases names with
  | nil => rfl
  | cons name names =>
    have hname := hn name List.mem_cons_self
    have hjoin : join "" name = name := by simp [join]
    show descend (join "" name) names = _
    rw [hjoin, descend_eq_append hname.1 hname.endsIn_slash
      fun n hm => hn n (List.mem_cons_of_mem _ hm), intercalate_cons]

end Path

/-! ## Trees -/

namespace Node

variable {members : List (String × Node)}

/-- Every member of a directory has a name, and no other member has it too. -/
inductive IsProper : Node → Prop
  | file (content : ByteArray) : IsProper (.file content)
  | directory {members : List (String × Node)} (isName : ∀ m ∈ members, Path.IsName m.1)
      (nodup : (members.map Prod.fst).Nodup) (below : ∀ m ∈ members, IsProper m.2) :
      IsProper (.directory members)

theorem mem_files_directory {names : List String} {content : ByteArray} :
    (names, content) ∈ (directory members).files ↔
      ∃ m ∈ members, ∃ rest, names = m.1 :: rest ∧ (rest, content) ∈ m.2.files := by
  rw [files, List.mem_flatMap]
  constructor
  · rintro ⟨m, hm, hf⟩
    obtain ⟨⟨rest, bytes⟩, hrest, he⟩ := List.mem_map.mp hf
    obtain ⟨rfl, rfl⟩ := Prod.mk.inj he
    exact ⟨m, hm, rest, rfl, hrest⟩
  · rintro ⟨m, hm, rest, rfl, hrest⟩
    exact ⟨m, hm, List.mem_map.mpr ⟨(rest, content), hrest, rfl⟩⟩

theorem find?_name (h : (members.map Prod.fst).Nodup) {m : String × Node} (hm : m ∈ members) :
    members.find? (·.1 = m.1) = some m := by
  induction members with
  | nil => cases hm
  | cons first members ih =>
    obtain ⟨hfirst, hrest⟩ := List.nodup_cons.mp h
    rcases List.mem_cons.mp hm with rfl | hm
    · simp
    · have hne : first.1 ≠ m.1 := fun he => hfirst (he ▸ List.mem_map_of_mem hm)
      rw [List.find?_cons_of_neg (by simpa using hne)]
      exact ih hrest hm

/-- **The files of a tree are what names lead to.** -/
theorem mem_files_iff {node : Node} (h : node.IsProper) {names : List String}
    {content : ByteArray} :
    (names, content) ∈ node.files ↔ node.get? names = some (.file content) := by
  induction h generalizing names with
  | file bytes =>
    rw [files, List.mem_singleton]
    cases names with
    | nil => simp [get?, eq_comm]
    | cons name names => simp [get?, member?]
  | @directory members _ hnodup _ ih =>
    rw [mem_files_directory]
    cases names with
    | nil => simp [get?]
    | cons name names =>
      simp only [get?, member?, Option.bind_eq_some_iff, Option.map_eq_some_iff]
      constructor
      · rintro ⟨m, hm, rest, he, hrest⟩
        obtain ⟨rfl, rfl⟩ := List.cons.inj he
        exact ⟨m.2, ⟨m, find?_name hnodup hm, rfl⟩, (ih m hm).mp hrest⟩
      · rintro ⟨_, ⟨m, hfind, rfl⟩, hget⟩
        have hm := List.mem_of_find?_eq_some hfind
        have hname : m.1 = name := by simpa using List.find?_some hfind
        exact ⟨m, hm, names, by rw [hname], (ih m hm).mpr hget⟩

theorem isName_of_mem_files {node : Node} (h : node.IsProper) {f : List String × ByteArray}
    (hf : f ∈ node.files) : ∀ name ∈ f.1, Path.IsName name := by
  induction h generalizing f with
  | file bytes =>
    rw [files, List.mem_singleton] at hf
    simp [hf]
  | @directory members hname _ _ ih =>
    obtain ⟨m, hm, rest, hnames, hrest⟩ := mem_files_directory.mp hf
    rw [hnames, List.forall_mem_cons]
    exact ⟨hname m hm, ih m hm hrest⟩

/-! ## The order of the walk -/

/-- What is met below each member of a directory, by what members are sorted by. -/
def branches (members : List (String × Node)) : List (String × List (List String × ByteArray)) :=
  members.map fun m => (Path.key m.1, m.2.walk.map fun f => (m.1 :: f.1, f.2))

theorem walk_directory (members : List (String × Node)) :
    (directory members).walk =
      ((branches members).mergeSort fun a b => decide (a.1 ≤ b.1)).flatMap Prod.snd := by
  rw [walk, branches]

/-- Sorted members come in the strict order of their names. -/
theorem pairwise_branches (hname : ∀ m ∈ members, Path.IsName m.1)
    (hnodup : (members.map Prod.fst).Nodup) :
    ((branches members).mergeSort fun a b => decide (a.1 ≤ b.1)).Pairwise fun a b => a.1 < b.1 := by
  have hsorted : ((branches members).mergeSort fun a b => decide (a.1 ≤ b.1)).Pairwise
      fun a b => decide (a.1 ≤ b.1) = true := by
    refine List.pairwise_mergeSort (fun a b c hab hbc => ?_) (fun a b => ?_) _
    · simp only [decide_eq_true_eq] at hab hbc ⊢
      exact le_trans hab hbc
    · simpa using le_total a.1 b.1
  have hne : (branches members).Pairwise fun a b => a.1 ≠ b.1 := by
    refine List.pairwise_map.mpr ((List.pairwise_map.mp hnodup).imp_of_mem ?_)
    intro m m' hm hm' hne he
    exact hne (Path.key_inj (hname m hm) (hname m' hm') he)
  have hne' := ((List.mergeSort_perm (branches members) fun a b => decide (a.1 ≤ b.1)).pairwise_iff
    fun h => h.symm).mpr hne
  exact (hsorted.and hne').imp fun h => lt_of_le_of_ne (of_decide_eq_true h.1) h.2

/-- **Files are met in the order of their names.** -/
theorem pairwise_walk {node : Node} (h : node.IsProper) :
    node.walk.Pairwise fun f g => Path.Before f.1 g.1 := by
  induction h with
  | file content =>
    rw [walk]
    exact List.pairwise_singleton _ _
  | @directory members hname hnodup _ ih =>
    rw [walk_directory, List.pairwise_flatMap]
    constructor
    · intro branch hb
      obtain ⟨m, hm, rfl⟩ := List.mem_map.mp (List.mem_mergeSort.mp hb)
      exact List.pairwise_map.mpr ((ih m hm).imp fun h => h.cons m.1)
    · refine (pairwise_branches hname hnodup).imp_of_mem fun ha hb hlt f hf g hg => ?_
      obtain ⟨m, -, rfl⟩ := List.mem_map.mp (List.mem_mergeSort.mp ha)
      obtain ⟨m', -, rfl⟩ := List.mem_map.mp (List.mem_mergeSort.mp hb)
      obtain ⟨f', -, rfl⟩ := List.mem_map.mp hf
      obtain ⟨g', -, rfl⟩ := List.mem_map.mp hg
      exact Path.before_of_key_lt hlt f'.1 g'.1

instance : Std.Antisymm fun f g : List String × ByteArray => Path.Before f.1 g.1 :=
  ⟨fun _ _ h h' => absurd h' (List.lt_asymm h)⟩

/-- There is only one way to list the files of a tree in that order. -/
theorem eq_walk {node : Node} (h : node.IsProper) {found : List (List String × ByteArray)}
    (hperm : found.Perm node.files) (hsorted : found.Pairwise fun f g => Path.Before f.1 g.1) :
    found = node.walk :=
  (hperm.trans (walk_perm_files node).symm).eq_of_pairwise' hsorted (pairwise_walk h)

/-! ## Other listings -/

/-- The same tree with the members of its directories listed in another order. -/
inductive Relisted : Node → Node → Prop
  | refl (node : Node) : Relisted node node
  | trans {a b c : Node} (hab : Relisted a b) (hbc : Relisted b c) : Relisted a c
  | shuffle {members members' : List (String × Node)} (h : members.Perm members') :
      Relisted (.directory members) (.directory members')
  | inside {a b : Node} (h : Relisted a b) (before after : List (String × Node)) (name : String) :
      Relisted (.directory (before ++ (name, a) :: after))
        (.directory (before ++ (name, b) :: after))

theorem Relisted.isProper {a b : Node} (h : Relisted a b) (ha : a.IsProper) : b.IsProper := by
  induction h with
  | refl => exact ha
  | trans _ _ ihab ihbc => exact ihbc (ihab ha)
  | shuffle hperm =>
    cases ha with
    | directory hname hnodup hbelow =>
      exact .directory (fun m hm => hname m (hperm.mem_iff.mpr hm))
        ((hperm.map Prod.fst).nodup_iff.mp hnodup) fun m hm => hbelow m (hperm.mem_iff.mpr hm)
  | @inside a b _ before after name ih =>
    cases ha with
    | directory hname hnodup hbelow =>
      rw [List.forall_mem_append, List.forall_mem_cons] at hname hbelow
      refine .directory ?_ (by simpa using hnodup) ?_
      · rw [List.forall_mem_append, List.forall_mem_cons]
        exact hname
      · rw [List.forall_mem_append, List.forall_mem_cons]
        exact ⟨hbelow.1, ih hbelow.2.1, hbelow.2.2⟩

theorem Relisted.files_perm {a b : Node} (h : Relisted a b) : a.files.Perm b.files := by
  induction h with
  | refl => exact .refl _
  | trans _ _ ihab ihbc => exact ihab.trans ihbc
  | shuffle hperm =>
    rw [files, files]
    exact hperm.flatMap_right _
  | inside _ before after name ih =>
    simp only [files, List.flatMap_append, List.flatMap_cons]
    exact ((ih.map _).append_right _).append_left _

/-- **The walk does not depend on how directories are listed.** -/
theorem Relisted.walk_eq {a b : Node} (h : Relisted a b) (ha : a.IsProper) : a.walk = b.walk :=
  eq_walk (h.isProper ha) ((walk_perm_files a).trans h.files_perm) (pairwise_walk ha)

end Node

/-! ## Class files -/

namespace Archive

variable {path : String} {members : List (String × Node)}

/-- The files below a directory that are class files, in the order in which they are met. -/
def picked (path : String) (members : List (String × Node)) : List (List String × ByteArray) :=
  (Node.directory members).walk.filter fun f => isClassEntry (Path.key (Path.descend path f.1))

theorem mem_picked_iff (h : (Node.directory members).IsProper) {names : List String}
    {content : ByteArray} :
    (names, content) ∈ picked path members ↔
      (Node.directory members).get? names = some (.file content) ∧
        isClassEntry (Path.key (Path.descend path names)) = true := by
  unfold picked
  rw [List.mem_filter, (Node.walk_perm_files _).mem_iff, Node.mem_files_iff h]

theorem classFiles_eq_picked (h : (Node.directory members).IsProper) :
    classFiles path "" (.directory members) =
      (picked path members).map fun f => ⟨Path.key (String.intercalate "/" f.1), f.2⟩ := by
  rw [classFiles_eq]
  refine List.map_congr_left fun f hf => ?_
  have hfile := (Node.walk_perm_files _).mem_iff.mp (List.mem_filter.mp hf).1
  rw [Path.descend_empty (Node.isName_of_mem_files h hfile)]

theorem decodeEntries_eq_ok_iff {entries : List ClassEntry} {classes : List Class} :
    (decodeEntries path entries).result = .ok classes ↔
      List.Forall₂ (fun e c => Class.ofBytes e.bytes.data.toList = .ok c) entries classes := by
  have hresult : (decodeEntries path entries).result =
      (entries.map (decodeEntry path)).mapM Prod.snd := by
    unfold decodeEntries
    simp only
    cases (entries.map (decodeEntry path)).mapM Prod.snd <;> rfl
  rw [hresult, mapM_eq_ok_iff, List.forall₂_map_left_iff]
  simp only [decodeEntry, mapError_eq_ok_iff]
  rfl

/-- **A directory has the class files below it, in the order of their names,** however it is listed.
-/
theorem scan_directory (path : String) (h : (Node.directory members).IsProper) :
    ∃ picked : List (List String × ByteArray),
      (∀ names content, (names, content) ∈ picked ↔
        (Node.directory members).get? names = some (.file content) ∧
          isClassEntry (Path.key (Path.descend path names)) = true) ∧
      (picked.Pairwise fun f g => Path.Before f.1 g.1) ∧
      ∀ members', Node.Relisted (.directory members) (.directory members') →
        classEntries path (.ok (.directory members')) =
            .ok (picked.map fun f => ⟨Path.key (String.intercalate "/" f.1), f.2⟩) ∧
          scan path (.ok (.directory members')) = scan path (.ok (.directory members)) ∧
          ∀ classes, (scan path (.ok (.directory members'))).result = .ok classes ↔
            List.Forall₂ (fun f c => Class.ofBytes f.2.data.toList = .ok c) picked classes := by
  refine ⟨picked path members, fun _ _ => mem_picked_iff h, (Node.pairwise_walk h).filter _, ?_⟩
  intro members' hlisted
  have hpicked : picked path members' = picked path members := by
    unfold picked
    rw [hlisted.walk_eq h]
  have hentries : classFiles path "" (.directory members') = _ :=
    (classFiles_eq_picked (hlisted.isProper h)).trans (congrArg _ hpicked)
  refine ⟨congrArg Except.ok hentries, ?_, fun classes => ?_⟩
  · show decodeEntries path (classFiles path "" _) = decodeEntries path (classFiles path "" _)
    rw [hentries, classFiles_eq_picked h]
  · show (decodeEntries path (classFiles path "" _)).result = _ ↔ _
    rw [hentries, decodeEntries_eq_ok_iff, List.forall₂_map_left_iff]

/-- A directory with three class files, not listed in order. -/
def shelf : List (String × Node) :=
  [("a.class", .file ⟨#[1]⟩), ("notes", .file ⟨#[2]⟩), ("a$b.class", .file ⟨#[3]⟩),
    ("a", .directory [("B.class", .file ⟨#[4]⟩)])]

theorem isProper_shelf : (Node.directory shelf).IsProper := by
  refine .directory (by decide) (by decide) ?_
  have hbelow : (Node.directory [("B.class", .file ⟨#[4]⟩)]).IsProper :=
    .directory (by decide) (by decide) (by simp [Node.IsProper.file])
  simp [shelf, Node.IsProper.file, hbelow]

theorem walk_shelf : [(["a", "B.class"], ⟨#[4]⟩), (["a$b.class"], ⟨#[3]⟩), (["a.class"], ⟨#[1]⟩),
    (["notes"], ⟨#[2]⟩)] = (Node.directory shelf).walk := by
  refine Node.eq_walk isProper_shelf ?_ ?_
  · simp only [shelf, Node.files, List.flatMap_cons, List.map_cons, List.map_nil]
    decide
  · unfold Path.Before
    decide

/-- The file below `a` comes first, although its path does not. -/
theorem scan_directory_shelf :
    (Node.directory shelf).IsProper ∧ ∃ picked : List (List String × ByteArray),
      picked.map (fun f => Path.key (String.intercalate "/" f.1)) =
        ["a/B.class", "a$b.class", "a.class"] ∧
      (picked.Pairwise fun f g => Path.Before f.1 g.1) ∧
      scan "/lib" (.ok (.directory shelf.reverse)) = scan "/lib" (.ok (.directory shelf)) := by
  obtain ⟨picked, -, hsorted, hlisted⟩ := scan_directory "/lib" isProper_shelf
  refine ⟨isProper_shelf, picked, ?_, hsorted, ?_⟩
  · have hentries : classFiles "/lib" "" (.directory shelf) = _ :=
      Except.ok.inj (hlisted shelf (.refl _)).1
    have hnames : (classFiles "/lib" "" (.directory shelf)).map ClassEntry.name =
        ["a/B.class", "a$b.class", "a.class"] := by
      rw [classFiles_eq, ← walk_shelf]
      decide
    rwa [hentries, List.map_map] at hnames
  · exact (hlisted _ (.shuffle (List.reverse_perm _).symm)).2.1

end Archive

end CallGraph
