import CallGraph.Archive
import Mathlib.Data.List.Basic
import Mathlib.Data.List.Flatten
import Mathlib.Data.List.Perm.Basic

/-!
# Archives and the directories they are extracted to

A zip file and the directory with the same files hold the same classes, read in the same order,
except for one thing: variants of classes for other versions of the platform are recognised by the
beginning of the path, which is the path within the archive in a zip file and the whole path in a
directory. Below a directory with an absolute path no variant is recognised.

* `Node.walk` — the files of a directory in the order in which they are met
* `Zip.files?` — the files of a zip file
* `Archive.classFiles_eq`, `Archive.zipEntries_eq` — the class files of both are picked from these
* `Archive.scan_extracted` — the same classes, if there are no variants
-/

namespace CallGraph

/-! ## Files below a directory -/

namespace Node

/-- Trees are made of files and directories. -/
theorem induction {motive : Node → Prop} (file : ∀ content, motive (.file content))
    (directory : ∀ members, (∀ member ∈ members, motive member.2) → motive (.directory members)) :
    ∀ node, motive node
  | .file content => file content
  | .directory members => directory members fun member _ => induction file directory member.2
termination_by node => node
decreasing_by
  have hlt := List.sizeOf_lt_of_mem ‹member ∈ members›
  cases member
  simp only [Prod.mk.sizeOf_spec, Node.directory.sizeOf_spec] at hlt ⊢
  omega

/-- The files below a node, by the names that lead to them, in the order in which they are met:
members of a directory come in the order of their names. -/
def walk : Node → List (List String × ByteArray)
  | file content => [([], content)]
  | directory members =>
    ((members.map fun member =>
        (Path.key member.1, member.2.walk.map fun f => (member.1 :: f.1, f.2))
      ).mergeSort fun a b => decide (a.1 ≤ b.1)).flatMap Prod.snd
decreasing_by
  have hlt := List.sizeOf_lt_of_mem ‹member ∈ members›
  cases member
  simp only [Prod.mk.sizeOf_spec, directory.sizeOf_spec] at hlt ⊢
  omega

/-- All files are met, each once. -/
theorem walk_perm_files (node : Node) : node.walk.Perm node.files := by
  induction node using Node.induction with
  | file content => rw [walk, files]
  | directory members ih =>
    rw [walk, files]
    refine (List.Perm.flatMap_right _ (List.mergeSort_perm _ _)).trans ?_
    rw [List.flatMap_map]
    exact List.Perm.flatMap_left _ fun member hm => (ih member hm).map _

theorem ne_nil_of_mem_walk_directory {members : List (String × Node)}
    {f : List String × ByteArray} (h : f ∈ (directory members).walk) : f.1 ≠ [] := by
  have hf := (walk_perm_files _).mem_iff.mp h
  rw [files, List.mem_flatMap] at hf
  obtain ⟨member, -, hf⟩ := hf
  obtain ⟨f', -, rfl⟩ := List.mem_map.mp hf
  exact List.cons_ne_nil _ _

end Node

/-! ## Paths below a directory -/

namespace Path

/-- The path that names lead to from a path on. -/
def descend (path : String) (names : List String) : String := names.foldl join path

/-- A name of a file or of a directory: it is not empty and has no slash in it. -/
def IsName (name : String) : Prop := name ≠ "" ∧ '/' ∉ name.toList

instance (name : String) : Decidable (IsName name) := inferInstanceAs (Decidable (_ ∧ _))

theorem endsIn_slash_iff (s : String) : Text.endsIn s "/" = true ↔ s.toList.getLast? = some '/' := by
  rw [Text.endsIn_iff]
  show ['/'] <:+ s.toList ↔ _
  rw [List.singleton_suffix_iff_getLast?_eq_some]

theorem IsName.endsIn_slash {name : String} (h : IsName name) : Text.endsIn name "/" = false := by
  rw [Bool.eq_false_iff, Ne, endsIn_slash_iff]
  exact fun hl => h.2 (List.mem_of_getLast? hl)

theorem IsName.append_slash {name : String} (h : IsName name) (path : String) :
    path ++ name ≠ "" ∧ Text.endsIn (path ++ name) "/" = false := by
  have hne : name.toList ≠ [] := fun he => h.1 (String.toList_eq_nil_iff.mp he)
  constructor
  · intro he
    have := congrArg String.toList he
    simp_all
  · have hlast := h.endsIn_slash
    rw [Bool.eq_false_iff, Ne, endsIn_slash_iff] at hlast ⊢
    rwa [String.toList_append, List.getLast?_append_of_ne_nil _ hne]

/-- The names below a path that does not end in a slash, each behind a slash. -/
theorem descend_eq_append {path : String} {names : List String} (hne : path ≠ "")
    (hs : Text.endsIn path "/" = false) (hn : ∀ name ∈ names, IsName name) :
    descend path names = path ++ String.join (names.map ("/" ++ ·)) := by
  induction names generalizing path with
  | nil => simp [descend]
  | cons name names ih =>
    have hjoin : join path name = path ++ "/" ++ name := if_neg (by simp [hne, hs])
    obtain ⟨hne', hs'⟩ := (hn name List.mem_cons_self).append_slash (path ++ "/")
    rw [← hjoin] at hne' hs'
    show descend (join path name) names = _
    rw [ih hne' hs' fun n hm => hn n (List.mem_cons_of_mem _ hm), hjoin]
    simp [String.append_assoc]

theorem intercalate_cons (name : String) (names : List String) :
    String.intercalate "/" (name :: names) = name ++ String.join (names.map ("/" ++ ·)) := by
  induction names generalizing name with
  | nil => simp
  | cons name' names ih =>
    rw [String.intercalate_cons_cons, ih]
    simp [String.append_assoc]

/-- The path below a directory ends in a slash and the path within the archive. -/
theorem exists_descend_eq {path : String} {names : List String} (hp : path ≠ "") (hne : names ≠ [])
    (hn : ∀ name ∈ names, IsName name) :
    ∃ front, descend path names = front ++ "/" ++ String.intercalate "/" names := by
  cases names with
  | nil => exact absurd rfl hne
  | cons name names =>
    have hjoin : ∃ front, join path name = front ++ "/" ++ name := by
      unfold join
      split
      · next h =>
        have hs : Text.endsIn path "/" = true := by simpa [hp] using h
        obtain ⟨front, hfront⟩ := Text.endsIn_iff.mp hs
        have hpath : path = String.ofList front ++ "/" := String.toList_inj.mp (by simp [← hfront])
        exact ⟨String.ofList front, congrArg (· ++ name) hpath⟩
      · exact ⟨path, rfl⟩
    obtain ⟨front, hfront⟩ := hjoin
    obtain ⟨hne', hs'⟩ := (hn name List.mem_cons_self).append_slash (front ++ "/")
    rw [← hfront] at hne' hs'
    refine ⟨front, ?_⟩
    show descend (join path name) names = _
    rw [descend_eq_append hne' hs' fun n hm => hn n (List.mem_cons_of_mem _ hm), hfront,
      intercalate_cons, String.append_assoc]

/-- The path below a directory begins with the path of the directory. -/
theorem prefix_descend (path : String) (names : List String) :
    path.toList <+: (descend path names).toList := by
  induction names generalizing path with
  | nil => exact List.prefix_refl _
  | cons name names ih =>
    refine List.IsPrefix.trans ?_ (ih (join path name))
    unfold join
    split
    · simp
    · simp [List.append_assoc]

/-- An ending without slashes is not affected by what stands before a slash. -/
theorem suffix_append_slash {ending front back : List Char} (h : '/' ∉ ending) :
    ending <:+ front ++ '/' :: back ↔ ending <:+ back := by
  constructor
  · intro he
    rcases List.suffix_or_suffix_of_suffix he (List.suffix_append front ('/' :: back)) with hs | hs
    · rcases List.suffix_cons_iff.mp hs with rfl | hs
      · simp at h
      · exact hs
    · exact absurd (hs.subset List.mem_cons_self) h
  · intro he
    exact he.trans ((List.suffix_cons _ _).trans (List.suffix_append _ _))

/-- An ending without slashes is not affected by reading backslashes as slashes. -/
theorem endsIn_key {ending : String} (h : '/' ∉ ending.toList) (h' : '\\' ∉ ending.toList)
    (path : String) : Text.endsIn (key path) ending = Text.endsIn path ending := by
  rw [Bool.eq_iff_iff, Text.endsIn_iff, Text.endsIn_iff]
  unfold key
  rw [Text.toList_replace, List.suffix_map_iff]
  -- Where there is no backslash, nothing is replaced.
  have hmap : ∀ {t : List Char}, '\\' ∉ t → t.map (fun c => if c = '\\' then '/' else c) = t := by
    intro t ht
    refine (List.map_congr_left fun c hc => if_neg ?_).trans (List.map_id t)
    rintro rfl
    exact ht hc
  constructor
  · rintro ⟨t, ht, he⟩
    have hback : '\\' ∉ t := by
      intro hm
      exact h (he ▸ List.mem_map.mpr ⟨'\\', hm, rfl⟩)
    rwa [he, hmap hback]
  · intro ht
    exact ⟨ending.toList, ht, (hmap h').symm⟩

end Path

/-! ## Class files below a directory -/

namespace Archive

/-- The path ends like one of a class file that counts. -/
def endsLikeClass (path : String) : Bool :=
  Text.endsIn path ".class" && !Text.endsIn path "module-info.class"

/-- The path within an archive is that of a variant for another version of the platform. -/
def isVariant (path : String) : Bool := Text.beginsWith path "META-INF/versions/"

theorem isClassEntry_eq (path : String) :
    isClassEntry path = (endsLikeClass path && !isVariant path) := rfl

/-- Below a directory with an absolute path only the ending counts. -/
theorem isClassEntry_key_descend {path : String} {names : List String}
    (hp : Path.isAbsolute path = true) (hne : names ≠ [])
    (hn : ∀ name ∈ names, Path.IsName name) :
    isClassEntry (Path.key (Path.descend path names)) =
      endsLikeClass (String.intercalate "/" names) := by
  obtain ⟨back, hback⟩ := (Text.beginsWith_iff.mp hp).trans (Path.prefix_descend path names)
  have hvariant : isVariant (Path.key (Path.descend path names)) = false := by
    rw [Bool.eq_false_iff]
    intro hv
    have hv := Text.beginsWith_iff.mp hv
    unfold Path.key at hv
    rw [Text.toList_replace, ← hback] at hv
    simp at hv
  have hpath : path ≠ "" := by
    rintro rfl
    simp [Path.isAbsolute, Text.beginsWith] at hp
  obtain ⟨front, hfront⟩ := Path.exists_descend_eq hpath hne hn
  have hends : ∀ {ending : String}, '/' ∉ ending.toList → '\\' ∉ ending.toList →
      Text.endsIn (Path.key (Path.descend path names)) ending =
        Text.endsIn (String.intercalate "/" names) ending := by
    intro ending h h'
    rw [Path.endsIn_key h h', hfront, Bool.eq_iff_iff, Text.endsIn_iff, Text.endsIn_iff]
    have hlist : (front ++ "/" ++ String.intercalate "/" names).toList =
        front.toList ++ '/' :: (String.intercalate "/" names).toList := by simp
    rw [hlist, Path.suffix_append_slash h]
  rw [isClassEntry_eq, hvariant]
  unfold endsLikeClass
  rw [hends (by decide) (by decide), hends (by decide) (by decide)]
  simp

/-- **The class files of a directory are picked from its files,** in the order in which they are
met. -/
theorem classFiles_eq (node : Node) (path name : String) :
    classFiles path name node =
      (node.walk.filter fun f => isClassEntry (Path.key (Path.descend path f.1))).map
        fun f => ⟨Path.key (Path.descend name f.1), f.2⟩ := by
  induction node using Node.induction generalizing path name with
  | file content =>
    rw [classFiles, Node.walk, List.filter_singleton]
    show _ = List.map _ (bif isClassEntry (Path.key path) then _ else _)
    cases isClassEntry (Path.key path) <;> rfl
  | directory members ih =>
    rw [classFiles, Node.walk]
    -- What is picked depends on neither the other members nor their order.
    let pick (entry : String × List (List String × ByteArray)) : String × List ClassEntry :=
      (entry.1, (entry.2.filter fun f => isClassEntry (Path.key (Path.descend path f.1))).map
        fun f => ⟨Path.key (Path.descend name f.1), f.2⟩)
    have hpick : (members.map fun member => (Path.key member.1,
          classFiles (Path.join path member.1) (Path.join name member.1) member.2)) =
        (members.map fun member => (Path.key member.1,
          member.2.walk.map fun f => (member.1 :: f.1, f.2))).map pick := by
      rw [List.map_map]
      refine List.map_congr_left fun member hm => Prod.ext rfl ?_
      show classFiles _ _ _ = List.map _ (List.filter _ (List.map _ _))
      simp only [ih member hm, List.filter_map, List.map_map, Function.comp_def, Path.descend,
        List.foldl_cons]
    have hsort : ∀ entries, (List.map pick entries).mergeSort (fun a b => decide (a.1 ≤ b.1)) =
        (entries.mergeSort fun a b => decide (a.1 ≤ b.1)).map pick := by
      intro entries
      refine (List.map_mergeSort ?_).symm
      intro a _ b _
      rfl
    rw [hpick, hsort, List.flatMap_map, List.filter_flatMap, List.map_flatMap]

/-! ## Files of a zip file -/

end Archive

/-- An entry of a zip file with its content; a directory, whose name ends in a slash, has none. -/
def Zip.file? (file : ByteArray) (entry : Entry) : Option (Option (String × ByteArray)) := do
  let (method, raw) ← opened? file entry
  if Text.endsIn entry.name "/" then return none
  else
    let bytes ← (content entry method raw).toOption
    return some (entry.name, bytes)

/-- The files of a zip file by their names, in the order of its directory. -/
def Zip.files? (file : ByteArray) : Option (List (String × ByteArray)) := do
  let entries ← entries? file
  let files ← entries.mapM (file? file)
  return files.filterMap id

namespace Archive

/-- The class file that a file of a zip file is, if it is one. -/
def pick? (f : String × ByteArray) : Option ClassEntry :=
  if isClassEntry f.1 then some ⟨f.1, f.2⟩ else none

theorem zipEntry_eq {file : ByteArray} {entry : Zip.Entry} {f : Option (String × ByteArray)}
    (h : Zip.file? file entry = some f) (path : String) :
    zipEntry path file entry = .ok (f.bind pick?) := by
  unfold Zip.file? at h
  unfold zipEntry
  cases ho : Zip.opened? file entry with
  | none => simp [ho] at h
  | some opened =>
    obtain ⟨method, raw⟩ := opened
    simp only [ho, Option.bind_eq_bind, Option.bind_some] at h
    simp only
    split at h
    · next hs =>
      -- A name cannot end both in a slash and like a class file.
      have hclass : isClassEntry entry.name = false := by
        rw [Path.endsIn_slash_iff] at hs
        rw [isClassEntry_eq, Bool.eq_false_iff]
        intro hc
        simp only [endsLikeClass, Bool.and_eq_true] at hc
        obtain ⟨front, hfront⟩ := Text.endsIn_iff.mp hc.1.1
        rw [← hfront] at hs
        simp at hs
      obtain rfl := Option.some.inj h
      simp [hclass]
    · obtain ⟨bytes, hb, hf⟩ := Option.bind_eq_some_iff.mp h
      obtain rfl := Option.some.inj hf
      cases hc : Zip.content entry method raw with
      | error e => simp [hc, Except.toOption] at hb
      | ok content =>
        obtain rfl : content = bytes := by simpa [hc, Except.toOption] using hb
        cases hclass : isClassEntry entry.name <;> simp [pick?, hclass]

theorem mapM_cons_eq_some {α β : Type} {f : α → Option β} {a : α} {as : List α} {bs : List β}
    (h : (a :: as).mapM f = some bs) :
    ∃ b bs', f a = some b ∧ as.mapM f = some bs' ∧ bs = b :: bs' := by
  rw [List.mapM_cons] at h
  obtain ⟨b, hb, h⟩ := Option.bind_eq_some_iff.mp h
  obtain ⟨bs', hbs, h⟩ := Option.bind_eq_some_iff.mp h
  exact ⟨b, bs', hb, hbs, (Option.some.inj h).symm⟩

theorem mapM_zipEntry_eq {file : ByteArray} {entries : List Zip.Entry}
    {found : List (Option (String × ByteArray))} (h : entries.mapM (Zip.file? file) = some found)
    (path : String) :
    entries.mapM (zipEntry path file) = .ok (found.map (Option.bind · pick?)) := by
  induction entries generalizing found with
  | nil =>
    obtain rfl := Option.some.inj h
    rfl
  | cons entry entries ih =>
    obtain ⟨f, fs, hf, hfs, rfl⟩ := mapM_cons_eq_some h
    rw [List.mapM_cons, zipEntry_eq hf, ih hfs]
    rfl

/-- **The class files of a zip file are picked from its files.** -/
theorem zipEntries_eq {file : ByteArray} {files : List (String × ByteArray)}
    (h : Zip.files? file = some files) (path : String) :
    zipEntries path file = .ok (files.filterMap pick?) := by
  unfold Zip.files? at h
  obtain ⟨entries, he, h⟩ := Option.bind_eq_some_iff.mp h
  obtain ⟨found, hfound, h⟩ := Option.bind_eq_some_iff.mp h
  obtain rfl := Option.some.inj h
  unfold zipEntries
  simp only [he, mapM_zipEntry_eq hfound]
  refine congrArg Except.ok ?_
  rw [List.filterMap_map, List.filterMap_filterMap]
  rfl

/-! ## Classes -/

/-- The class in the bytes of a file. -/
def class? (bytes : ByteArray) : Option Class := (Class.ofBytes bytes.data.toList).toOption

theorem toOption_decodeEntry (path : String) (entry : ClassEntry) :
    (decodeEntry path entry).2.toOption = class? entry.bytes := by
  show ((Class.ofBytes entry.bytes.data.toList).mapError _).toOption = _
  unfold class?
  cases Class.ofBytes entry.bytes.data.toList <;> rfl

/-- Which classes an archive has depends only on the bytes of its class files. -/
theorem toOption_decodeEntries (path : String) (entries : List ClassEntry) :
    (decodeEntries path entries).result.toOption =
      (entries.map ClassEntry.bytes).mapM class? := by
  have hmap : ((entries.map (decodeEntry path)).mapM Prod.snd).toOption =
      (entries.map ClassEntry.bytes).mapM class? := by
    induction entries with
    | nil => rfl
    | cons entry entries ih =>
      rw [List.map_cons, List.map_cons, List.mapM_cons, List.mapM_cons, ← ih,
        ← toOption_decodeEntry path]
      cases (decodeEntry path entry).2 with
      | error e => rfl
      | ok c => cases (entries.map (decodeEntry path)).mapM Prod.snd <;> rfl
  rw [← hmap]
  unfold decodeEntries
  simp only
  cases (entries.map (decodeEntry path)).mapM Prod.snd <;> rfl

/-- Fewer class files that can be decoded are fewer classes. -/
theorem mapM_class?_sublist {bytes bytes' : List ByteArray} (hs : bytes'.Sublist bytes)
    {classes : List Class} (h : bytes.mapM class? = some classes) :
    ∃ classes', bytes'.mapM class? = some classes' ∧ classes'.Sublist classes := by
  induction hs generalizing classes with
  | slnil => exact ⟨classes, h, List.Sublist.refl _⟩
  | cons b _ ih =>
    obtain ⟨c, cs, -, hcs, rfl⟩ := mapM_cons_eq_some h
    obtain ⟨classes', h', hsub⟩ := ih hcs
    exact ⟨classes', h', hsub.cons c⟩
  | cons_cons b _ ih =>
    obtain ⟨c, cs, hc, hcs, rfl⟩ := mapM_cons_eq_some h
    obtain ⟨classes', h', hsub⟩ := ih hcs
    refine ⟨c :: classes', ?_, hsub.cons_cons c⟩
    rw [List.mapM_cons, hc, h']
    rfl

theorem length_of_mapM_class? {bytes : List ByteArray} {classes : List Class}
    (h : bytes.mapM class? = some classes) : classes.length = bytes.length := by
  induction bytes generalizing classes with
  | nil =>
    obtain rfl := Option.some.inj h
    rfl
  | cons b bytes ih =>
    obtain ⟨c, cs, -, hcs, rfl⟩ := mapM_cons_eq_some h
    exact congrArg (· + 1) (ih hcs)

variable {directory jar : String} {members : List (String × Node)} {file : ByteArray}

/-- The classes of a directory with an absolute path. -/
theorem toOption_scan_directory (hd : Path.isAbsolute directory = true)
    (hn : ∀ f ∈ (Node.directory members).files, ∀ name ∈ f.1, Path.IsName name) :
    (scan directory (.ok (.directory members))).result.toOption =
      (((Node.directory members).walk.filter fun f =>
        endsLikeClass (String.intercalate "/" f.1)).map Prod.snd).mapM class? := by
  have hfiles : ∀ f ∈ (Node.directory members).walk,
      isClassEntry (Path.key (Path.descend directory f.1)) =
        endsLikeClass (String.intercalate "/" f.1) := fun f hf =>
    isClassEntry_key_descend hd (Node.ne_nil_of_mem_walk_directory hf)
      (hn f ((Node.walk_perm_files _).mem_iff.mp hf))
  show (decodeEntries directory (classFiles directory "" (.directory members))).result.toOption = _
  rw [toOption_decodeEntries, classFiles_eq, List.map_map, List.filter_congr hfiles]
  rfl

/-- The classes of a zip file. -/
theorem toOption_scan_jar {files : List (String × ByteArray)} (hj : isJarPath jar = true)
    (hf : Zip.files? file = some files) :
    (scan jar (.ok (.file file))).result.toOption =
      ((files.filter fun f => isClassEntry f.1).map Prod.snd).mapM class? := by
  have hext : Path.extension? jar ≠ some classExtension := by
    intro he
    simp [isJarPath, he, classExtension] at hj
  have hentries : classEntries jar (.ok (.file file)) = .ok (files.filterMap pick?) := by
    unfold classEntries
    simp only [if_neg hext, hj]
    exact zipEntries_eq hf jar
  have hpick : (files.filterMap pick?).map ClassEntry.bytes =
      (files.filter fun f => isClassEntry f.1).map Prod.snd := by
    clear hf hentries
    induction files with
    | nil => rfl
    | cons f files ih => cases hc : isClassEntry f.1 <;> simp [pick?, hc, ih]
  unfold scan
  simp only [hentries]
  rw [toOption_decodeEntries, hpick]

/-- A class file below a directory that a zip file passes over: a variant for another version of the
platform. -/
def HasVariant (node : Node) : Prop :=
  ∃ f ∈ node.files, endsLikeClass (String.intercalate "/" f.1) = true ∧
    isVariant (String.intercalate "/" f.1) = true

/-- **A directory has the classes of the zip file it is extracted from, unless there are variants.**
Given a directory with an absolute path and a zip file with the same files in the order in which
they are met below the directory: without variants both fail or both have the same classes in the
same order. If the directory can be read, so can the zip file, and it has some of the classes in the
same order, all of them exactly if there are no variants. -/
theorem scan_extracted (hd : Path.isAbsolute directory = true) (hj : isJarPath jar = true)
    (hn : ∀ f ∈ (Node.directory members).files, ∀ name ∈ f.1, Path.IsName name)
    (hf : Zip.files? file =
      some ((Node.directory members).walk.map fun f => (String.intercalate "/" f.1, f.2))) :
    let d := (scan directory (.ok (.directory members))).result.toOption
    let j := (scan jar (.ok (.file file))).result.toOption
    (¬HasVariant (.directory members) → d = j) ∧
      ∀ classes, d = some classes →
        (∃ classes', j = some classes' ∧ classes'.Sublist classes) ∧
          (j = some classes ↔ ¬HasVariant (.directory members)) := by
  intro d j
  let picked := (Node.directory members).walk.filter fun f =>
    endsLikeClass (String.intercalate "/" f.1)
  have hdirectory : d = (picked.map Prod.snd).mapM class? := toOption_scan_directory hd hn
  have hjar : j = ((picked.filter fun f => !isVariant (String.intercalate "/" f.1)).map
      Prod.snd).mapM class? := by
    refine (toOption_scan_jar hj hf).trans (congrArg (List.mapM class?) ?_)
    rw [List.filter_map, List.map_map, List.filter_filter]
    refine congrArg (List.map Prod.snd) (List.filter_congr fun f _ => ?_)
    exact Bool.and_comm _ _
  have hvariant : HasVariant (.directory members) ↔
      ∃ f ∈ picked, isVariant (String.intercalate "/" f.1) = true := by
    simp only [HasVariant, picked, List.mem_filter, (Node.walk_perm_files _).mem_iff, and_assoc]
  have hnone : ¬HasVariant (.directory members) → d = j := by
    intro h
    rw [hdirectory, hjar, List.filter_eq_self.mpr]
    intro f hf
    rw [Bool.not_eq_true', Bool.eq_false_iff]
    exact fun hv => h (hvariant.mpr ⟨f, hf, hv⟩)
  refine ⟨hnone, fun classes hc => ?_⟩
  have hsub := List.filter_sublist (l := picked) (p := fun f => !isVariant (String.intercalate "/" f.1))
  refine ⟨hjar ▸ mapM_class?_sublist (hsub.map _) (hdirectory ▸ hc), ?_, fun h => (hnone h) ▸ hc⟩
  -- As many class files on both sides: nothing has been passed over.
  intro hjc h
  obtain ⟨f, hf, hv⟩ := hvariant.mp h
  have hlength := (length_of_mapM_class? (hdirectory ▸ hc)).symm.trans
    (length_of_mapM_class? (hjar ▸ hjc))
  rw [List.length_map, List.length_map] at hlength
  have hall := hsub.eq_of_length hlength.symm
  rw [← hall, List.mem_filter] at hf
  simp [hv] at hf

end Archive

/-! ## Zip files with stored files -/

/-- The bytes of a number below `256 * 256`, the least significant one first. -/
def Zip.two (n : Nat) : List UInt8 := [UInt8.ofNat n, UInt8.ofNat (n / 0x100)]

/-- The bytes of a number of four bytes, the least significant one first. -/
def Zip.four (n : Nat) : List UInt8 := two n ++ two (n / 0x10000)

/-- A file that is stored as it is, with a given checksum. -/
structure Zip.Stored where
  name : String
  sum : Nat
  content : List UInt8

namespace Zip.Stored

/-- The fields that stand both before the file and in the directory. -/
def fields (f : Stored) : List UInt8 :=
  two 20 ++ four 0 ++ four 0 ++ four f.sum ++ four f.content.length ++ four f.content.length ++
    two f.name.toUTF8.size ++ two 0

/-- The file with its header. -/
def entry (f : Stored) : List UInt8 :=
  four entryMark ++ f.fields ++ f.name.toUTF8.data.toList ++ f.content

/-- The files in the directory; the first of them starts at an offset. -/
def records (start : Nat) : List Stored → List UInt8
  | [] => []
  | f :: files =>
    four recordMark ++ two 20 ++ f.fields ++ two 0 ++ four 0 ++ four 0 ++ four start ++
      f.name.toUTF8.data.toList ++ records (start + f.entry.length) files

end Zip.Stored

/-- A zip file with stored files. -/
def Zip.ofStored (files : List Stored) : ByteArray :=
  let entries := files.flatMap Stored.entry
  let records := Stored.records 0 files
  let ending := four endMark ++ four 0 ++ two files.length ++ two files.length ++
    four records.length ++ four entries.length ++ two 0
  ⟨(entries ++ records ++ ending).toArray⟩

/-- A zip file with one file. -/
def Zip.single (name : String) (sum : Nat) (content : List UInt8) : ByteArray :=
  ofStored [⟨name, sum, content⟩]

namespace Archive

/-- The checksum of `plainClass`. -/
def plainSum : Nat := 0x52CE0261

/-- A class called `A` without superclass, interfaces, fields and methods. -/
def plainClass : List UInt8 :=
  [0xCA, 0xFE, 0xBA, 0xBE, 0, 0, 0, 52, 0, 3, 1, 0, 1, 65, 7, 0, 1, 0, 0x21, 0, 2, 0, 0, 0, 0, 0, 0,
    0, 0, 0, 0]

/-- The checksum of `otherClass`. -/
def otherSum : Nat := 0xB848DF03

/-- The same class called `B`. -/
def otherClass : List UInt8 := plainClass.set 13 66

/-- A directory with a file at the end of names. -/
def branch (content : List UInt8) : List String → Node
  | [] => .file ⟨content.toArray⟩
  | name :: names => .directory [(name, branch content names)]

theorem walk_branch (content : List UInt8) (names : List String) :
    (branch content names).walk = [(names, ⟨content.toArray⟩)] := by
  induction names with
  | nil => simp [branch, Node.walk]
  | cons name names ih => simp [branch, Node.walk, ih]

theorem files_branch (content : List UInt8) (names : List String) :
    (branch content names).files = [(names, ⟨content.toArray⟩)] :=
  List.perm_singleton.mp ((Node.walk_perm_files _).symm.trans (.of_eq (walk_branch content names)))

/-- Two directories with a class each, not in the order of their names. -/
def packages : List (String × Node) :=
  [("q", branch otherClass ["B.class"]), ("p", branch plainClass ["A.class"])]

theorem walk_packages : (Node.directory packages).walk =
    [(["p", "A.class"], ⟨plainClass.toArray⟩), (["q", "B.class"], ⟨otherClass.toArray⟩)] := by
  have hkey : ¬Path.key "q" ≤ Path.key "p" := by decide +kernel
  simp [packages, Node.walk, walk_branch, List.mergeSort, hkey]

theorem scan_extracted_packages :
    let file := Zip.ofStored [⟨"p/A.class", plainSum, plainClass⟩, ⟨"q/B.class", otherSum, otherClass⟩]
    let d := (scan "/lib" (.ok (.directory packages))).result.toOption
    let j := (scan "/lib.jar" (.ok (.file file))).result.toOption
    d = j ∧ j.map (·.map Class.name) = some ["A", "B"] := by
  intro file d j
  have hfiles : Zip.files? file =
      some [("p/A.class", ⟨plainClass.toArray⟩), ("q/B.class", ⟨otherClass.toArray⟩)] := by
    decide +kernel
  have hmem : ∀ f ∈ (Node.directory packages).files, f ∈ (Node.directory packages).walk :=
    fun f hf => (Node.walk_perm_files _).mem_iff.mpr hf
  rw [walk_packages] at hmem
  constructor
  · refine (scan_extracted (by decide) (by decide) ?_ ?_).1 ?_
    · have hnames : ∀ f ∈ [(["p", "A.class"], (⟨plainClass.toArray⟩ : ByteArray)),
          (["q", "B.class"], ⟨otherClass.toArray⟩)], ∀ name ∈ f.1, Path.IsName name := by decide
      exact fun f hf => hnames f (hmem f hf)
    · rewrite [walk_packages]
      exact hfiles
    · rintro ⟨f, hf, -, hv⟩
      rcases List.mem_pair.mp (hmem f hf) with rfl | rfl
      · exact absurd hv (by decide)
      · exact absurd hv (by decide)
  · have hj : j = _ := toOption_scan_jar (by decide) hfiles
    rewrite [hj]
    decide +kernel

/-- A class that is a variant in a zip file is none below a directory. -/
theorem scan_extracted_variant :
    let names := ["META-INF", "versions", "9", "A.class"]
    let file := Zip.single "META-INF/versions/9/A.class" plainSum plainClass
    Zip.files? file =
        some ((branch plainClass names).walk.map fun f => (String.intercalate "/" f.1, f.2)) ∧
      (scan "/lib" (.ok (branch plainClass names))).result.toOption.map List.length = some 1 ∧
      (scan "/lib.jar" (.ok (.file file))).result.toOption = some [] := by
  intro names file
  have hfiles : Zip.files? file = some [("META-INF/versions/9/A.class", ⟨plainClass.toArray⟩)] := by
    decide +kernel
  refine ⟨?_, ?_, ?_⟩
  · rewrite [walk_branch]
    exact hfiles
  · have hd : (scan "/lib" (.ok (branch plainClass names))).result.toOption = _ :=
      toOption_scan_directory (by decide) (by
        show ∀ f ∈ (branch plainClass names).files, _
        rw [files_branch]
        decide)
    rewrite [hd]
    change (List.mapM class? (((branch plainClass names).walk.filter _).map _)).map _ = _
    rewrite [walk_branch]
    decide +kernel
  · rewrite [toOption_scan_jar (by decide) hfiles]
    decide +kernel

end Archive

end CallGraph
