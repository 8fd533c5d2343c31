import CallGraph.Proofs.Grammar
import Mathlib.Data.List.Forall2
import Mathlib.Data.List.TakeWhile

/-!
# Descriptors are read by their grammar

The grammar of descriptors says which texts are types and what source code calls them. A method
descriptor is read if and only if it has the form that the grammar gives it, in the only way in
which it can be taken apart, and whatever follows the result type.

* `Descriptor.IsElement`, `Descriptor.IsArray`, `Descriptor.IsType`, `Descriptor.IsMethod` — the
  grammar
* `MethodDescriptor.read_eq_ok_iff` — what is read is the text of a descriptor
* `MethodDescriptor.argumentNames_exact` — names are found exactly where the grammar has them
-/

namespace CallGraph

/-! ## The grammar -/

namespace Descriptor

/-- The letters of the types that are neither classes nor arrays, with their names. -/
def letters : List (Char × String) :=
  [('Z', "boolean"), ('B', "byte"), ('C', "char"), ('S', "short"), ('I', "int"), ('J', "long"),
   ('F', "float"), ('D', "double"), ('V', "void")]

/-- The text is a type without brackets, and source code calls it by the name. -/
inductive IsElement : List Char → String → Prop
  | letter {c : Char} {name : String} (h : (c, name) ∈ letters) : IsElement [c] name
  | object (w : List Char) (h : ';' ∉ w) :
      IsElement ('L' :: w ++ [';']) (String.ofList (w.map fun c => if c = '/' then '.' else c))

/-- The text is an array type, and source code calls it by the name. -/
inductive IsArray : List Char → String → Prop
  | of (n : Nat) (hpos : 1 ≤ n) (hmax : n ≤ 255) {element : List Char} {name : String}
      (h : IsElement element name) :
      IsArray (List.replicate n '[' ++ element) (name ++ String.join (List.replicate n "[]"))

/-- The text is a type, and source code calls it by the name. -/
def IsType (text : List Char) (name : String) : Prop := IsElement text name ∨ IsArray text name

/-- The text is a list of parameter types, a result type, and something behind them. -/
structure IsMethod (text : List Char) (parameters : List (List Char)) (result rest : List Char) :
    Prop where
  text_eq : text = '(' :: parameters.flatten ++ ')' :: (result ++ rest)
  parameters : ∀ parameter ∈ parameters, ∃ name, IsType parameter name
  result : ∃ name, IsType result name

/-! ## Types of the grammar -/

theorem isElement_iff {text : List Char} {name : String} :
    IsElement text name ↔
      ∃ t : ElementType, t.WellFormed ∧ t.text = text ∧ t.sourceName = name := by
  constructor
  · intro h
    cases h with
    | letter h =>
      simp only [letters, List.mem_cons, Prod.mk.injEq, List.not_mem_nil, or_false] at h
      rcases h with ⟨rfl, rfl⟩ | ⟨rfl, rfl⟩ | ⟨rfl, rfl⟩ | ⟨rfl, rfl⟩ | ⟨rfl, rfl⟩ | ⟨rfl, rfl⟩ |
        ⟨rfl, rfl⟩ | ⟨rfl, rfl⟩ | ⟨rfl, rfl⟩
      · exact ⟨.boolean, trivial, rfl, rfl⟩
      · exact ⟨.byte, trivial, rfl, rfl⟩
      · exact ⟨.char, trivial, rfl, rfl⟩
      · exact ⟨.short, trivial, rfl, rfl⟩
      · exact ⟨.int, trivial, rfl, rfl⟩
      · exact ⟨.long, trivial, rfl, rfl⟩
      · exact ⟨.float, trivial, rfl, rfl⟩
      · exact ⟨.double, trivial, rfl, rfl⟩
      · exact ⟨.void, trivial, rfl, rfl⟩
    | object w h =>
      refine ⟨.object (String.ofList w), ?_, ?_, ?_⟩
      · rw [ElementType.WellFormed, String.toList_ofList]
        exact h
      · rw [ElementType.text, String.toList_ofList]
      · rw [ElementType.sourceName, dotted, Text.replace, String.toList_ofList]
  · rintro ⟨t, ht, rfl, rfl⟩
    cases t with
    | object w => exact .object w.toList ht
    | _ => exact .letter (by decide)

theorem isArray_iff {text : List Char} {name : String} :
    IsArray text name ↔ ∃ t : TypeDescriptor, t.WellFormed ∧ 0 < t.dimensions ∧ t.text = text ∧
      t.sourceName = name := by
  constructor
  · rintro ⟨n, hpos, hmax, h⟩
    obtain ⟨element, he, rfl, rfl⟩ := isElement_iff.mp h
    exact ⟨⟨element, n⟩, ⟨hmax, he⟩, hpos, rfl, rfl⟩
  · rintro ⟨t, ht, hpos, rfl, rfl⟩
    exact .of t.dimensions hpos ht.1 (isElement_iff.mpr ⟨t.element, ht.2, rfl, rfl⟩)

theorem isType_iff {text : List Char} {name : String} :
    IsType text name ↔
      ∃ t : TypeDescriptor, t.WellFormed ∧ t.text = text ∧ t.sourceName = name := by
  constructor
  · rintro (h | h)
    · obtain ⟨element, he, rfl, rfl⟩ := isElement_iff.mp h
      refine ⟨⟨element, 0⟩, ⟨Nat.zero_le _, he⟩, rfl, ?_⟩
      simp [TypeDescriptor.sourceName]
    · obtain ⟨t, ht, -, htext, hname⟩ := isArray_iff.mp h
      exact ⟨t, ht, htext, hname⟩
  · rintro ⟨⟨element, n⟩, ht, rfl, rfl⟩
    cases n with
    | zero =>
      refine Or.inl (isElement_iff.mpr ⟨element, ht.2, rfl, ?_⟩)
      simp [TypeDescriptor.sourceName]
    | succ n => exact Or.inr (isArray_iff.mpr ⟨⟨element, n + 1⟩, ht, Nat.succ_pos n, rfl, rfl⟩)

end Descriptor

/-! ## What has been read -/

namespace ElementType

theorem of_ofLetter? {c : Char} {t : ElementType} (h : ofLetter? c = some t) :
    t.WellFormed ∧ t.text = [c] := by
  unfold ofLetter? at h
  split at h <;> cases h <;> exact ⟨trivial, rfl⟩

/-- What has been read is the text of the element. -/
theorem of_read {inArray : Bool} {cs rest : List Char} {t : ElementType}
    (h : read inArray cs = .ok (t, rest)) : t.WellFormed ∧ cs = t.text ++ rest := by
  unfold read at h
  split at h
  · cases h
  · next cs =>
    split at h
    · cases h
    · next c rest' hdrop =>
      cases h
      have hname : ∀ x ∈ cs.takeWhile (fun x => decide (x ≠ ';')), x ≠ ';' := fun x hx => by
        simpa using List.mem_takeWhile_imp hx
      have hstop : c = ';' := by
        have hc := List.head?_dropWhile_not (fun x => decide (x ≠ ';')) cs
        rw [hdrop] at hc
        simpa using hc
      rw [hstop] at hdrop
      constructor
      · rw [WellFormed, String.toList_ofList]
        exact fun hm => hname _ hm rfl
      · rw [text, String.toList_ofList, List.cons_append, List.cons_append, List.append_assoc,
          List.singleton_append, ← hdrop, List.takeWhile_append_dropWhile]
  · cases h
  · split at h
    · next ht =>
      cases h
      obtain ⟨hwf, htext⟩ := of_ofLetter? ht
      exact ⟨hwf, by rw [htext]; rfl⟩
    · cases h

end ElementType

namespace TypeDescriptor

/-- What has been read is the text of the type. -/
theorem of_read {cs rest : List Char} {t : TypeDescriptor} (h : read cs = .ok (t, rest)) :
    t.WellFormed ∧ cs = t.text ++ rest := by
  simp only [read] at h
  split at h
  · cases h
  · next hmax =>
    split at h
    · cases h
    · next element rest' hread =>
      cases h
      obtain ⟨hwf, htext⟩ := ElementType.of_read hread
      have hbrackets : cs.takeWhile (fun c => decide (c = '[')) =
          List.replicate (cs.takeWhile fun c => decide (c = '[')).length '[' :=
        List.eq_replicate_iff.mpr
          ⟨rfl, fun c hc => by simpa using List.mem_takeWhile_imp hc⟩
      refine ⟨⟨Nat.not_lt.mp hmax, hwf⟩, ?_⟩
      rw [text, ← hbrackets, List.append_assoc, ← htext, List.takeWhile_append_dropWhile]

/-- A text begins with at most one type. -/
theorem text_append_inj {t t' : TypeDescriptor} (ht : t.WellFormed) (ht' : t'.WellFormed)
    {rest rest' : List Char} (h : t.text ++ rest = t'.text ++ rest') : t = t' ∧ rest = rest' := by
  have hread := read_text ht rest
  rw [h, read_text ht' rest'] at hread
  obtain ⟨rfl, rfl⟩ := Prod.mk.inj (Except.ok.inj hread)
  exact ⟨rfl, rfl⟩

end TypeDescriptor

namespace MethodDescriptor

theorem of_readParameters {cs rest : List Char} {ts : List TypeDescriptor}
    (h : readParameters cs = .ok (ts, rest)) :
    (∀ t ∈ ts, t.WellFormed) ∧ cs = ts.flatMap TypeDescriptor.text ++ ')' :: rest := by
  -- Each type that is read leaves a shorter list of parameters.
  fun_induction readParameters cs generalizing ts rest with
  | case1 rest' =>
    cases h
    exact ⟨by simp, rfl⟩
  | case2 cs hcs e hread => cases h
  | case3 cs hcs t rest' hread e hmore ih => cases h
  | case4 cs hcs t rest' hread ts' rest'' hmore ih =>
    cases h
    obtain ⟨hwf, htext⟩ := TypeDescriptor.of_read hread
    obtain ⟨hall, hrest⟩ := ih hmore
    constructor
    · intro t' ht'
      rcases List.mem_cons.mp ht' with rfl | ht'
      · exact hwf
      · exact hall t' ht'
    · rw [List.flatMap_cons, List.append_assoc, ← hrest, htext]

/-- **What is read is the text of a method descriptor, and every such text is read.** -/
theorem read_eq_ok_iff {cs rest : List Char} {d : MethodDescriptor} :
    read cs = .ok (d, rest) ↔ d.WellFormed ∧ cs = d.text ++ rest := by
  constructor
  · intro h
    unfold read at h
    split at h
    · next cs =>
      cases hp : readParameters cs with
      | error e =>
        rw [hp] at h
        cases h
      | ok parameters =>
        obtain ⟨ts, rest'⟩ := parameters
        rw [hp] at h
        cases hr : TypeDescriptor.read rest' with
        | error e =>
          simp only [bind, Except.bind, hr] at h
          cases h
        | ok result =>
          obtain ⟨t, rest''⟩ := result
          simp only [bind, Except.bind, hr] at h
          cases h
          obtain ⟨hts, hcs⟩ := of_readParameters hp
          obtain ⟨ht, hrest⟩ := TypeDescriptor.of_read hr
          exact ⟨⟨hts, ht⟩, by simp [text, hcs, hrest]⟩
    · cases h
  · rintro ⟨hd, rfl⟩
    exact read_text hd rest

theorem parse_eq_ok_iff {s : String} {d : MethodDescriptor} :
    parse s = .ok d ↔ ∃ rest, d.WellFormed ∧ s.toList = d.text ++ rest := by
  constructor
  · intro h
    unfold parse at h
    cases hread : read s.toList with
    | error e =>
      rw [hread] at h
      cases h
    | ok result =>
      rw [hread] at h
      cases h
      exact ⟨result.2, read_eq_ok_iff.mp hread⟩
  · rintro ⟨rest, h⟩
    rw [parse, read_eq_ok_iff.mpr h]
    rfl

/-- A text begins with at most one method descriptor. -/
theorem text_append_inj {d d' : MethodDescriptor} (hd : d.WellFormed) (hd' : d'.WellFormed)
    {rest rest' : List Char} (h : d.text ++ rest = d'.text ++ rest') : d = d' ∧ rest = rest' := by
  have hread := read_text hd rest
  rw [h, read_text hd' rest'] at hread
  obtain ⟨rfl, rfl⟩ := Prod.mk.inj (Except.ok.inj hread)
  exact ⟨rfl, rfl⟩

end MethodDescriptor

/-! ## Reading by the grammar -/

namespace Descriptor

/-- A type has one name. -/
theorem isType_text {t : TypeDescriptor} (ht : t.WellFormed) {name : String} :
    IsType t.text name ↔ t.sourceName = name := by
  rw [isType_iff]
  constructor
  · rintro ⟨t', ht', htext, rfl⟩
    have heq : t'.text ++ [] = t.text ++ [] := by rw [htext]
    rw [(TypeDescriptor.text_append_inj ht' ht heq).1]
  · rintro rfl
    exact ⟨t, ht, rfl, rfl⟩

theorem forall₂_isType {ts : List TypeDescriptor} (hts : ∀ t ∈ ts, t.WellFormed)
    {names : List String} :
    List.Forall₂ IsType (ts.map TypeDescriptor.text) names ↔
      ts.map TypeDescriptor.sourceName = names := by
  induction ts generalizing names with
  | nil => simp [eq_comm]
  | cons t ts ih =>
    rw [List.map_cons, List.forall₂_cons_left_iff, List.map_cons]
    constructor
    · rintro ⟨name, names', hname, hnames, rfl⟩
      rw [(isType_text (hts t List.mem_cons_self)).mp hname,
        (ih fun t ht => hts t (List.mem_cons_of_mem _ ht)).mp hnames]
    · rintro rfl
      exact ⟨_, _, (isType_text (hts t List.mem_cons_self)).mpr rfl,
        (ih fun t ht => hts t (List.mem_cons_of_mem _ ht)).mpr rfl, rfl⟩

/-- Texts that are types are the texts of a list of types. -/
theorem exists_types {texts : List (List Char)} (h : ∀ text ∈ texts, ∃ name, IsType text name) :
    ∃ ts : List TypeDescriptor, (∀ t ∈ ts, t.WellFormed) ∧ ts.map TypeDescriptor.text = texts := by
  induction texts with
  | nil => exact ⟨[], by simp, rfl⟩
  | cons text texts ih =>
    obtain ⟨name, hname⟩ := h text List.mem_cons_self
    obtain ⟨t, ht, rfl, -⟩ := isType_iff.mp hname
    obtain ⟨ts, hts, rfl⟩ := ih fun text hm => h text (List.mem_cons_of_mem _ hm)
    refine ⟨t :: ts, ?_, rfl⟩
    intro t' ht'
    rcases List.mem_cons.mp ht' with rfl | ht'
    · exact ht
    · exact hts t' ht'

theorem isMethod_iff {text : List Char} {parameters : List (List Char)} {result rest : List Char} :
    IsMethod text parameters result rest ↔ ∃ d : MethodDescriptor, d.WellFormed ∧
      d.parameters.map TypeDescriptor.text = parameters ∧ d.result.text = result ∧
      text = d.text ++ rest := by
  constructor
  · rintro ⟨htext, hparameters, name, hname⟩
    obtain ⟨ts, hts, rfl⟩ := exists_types hparameters
    obtain ⟨t, ht, rfl, -⟩ := isType_iff.mp hname
    refine ⟨⟨ts, t⟩, ⟨hts, ht⟩, rfl, rfl, ?_⟩
    simp [htext, MethodDescriptor.text, List.flatMap_def]
  · rintro ⟨d, hd, rfl, rfl, rfl⟩
    constructor
    · simp [MethodDescriptor.text, List.flatMap_def]
    · intro parameter hm
      obtain ⟨t, ht, rfl⟩ := List.mem_map.mp hm
      exact ⟨t.sourceName, (isType_text (hd.1 t ht)).mpr rfl⟩
    · exact ⟨d.result.sourceName, (isType_text hd.2).mpr rfl⟩

/-- A text can be taken apart in one way only. -/
theorem isMethod_unique {text : List Char} {parameters parameters' : List (List Char)}
    {result result' rest rest' : List Char} (h : IsMethod text parameters result rest)
    (h' : IsMethod text parameters' result' rest') :
    parameters = parameters' ∧ result = result' ∧ rest = rest' := by
  obtain ⟨d, hd, rfl, rfl, htext⟩ := isMethod_iff.mp h
  obtain ⟨d', hd', rfl, rfl, htext'⟩ := isMethod_iff.mp h'
  obtain ⟨rfl, rfl⟩ := MethodDescriptor.text_append_inj hd hd' (htext.symm.trans htext')
  exact ⟨rfl, rfl, rfl⟩

/-- Every type of a list has its name at its place. -/
theorem exists_name_of_getElem? {texts : List (List Char)} {names : List String}
    (h : List.Forall₂ IsType texts names) {k : Nat} {text : List Char}
    (hk : texts[k]? = some text) : ∃ name, names[k]? = some name ∧ IsType text name := by
  induction h generalizing k with
  | nil => simp at hk
  | @cons first name texts names htype _ ih =>
    cases k with
    | zero =>
      obtain rfl : first = text := by simpa using hk
      exact ⟨name, rfl, htype⟩
    | succ k => exact ih (by simpa using hk)

end Descriptor

namespace MethodDescriptor

open Descriptor

theorem argumentNames_eq_ok_iff {s : String} {names : List String} :
    argumentNames s = .ok names ↔
      ∃ d, parse s = .ok d ∧ d.parameters.map TypeDescriptor.sourceName = names := by
  unfold argumentNames
  cases parse s with
  | error e => simp [Except.map]
  | ok d => simp [Except.map]

theorem resultName_eq_ok_iff {s : String} {name : String} :
    resultName s = .ok name ↔ ∃ d, parse s = .ok d ∧ d.result.sourceName = name := by
  unfold resultName
  cases parse s with
  | error e => simp [Except.map]
  | ok d => simp [Except.map]

/-- A text is read exactly if it has the form of a method descriptor. -/
theorem exists_parse_iff {s : String} :
    (∃ d, parse s = .ok d) ↔
      ∃ parameters result rest, IsMethod s.toList parameters result rest := by
  constructor
  · rintro ⟨d, h⟩
    obtain ⟨rest, hd, htext⟩ := parse_eq_ok_iff.mp h
    exact ⟨_, _, rest, isMethod_iff.mpr ⟨d, hd, rfl, rfl, htext⟩⟩
  · rintro ⟨parameters, result, rest, h⟩
    obtain ⟨d, hd, -, -, htext⟩ := isMethod_iff.mp h
    exact ⟨d, parse_eq_ok_iff.mpr ⟨rest, hd, htext⟩⟩

theorem names_of_isMethod {s : String} {parameters : List (List Char)} {result rest : List Char}
    (h : IsMethod s.toList parameters result rest) :
    (∀ names, argumentNames s = .ok names ↔ List.Forall₂ IsType parameters names) ∧
      ∀ name, resultName s = .ok name ↔ IsType result name := by
  obtain ⟨d, hd, rfl, rfl, htext⟩ := isMethod_iff.mp h
  have hparse : parse s = .ok d := parse_eq_ok_iff.mpr ⟨rest, hd, htext⟩
  constructor
  · intro names
    rw [forall₂_isType hd.1, argumentNames, hparse]
    simp [Except.map]
  · intro name
    rw [isType_text hd.2, resultName, hparse]
    simp [Except.map]

/-- **Names are found exactly where the grammar has them.** The names of the parameters of a text
are found if and only if it is a method descriptor with something behind it, and so is the name of
the result. There is one way to take the text apart, and the names are those of the types in it. An
array class goes by the same name as a parameter of that type. -/
theorem argumentNames_exact :
    (∀ s, ((∃ names, argumentNames s = .ok names) ↔
        ∃ parameters result rest, IsMethod s.toList parameters result rest) ∧
      ((∃ name, resultName s = .ok name) ↔
        ∃ parameters result rest, IsMethod s.toList parameters result rest)) ∧
    (∀ s parameters result rest, IsMethod s.toList parameters result rest →
      (∀ parameters' result' rest', IsMethod s.toList parameters' result' rest' →
        parameters' = parameters ∧ result' = result ∧ rest' = rest) ∧
      (∀ names, argumentNames s = .ok names ↔ List.Forall₂ IsType parameters names) ∧
      ∀ name, resultName s = .ok name ↔ IsType result name) ∧
    ∀ text name, IsArray text name →
      ClassName.ofConstant (String.ofList text) = .ok name ∧
        ∀ s parameters result rest names (k : Nat), IsMethod s.toList parameters result rest →
          argumentNames s = .ok names → parameters[k]? = some text → names[k]? = some name := by
  refine ⟨fun s => ⟨?_, ?_⟩, ?_, ?_⟩
  · rw [← exists_parse_iff]
    constructor
    · rintro ⟨names, h⟩
      obtain ⟨d, hd, -⟩ := argumentNames_eq_ok_iff.mp h
      exact ⟨d, hd⟩
    · rintro ⟨d, hd⟩
      exact ⟨_, argumentNames_eq_ok_iff.mpr ⟨d, hd, rfl⟩⟩
  · rw [← exists_parse_iff]
    constructor
    · rintro ⟨name, h⟩
      obtain ⟨d, hd, -⟩ := resultName_eq_ok_iff.mp h
      exact ⟨d, hd⟩
    · rintro ⟨d, hd⟩
      exact ⟨_, resultName_eq_ok_iff.mpr ⟨d, hd, rfl⟩⟩
  · intro s parameters result rest h
    exact ⟨fun _ _ _ h' => isMethod_unique h' h, names_of_isMethod h⟩
  · intro text name h
    obtain ⟨t, ht, hpos, rfl, rfl⟩ := isArray_iff.mp h
    refine ⟨ClassType.ofConstant_array hpos ht, ?_⟩
    intro s parameters result rest names k hmethod hnames hk
    have hall := ((names_of_isMethod hmethod).1 names).mp hnames
    obtain ⟨name, hname, htype⟩ := exists_name_of_getElem? hall hk
    rw [hname, (isType_text ht).mp htype]

/-- A bracket in the name of a class closes no parameter list, and what follows the result type does
not count. -/
theorem argumentNames_exact_brackets :
    IsMethod "([J[[La/)B;)Vx".toList ["[J".toList, "[[La/)B;".toList] "V".toList "x".toList ∧
      argumentNames "([J[[La/)B;)Vx" = .ok ["long[]", "a.)B[][]"] ∧
      resultName "([J[[La/)B;)Vx" = .ok "void" ∧
      ClassName.ofConstant "[[La/)B;" = .ok "a.)B[][]" := by
  have hlong : IsArray "[J".toList "long[]" :=
    isArray_iff.mpr ⟨⟨.long, 1⟩, by decide, by decide, by decide, by decide⟩
  have hclass : IsArray "[[La/)B;".toList "a.)B[][]" :=
    isArray_iff.mpr ⟨⟨.object "a/)B", 2⟩, by decide, by decide, by decide, by decide⟩
  have hvoid : IsType "V".toList "void" := Or.inl (.letter (by decide))
  have hmethod : IsMethod "([J[[La/)B;)Vx".toList ["[J".toList, "[[La/)B;".toList] "V".toList
      "x".toList := by
    refine ⟨by decide, ?_, ⟨_, hvoid⟩⟩
    intro parameter hm
    rcases List.mem_cons.mp hm with rfl | hm
    · exact ⟨_, Or.inr hlong⟩
    · rw [List.mem_singleton.mp hm]
      exact ⟨_, Or.inr hclass⟩
  obtain ⟨-, hexact, harray⟩ := argumentNames_exact
  obtain ⟨-, hnames, hname⟩ := hexact _ _ _ _ hmethod
  exact ⟨hmethod, (hnames _).mpr (.cons (Or.inr hlong) (.cons (Or.inr hclass) .nil)),
    (hname _).mpr hvoid, (harray _ _ hclass).1⟩

end MethodDescriptor

end CallGraph
