import CallGraph.ClassName
import Mathlib.Data.List.Basic

/-!
# The grammar of descriptors and class constants

Which types have a descriptor, and that reading the text of a descriptor gives the descriptor back,
whatever follows it. From this come the names that class constants and annotation types stand for.

* `MethodDescriptor.read_text`: a method descriptor is read back.
* `ClassType.ofConstant_text`, `ClassType.elementConstant?_text`: the name that a class constant
  stands for, and the class constant of its elements.
* `AnnotationType.ofTypeDescriptor_text`: the name of an annotation type.
-/

namespace CallGraph

/-! ## Types -/

namespace ElementType

/-- The name of a class in a descriptor ends before the first `;`. -/
def WellFormed : ElementType → Prop
  | object name => ';' ∉ name.toList
  | _ => True

instance : DecidablePred WellFormed
  | object name => inferInstanceAs (Decidable (';' ∉ name.toList))
  | byte | char | double | float | int | long | short | boolean | void => .isTrue trivial

/-- The text of an element is neither empty nor confused with a bracket. -/
theorem exists_text_eq_cons (t : ElementType) :
    ∃ c cs, t.text = c :: cs ∧ c ≠ '[' ∧ c ≠ ')' := by
  cases t <;> exact ⟨_, _, rfl, by decide, by decide⟩

theorem read_text {t : ElementType} (h : t.WellFormed) (inArray : Bool) (rest : List Char) :
    read inArray (t.text ++ rest) = .ok (t, rest) := by
  cases t with
  | object name =>
    have hname : ∀ c ∈ name.toList, decide (c ≠ ';') = true := fun c hc =>
      decide_eq_true fun he => h (he ▸ hc)
    have htake : (name.toList ++ ';' :: rest).takeWhile (fun c => decide (c ≠ ';')) =
        name.toList := by
      rw [List.takeWhile_append_of_pos hname]
      simp
    have hdrop : (name.toList ++ ';' :: rest).dropWhile (fun c => decide (c ≠ ';')) =
        ';' :: rest := by
      rw [List.dropWhile_append_of_pos hname]
      simp
    simp only [text, List.cons_append, List.append_assoc, List.nil_append]
    unfold read
    simp only [hdrop, htake, String.ofList_toList]
  | _ => rfl

end ElementType

namespace TypeDescriptor

/-- The types that have a descriptor. -/
def WellFormed (t : TypeDescriptor) : Prop := t.dimensions ≤ 255 ∧ t.element.WellFormed

instance (t : TypeDescriptor) : Decidable t.WellFormed :=
  inferInstanceAs (Decidable (_ ∧ _))

theorem exists_text_eq_cons (t : TypeDescriptor) : ∃ c cs, t.text = c :: cs ∧ c ≠ ')' := by
  obtain ⟨c, cs, htext, -, hc⟩ := t.element.exists_text_eq_cons
  unfold text
  cases t.dimensions with
  | zero => exact ⟨c, cs, htext, hc⟩
  | succ n => exact ⟨'[', _, rfl, by decide⟩

theorem read_text {t : TypeDescriptor} (h : t.WellFormed) (rest : List Char) :
    read (t.text ++ rest) = .ok (t, rest) := by
  obtain ⟨c, cs, htext, hc, -⟩ := t.element.exists_text_eq_cons
  have hbrackets : ∀ c ∈ List.replicate t.dimensions '[', decide (c = '[') = true := fun c hm =>
    decide_eq_true (List.eq_of_mem_replicate hm)
  have htake : (t.text ++ rest).takeWhile (fun c => decide (c = '[')) =
      List.replicate t.dimensions '[' := by
    rw [text, List.append_assoc, List.takeWhile_append_of_pos hbrackets, htext]
    simp [hc]
  have hdrop : (t.text ++ rest).dropWhile (fun c => decide (c = '[')) = t.element.text ++ rest := by
    rw [text, List.append_assoc, List.dropWhile_append_of_pos hbrackets, htext]
    simp [hc]
  have hmax : ¬maxDimensions < t.dimensions := Nat.not_lt.mpr h.1
  unfold read
  simp only [htake, hdrop, List.length_replicate, if_neg hmax, ElementType.read_text h.2]

end TypeDescriptor

namespace MethodDescriptor

/-- The parameter lists and results that have a descriptor. -/
def WellFormed (d : MethodDescriptor) : Prop :=
  (∀ t ∈ d.parameters, t.WellFormed) ∧ d.result.WellFormed

instance (d : MethodDescriptor) : Decidable d.WellFormed :=
  inferInstanceAs (Decidable (_ ∧ _))

/-- The descriptor as a text. -/
def string (d : MethodDescriptor) : String := String.ofList d.text

theorem readParameters_text {ts : List TypeDescriptor} (h : ∀ t ∈ ts, t.WellFormed)
    (rest : List Char) :
    readParameters (ts.flatMap TypeDescriptor.text ++ ')' :: rest) = .ok (ts, rest) := by
  induction ts with
  | nil =>
    rw [List.flatMap_nil, List.nil_append, readParameters]
  | cons t ts ih =>
    obtain ⟨c, cs, htext, hc⟩ := t.exists_text_eq_cons
    have hread := TypeDescriptor.read_text (h t List.mem_cons_self)
      (ts.flatMap TypeDescriptor.text ++ ')' :: rest)
    rw [List.flatMap_cons, List.append_assoc]
    unfold readParameters
    split
    · next heq =>
      -- A type does not begin with the closing bracket.
      rw [htext, List.cons_append] at heq
      exact absurd (List.cons.inj heq).1 hc
    · split
      · next herror =>
        rw [hread] at herror
        cases herror
      · next hok =>
        rw [hread] at hok
        cases hok
        simp only [ih fun t ht => h t (List.mem_cons_of_mem _ ht)]

/-- **A method descriptor is read back from its text.** -/
theorem read_text {d : MethodDescriptor} (h : d.WellFormed) (rest : List Char) :
    read (d.text ++ rest) = .ok (d, rest) := by
  simp only [text, List.cons_append, List.append_assoc]
  show (readParameters _ >>= _) = _
  rw [readParameters_text h.1]
  show (TypeDescriptor.read (d.result.text ++ rest) >>= _) = _
  rw [TypeDescriptor.read_text h.2]
  rfl

theorem parse_string {d : MethodDescriptor} (h : d.WellFormed) : parse d.string = .ok d := by
  have hread := read_text h []
  rw [List.append_nil] at hread
  rw [parse, string, String.toList_ofList, hread]
  rfl

theorem argumentNames_string {d : MethodDescriptor} (h : d.WellFormed) :
    argumentNames d.string = .ok (d.parameters.map TypeDescriptor.sourceName) := by
  rw [argumentNames, parse_string h]
  rfl

theorem resultName_string {d : MethodDescriptor} (h : d.WellFormed) :
    resultName d.string = .ok d.result.sourceName := by
  rw [resultName, parse_string h]
  rfl

end MethodDescriptor

/-! ## Class constants -/

/-- The class of an object. -/
def ElementType.className? : ElementType → Option String
  | object name => some name
  | _ => none

/-- What a class constant names: a class or an array. -/
inductive ClassType
  | plain (name : String)
  | array (type : TypeDescriptor)
deriving DecidableEq, Repr

namespace ClassType

/-- The text of the constant. -/
def text : ClassType → String
  | plain name => name
  | array type => String.ofList type.text

/-- The name in source code. -/
def name : ClassType → String
  | plain name => dotted name
  | array type => type.sourceName

/-- The class itself or the class of the elements. -/
def className? : ClassType → Option String
  | plain name => some name
  | array type => type.element.className?

/-- A class does not look like an array; an array has a dimension and a descriptor, and its elements
do not look like arrays either. -/
def WellFormed (t : ClassType) : Prop :=
  (∀ name ∈ t.className?, name.toList.head? ≠ some '[') ∧
    match t with
    | plain _ => True
    | array type => 0 < type.dimensions ∧ type.WellFormed

instance (t : ClassType) : Decidable t.WellFormed :=
  match t with
  | plain _ => inferInstanceAs (Decidable (_ ∧ True))
  | array _ => inferInstanceAs (Decidable (_ ∧ _ ∧ _))

theorem beginsWith_bracket_iff (s : String) :
    Text.beginsWith s "[" = true ↔ s.toList.head? = some '[' := by
  rw [Text.beginsWith_iff]
  cases h : s.toList with
  | nil => simp
  | cons c cs => simp [eq_comm]

theorem beginsWith_array {type : TypeDescriptor} (h : 0 < type.dimensions) :
    Text.beginsWith (array type).text "[" = true := by
  obtain ⟨n, hn⟩ := Nat.exists_eq_add_one.mpr h
  rw [beginsWith_bracket_iff, text, String.toList_ofList, TypeDescriptor.text, hn]
  rfl

theorem ofConstant_of_not_bracket {s : String} (h : s.toList.head? ≠ some '[') :
    ClassName.ofConstant s = .ok (dotted s) :=
  if_neg fun hb => h ((beginsWith_bracket_iff s).mp hb)

/-- The text of a type is spliced into the descriptor of a method with one parameter. -/
theorem argumentNames_spliced {type : TypeDescriptor} (h : type.WellFormed) :
    MethodDescriptor.argumentNames ("(" ++ (array type).text ++ ")V") = .ok [type.sourceName] := by
  let d : MethodDescriptor := ⟨[type], ⟨.void, 0⟩⟩
  have hvoid : TypeDescriptor.WellFormed ⟨.void, 0⟩ := by decide
  have hd : d.WellFormed := ⟨by simpa [d] using h, hvoid⟩
  have hs : "(" ++ (array type).text ++ ")V" = d.string := by
    apply String.toList_inj.mp
    simp [d, text, MethodDescriptor.string, MethodDescriptor.text, TypeDescriptor.text,
      ElementType.text]
  rw [hs]
  exact MethodDescriptor.argumentNames_string hd

theorem ofConstant_array {type : TypeDescriptor} (hpos : 0 < type.dimensions)
    (h : type.WellFormed) : ClassName.ofConstant (array type).text = .ok type.sourceName := by
  unfold ClassName.ofConstant
  rw [if_pos (beginsWith_array hpos), argumentNames_spliced h]
  rfl

/-- **The name that a class constant stands for.** -/
theorem ofConstant_text {t : ClassType} (h : t.WellFormed) :
    ClassName.ofConstant t.text = .ok t.name := by
  cases t with
  | plain name => exact ofConstant_of_not_bracket (h.1 name rfl)
  | array type => exact ofConstant_array h.2.1 h.2.2

end ClassType

/-- The name between `L` and `;`. -/
theorem Text.framed?_eq_some_iff {s name : String} :
    (Text.after? "L" s).bind (Text.before? ";") = some name ↔ s = "L" ++ name ++ ";" := by
  simp only [Text.after?, Text.before?, Option.bind_eq_some_iff, Option.map_eq_some_iff,
    List.isPrefixOf?_eq_some_iff_append_eq, List.isSuffixOf?_eq_some_iff_append_eq]
  constructor
  · rintro ⟨rest, ⟨cs, hcs, rfl⟩, ds, hds, rfl⟩
    have hcs' : cs = ds ++ ";".toList := (hds.trans String.toList_ofList).symm
    apply String.toList_inj.mp
    simp [← hcs, hcs']
  · rintro rfl
    exact ⟨name ++ ";", ⟨(name ++ ";").toList, by simp, by simp⟩, name.toList, by simp, by simp⟩

namespace ClassType

/-- **The class constant of the elements.** -/
theorem elementConstant?_text {t : ClassType} (h : t.WellFormed) :
    ClassName.elementConstant? t.text = t.className? := by
  cases t with
  | plain name =>
    exact if_neg fun hb => h.1 name rfl ((beginsWith_bracket_iff name).mp hb)
  | array type =>
    obtain ⟨c, cs, htext, hc, -⟩ := type.element.exists_text_eq_cons
    have hbrackets : ∀ c ∈ List.replicate type.dimensions '[', decide (c = '[') = true :=
      fun c hm => decide_eq_true (List.eq_of_mem_replicate hm)
    have hdrop : (array type).text.toList.dropWhile (fun c => decide (c = '[')) =
        type.element.text := by
      rw [text, String.toList_ofList, TypeDescriptor.text,
        List.dropWhile_append_of_pos hbrackets, htext]
      simp [hc]
    unfold ClassName.elementConstant?
    rw [if_pos (beginsWith_array h.2.1), hdrop]
    show _ = type.element.className?
    cases type.element with
    | object name =>
      rw [ElementType.className?, Text.framed?_eq_some_iff]
      apply String.toList_inj.mp
      simp [ElementType.text]
    | _ => rfl

end ClassType

/-! ## Annotation types -/

/-- The type of an annotation: a class, or a text that is no class descriptor. -/
inductive AnnotationType
  | named (name : String)
  | bare (text : String)
deriving DecidableEq, Repr

namespace AnnotationType

/-- The descriptor of the type. -/
def text : AnnotationType → String
  | named name => "L" ++ name ++ ";"
  | bare text => text

/-- The name in source code. -/
def name : AnnotationType → String
  | named name => dotted name
  | bare text => dotted text

/-- A text that is no class descriptor does not look like one. -/
def WellFormed : AnnotationType → Prop
  | named _ => True
  | bare text => ¬(text.toList.head? = some 'L' ∧ text.toList.tail.getLast? = some ';')

instance : DecidablePred WellFormed
  | named _ => .isTrue trivial
  | bare _ => inferInstanceAs (Decidable (¬(_ ∧ _)))

theorem ofTypeDescriptor_text {t : AnnotationType} (h : t.WellFormed) :
    ClassName.ofTypeDescriptor t.text = t.name := by
  unfold ClassName.ofTypeDescriptor
  cases t with
  | named name =>
    rw [text, Text.framed?_eq_some_iff.mpr rfl]
    rfl
  | bare text =>
    have hnone : (Text.after? "L" text).bind (Text.before? ";") = none := by
      rw [Option.eq_none_iff_forall_not_mem]
      intro name hname
      have htext := Text.framed?_eq_some_iff.mp hname
      subst htext
      exact h (by simp)
    show dotted (((Text.after? "L" text).bind (Text.before? ";")).getD text) = _
    rw [hnone]
    rfl

end AnnotationType

end CallGraph
