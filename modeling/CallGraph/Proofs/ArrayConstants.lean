import CallGraph.Proofs.DescriptorGrammar

/-!
# Which array constants are read

A class constant that begins with a bracket is read as a parameter list, and its name is that of the
last parameter. So more is read than array types: behind the first type there may be others, and the
list may even be closed before the constant ends.

* `ClassName.ofConstant_eq_ok_iff` — what is read, and under which name
* `ClassName.ofConstant_isArray_iff` — array types are read under their names, and nothing else is
  unless it is overlong
* `ClassName.ofConstant_overlong` — an overlong constant
-/

namespace CallGraph

namespace Descriptor

/-- Nothing, or a closing bracket with a result type and anything else behind it. -/
def IsTail (text : List Char) : Prop :=
  text = [] ∨ ∃ result rest, text = ')' :: (result ++ rest) ∧ ∃ name, IsType result name

/-- A type with something behind it: more types, a tail of a descriptor, or both. -/
def IsOverlong (text : List Char) : Prop :=
  ∃ (first : List Char) (types : List (List Char)) (tail : List Char),
    text = first ++ (types.flatten ++ tail) ∧ (∃ name, IsType first name) ∧
      (∀ type ∈ types, ∃ name, IsType type name) ∧ IsTail tail ∧ types.flatten ++ tail ≠ []

end Descriptor

open Descriptor

/-! ## Splicing -/

/-- No type ends in what a constant is closed with. -/
theorem TypeDescriptor.text_ne_bracket (t : TypeDescriptor) (cs : List Char) :
    t.text ≠ cs ++ [')'] ∧ t.text ≠ cs ++ [')', 'V'] := by
  obtain ⟨element, n⟩ := t
  constructor
  · intro h
    have hrev := congrArg List.reverse h
    cases element <;> simp [text, ElementType.text] at hrev
  · intro h
    have hrev := congrArg List.reverse h
    cases element with
    | void =>
      -- Before the last letter there is a bracket of the array, if anything.
      cases n <;> simp [text, ElementType.text, List.replicate_succ'] at hrev
    | _ => simp [text, ElementType.text] at hrev

/-- A type that begins before the closing of a constant ends before it. -/
theorem TypeDescriptor.text_append_eq_iff {t : TypeDescriptor} {cs rest : List Char} :
    t.text ++ rest = cs ++ [')', 'V'] ↔
      ∃ rest', cs = t.text ++ rest' ∧ rest = rest' ++ [')', 'V'] := by
  constructor
  · intro h
    rcases List.append_eq_append_iff.mp h with ⟨rest', hcs, hrest⟩ | ⟨mid, htext, hmid⟩
    · exact ⟨rest', hcs, hrest⟩
    · obtain ⟨hone, htwo⟩ := t.text_ne_bracket cs
      match mid, hmid with
      | [], hmid => exact ⟨[], by simpa using htext.symm, by simpa using hmid.symm⟩
      | [a], hmid =>
        obtain rfl : ')' = a := (List.cons.inj hmid).1
        exact absurd htext hone
      | [a, b], hmid =>
        obtain ⟨rfl, htail⟩ := List.cons.inj hmid
        obtain rfl : 'V' = b := (List.cons.inj htail).1
        exact absurd htext htwo
      | a :: b :: c :: mid, hmid => simp at hmid
  · rintro ⟨rest', rfl, rfl⟩
    rw [List.append_assoc]

/-- Where the parameter list ends that a constant is spliced into: behind the constant or within
it. -/
theorem spliced_iff {t : TypeDescriptor} {types cs rest : List Char} :
    cs ++ [')', 'V'] = types ++ ')' :: (t.text ++ rest) ↔
      (cs = types ∧ t.text ++ rest = ['V']) ∨
        ∃ rest', cs = types ++ ')' :: (t.text ++ rest') ∧ rest = rest' ++ [')', 'V'] := by
  constructor
  · intro h
    rcases List.append_eq_append_iff.mp h with ⟨mid, htypes, hmid⟩ | ⟨mid, hcs, hmid⟩
    · match mid, hmid with
      | [], hmid => exact Or.inl ⟨by simpa using htypes.symm, (List.cons.inj hmid).2.symm⟩
      | [a], hmid =>
        have hv : 'V' = ')' := (List.cons.inj (List.cons.inj hmid).2).1
        exact absurd hv (by decide)
      | a :: b :: mid, hmid => simp at hmid
    · match mid, hmid with
      | [], hmid => exact Or.inl ⟨by simpa using hcs, (List.cons.inj hmid).2⟩
      | a :: mid, hmid =>
        obtain ⟨rfl, htail⟩ := List.cons.inj hmid
        obtain ⟨rest', rfl, rfl⟩ := TypeDescriptor.text_append_eq_iff.mp htail
        exact Or.inr ⟨rest', hcs, rfl⟩
  · rintro (⟨rfl, hv⟩ | ⟨rest', rfl, rfl⟩)
    · rw [hv]
    · simp

/-! ## What is read -/

namespace ClassName

/-- The name of an array constant is that of the last parameter of the list it is spliced into. -/
theorem ofConstant_eq_ok_iff_parse {s name : String} (hs : s.toList.head? = some '[') :
    ofConstant s = .ok name ↔ ∃ types last result, MethodDescriptor.parse ("(" ++ s ++ ")V") =
      .ok ⟨types ++ [last], result⟩ ∧ last.sourceName = name := by
  unfold ofConstant
  rw [if_pos ((ClassType.beginsWith_bracket_iff s).mpr hs), MethodDescriptor.argumentNames]
  cases MethodDescriptor.parse ("(" ++ s ++ ")V") with
  | error e => simp [Except.map]
  | ok d =>
    obtain ⟨parameters, result⟩ := d
    rcases List.eq_nil_or_concat parameters with rfl | ⟨types, last, rfl⟩
    · simp [Except.map]
    · simp [Except.map]

/-- Reading a constant in round brackets: either the constant is a list of types, or it has the
closing bracket and the result type in it. -/
theorem parse_spliced_iff {s : String} {types : List TypeDescriptor} {result : TypeDescriptor} :
    MethodDescriptor.parse ("(" ++ s ++ ")V") = .ok ⟨types, result⟩ ↔
      (∀ t ∈ types, t.WellFormed) ∧ result.WellFormed ∧
        ((s.toList = types.flatMap TypeDescriptor.text ∧ result.text = ['V']) ∨
          ∃ rest,
            s.toList = types.flatMap TypeDescriptor.text ++ ')' :: (result.text ++ rest)) := by
  have hlist : ("(" ++ s ++ ")V").toList = '(' :: (s.toList ++ [')', 'V']) := by simp
  have htext (rest : List Char) : MethodDescriptor.text ⟨types, result⟩ ++ rest =
      '(' :: (types.flatMap TypeDescriptor.text ++ ')' :: (result.text ++ rest)) := by
    simp [MethodDescriptor.text]
  rw [MethodDescriptor.parse_eq_ok_iff]
  simp only [hlist, htext, List.cons.injEq, true_and, spliced_iff]
  constructor
  · rintro ⟨rest, ⟨htypes, hresult⟩, ⟨hs, hv⟩ | ⟨rest', hs, -⟩⟩
    · obtain ⟨c, cs, hc, -⟩ := result.exists_text_eq_cons
      have hv' : result.text = ['V'] := by
        rw [hc] at hv ⊢
        simp_all
      exact ⟨htypes, hresult, Or.inl ⟨hs, hv'⟩⟩
    · exact ⟨htypes, hresult, Or.inr ⟨rest', hs⟩⟩
  · rintro ⟨htypes, hresult, ⟨hs, hv⟩ | ⟨rest, hs⟩⟩
    · exact ⟨[], ⟨htypes, hresult⟩, Or.inl ⟨hs, by rw [hv]; rfl⟩⟩
    · exact ⟨rest ++ [')', 'V'], ⟨htypes, hresult⟩, Or.inr ⟨rest, hs, rfl⟩⟩

/-- **What is read as an array constant, and under which name:** types, of which the last one gives
the name, and then nothing or the tail of a descriptor. -/
theorem ofConstant_eq_ok_iff {s name : String} (hs : s.toList.head? = some '[') :
    ofConstant s = .ok name ↔ ∃ (types : List (List Char)) (last tail : List Char),
      s.toList = types.flatten ++ (last ++ tail) ∧ (∀ type ∈ types, ∃ name, IsType type name) ∧
        IsType last name ∧ IsTail tail := by
  simp only [ofConstant_eq_ok_iff_parse hs, parse_spliced_iff]
  constructor
  · rintro ⟨types, last, result, ⟨hall, hresult, hread⟩, rfl⟩
    have htypes : ∀ type ∈ types.map TypeDescriptor.text, ∃ name, IsType type name := by
      intro type hm
      obtain ⟨t, ht, rfl⟩ := List.mem_map.mp hm
      exact ⟨_, (isType_text (hall t (List.mem_append_left _ ht))).mpr rfl⟩
    have hlast := (isType_text (hall last (by simp))).mpr rfl
    rcases hread with ⟨hs, -⟩ | ⟨rest, hs⟩
    · refine ⟨_, _, [], ?_, htypes, hlast, Or.inl rfl⟩
      simp [hs, List.flatMap_def]
    · refine ⟨_, _, _, ?_, htypes, hlast,
        Or.inr ⟨_, rest, rfl, _, (isType_text hresult).mpr rfl⟩⟩
      simp [hs, List.flatMap_def]
  · rintro ⟨texts, text, tail, hs, htexts, htext, htail⟩
    obtain ⟨types, htypes, rfl⟩ := exists_types htexts
    obtain ⟨last, hlast, rfl, rfl⟩ := isType_iff.mp htext
    have hall : ∀ t ∈ types ++ [last], t.WellFormed := by
      intro t ht
      rcases List.mem_append.mp ht with ht | ht
      · exact htypes t ht
      · rw [List.mem_singleton.mp ht]
        exact hlast
    rcases htail with rfl | ⟨result, rest, rfl, name, hname⟩
    · refine ⟨types, last, ⟨.void, 0⟩, ⟨hall, by decide, Or.inl ⟨?_, rfl⟩⟩, rfl⟩
      simp [hs, List.flatMap_def]
    · obtain ⟨t, ht, rfl, -⟩ := isType_iff.mp hname
      refine ⟨types, last, t, ⟨hall, ht, Or.inr ⟨rest, ?_⟩⟩, rfl⟩
      simp [hs, List.flatMap_def]

/-! ## Array types and overlong constants -/

theorem endsIn_of_isArray {text : List Char} {name : String} (h : IsArray text name) :
    Text.endsIn name "[]" = true := by
  obtain ⟨n, hpos, -, h⟩ := h
  obtain ⟨n, rfl⟩ := Nat.exists_eq_add_one.mpr hpos
  rw [Text.endsIn_iff, List.replicate_succ', String.join_append, ← String.append_assoc,
    String.toList_append]
  exact List.suffix_append _ _

/-- An overlong constant is no array type: a text begins with one type only. -/
theorem not_isType_of_isOverlong {text : List Char} (h : IsOverlong text) (name : String) :
    ¬IsType text name := by
  obtain ⟨first, types, tail, rfl, ⟨name', hfirst⟩, -, -, hmore⟩ := h
  intro htype
  obtain ⟨t, ht, htext, -⟩ := isType_iff.mp htype
  obtain ⟨t', ht', rfl, -⟩ := isType_iff.mp hfirst
  have heq : t.text ++ [] = t'.text ++ (types.flatten ++ tail) := by rw [List.append_nil, htext]
  exact hmore (TypeDescriptor.text_append_inj ht ht' heq).2.symm

theorem exists_ofConstant_of_isOverlong {s : String} (hs : s.toList.head? = some '[')
    (h : IsOverlong s.toList) : ∃ name, ofConstant s = .ok name := by
  obtain ⟨first, types, tail, htext, hfirst, htypes, htail, -⟩ := h
  have hall : ∀ type ∈ first :: types, ∃ name, IsType type name := by
    intro type hm
    rcases List.mem_cons.mp hm with rfl | hm
    · exact hfirst
    · exact htypes type hm
  rcases List.eq_nil_or_concat (first :: types) with hnil | ⟨init, last, hconcat⟩
  · simp at hnil
  · obtain ⟨name, hname⟩ := hall last (by simp [hconcat])
    refine ⟨name, (ofConstant_eq_ok_iff hs).mpr ⟨init, last, tail, ?_, ?_, hname, htail⟩⟩
    · have hflat : first ++ types.flatten = init.flatten ++ last := by
        simpa using congrArg List.flatten hconcat
      rw [htext, ← List.append_assoc, hflat, List.append_assoc]
    · exact fun type hm => hall type (by simp [hconcat, hm])

theorem ne_nil_of_isType {text : List Char} {name : String} (h : IsType text name) : text ≠ [] := by
  obtain ⟨t, -, rfl, -⟩ := isType_iff.mp h
  obtain ⟨c, cs, hc, -⟩ := t.exists_text_eq_cons
  rw [hc]
  exact List.cons_ne_nil c cs

/-- A type that begins with a bracket is an array type. -/
theorem isArray_of_head? {text : List Char} {name : String} (h : IsType text name)
    (hhead : text.head? = some '[') : IsArray text name := by
  rcases h with h | h
  · obtain ⟨t, -, rfl, -⟩ := isElement_iff.mp h
    obtain ⟨c, cs, hc, hne, -⟩ := t.exists_text_eq_cons
    rw [hc] at hhead
    exact absurd (Option.some.inj hhead) hne
  · exact h

/-- What is read without being overlong is an array type. -/
theorem isArray_of_ofConstant {s name : String} (hs : s.toList.head? = some '[')
    (hshort : ¬IsOverlong s.toList) (h : ofConstant s = .ok name) : IsArray s.toList name := by
  obtain ⟨types, last, tail, htext, htypes, hlast, htail⟩ := (ofConstant_eq_ok_iff hs).mp h
  cases types with
  | nil =>
    by_cases hnil : tail = []
    · have hwhole : s.toList = last := by simpa [hnil] using htext
      rw [hwhole] at hs ⊢
      exact isArray_of_head? hlast hs
    · refine absurd ⟨last, [], tail, htext, ⟨name, hlast⟩, by simp, htail, ?_⟩ hshort
      exact hnil
  | cons first types =>
    refine absurd ⟨first, types ++ [last], tail, ?_, htypes first List.mem_cons_self, ?_, htail, ?_⟩
      hshort
    · simpa using htext
    · intro type hm
      rcases List.mem_append.mp hm with hm | hm
      · exact htypes type (List.mem_cons_of_mem _ hm)
      · rw [List.mem_singleton.mp hm]
        exact ⟨name, hlast⟩
    · simp [ne_nil_of_isType hlast]

/-- **A constant that begins with a bracket is read as an array type, unless it is overlong.** If it
is not, it is read exactly if the whole of it is an array type, under the name of that type, which
ends in brackets. If it is overlong, it is no array type and is read under the name of its last
type. -/
theorem ofConstant_isArray_iff {s : String} (hs : s.toList.head? = some '[') :
    (¬IsOverlong s.toList → ∀ name, (ofConstant s = .ok name ↔ IsArray s.toList name) ∧
      (ofConstant s = .ok name → Text.endsIn name "[]" = true)) ∧
    (IsOverlong s.toList → (∀ name, ¬IsArray s.toList name) ∧ (∃ name, ofConstant s = .ok name) ∧
      ∀ name, ofConstant s = .ok name ↔ ∃ (types : List (List Char)) (last tail : List Char),
        s.toList = types.flatten ++ (last ++ tail) ∧ (∀ type ∈ types, ∃ name, IsType type name) ∧
          IsType last name ∧ IsTail tail) := by
  constructor
  · intro hshort name
    refine ⟨⟨isArray_of_ofConstant hs hshort, ?_⟩, fun h => ?_⟩
    · intro h
      obtain ⟨t, ht, hpos, htext, rfl⟩ := isArray_iff.mp h
      have hread := ClassType.ofConstant_array hpos ht
      rw [ClassType.text, htext, String.ofList_toList] at hread
      exact hread
    · exact endsIn_of_isArray (isArray_of_ofConstant hs hshort h)
  · intro hlong
    exact ⟨fun name h => not_isType_of_isOverlong hlong name (Or.inr h),
      exists_ofConstant_of_isOverlong hs hlong, fun _ => ofConstant_eq_ok_iff hs⟩

theorem ofConstant_isArray_iff_numbers :
    "[[I".toList.head? = some '[' ∧ ofConstant "[[I" = .ok "int[][]" := by
  have hs : "[[I".toList.head? = some '[' := by decide
  have harray : IsArray "[[I".toList "int[][]" :=
    isArray_iff.mpr ⟨⟨.int, 2⟩, by decide, by decide, by decide, by decide⟩
  have hshort : ¬IsOverlong "[[I".toList := fun hlong =>
    not_isType_of_isOverlong hlong _ (Or.inr harray)
  exact ⟨hs, (((ofConstant_isArray_iff hs).1 hshort _).1).mpr harray⟩

/-- **Two types in a row are read as the second one,** which is not even an array. -/
theorem ofConstant_overlong :
    "[Lfoo;Lbar/Baz;".toList.head? = some '[' ∧
      ofConstant "[Lfoo;Lbar/Baz;" = .ok "bar.Baz" ∧ Text.endsIn "bar.Baz" "[]" = false ∧
      ∀ name, ¬IsArray "[Lfoo;Lbar/Baz;".toList name := by
  have hfoo : IsType "[Lfoo;".toList "foo[]" :=
    isType_iff.mpr ⟨⟨.object "foo", 1⟩, by decide, by decide, by decide⟩
  have hbaz : IsType "Lbar/Baz;".toList "bar.Baz" :=
    isType_iff.mpr ⟨⟨.object "bar/Baz", 0⟩, by decide, by decide, by decide⟩
  have hlong : IsOverlong "[Lfoo;Lbar/Baz;".toList := by
    refine ⟨"[Lfoo;".toList, ["Lbar/Baz;".toList], [], by decide, ⟨_, hfoo⟩, ?_, Or.inl rfl,
      by decide⟩
    intro type hm
    rw [List.mem_singleton.mp hm]
    exact ⟨_, hbaz⟩
  exact ⟨by decide, by decide +kernel, by decide,
    fun name h => not_isType_of_isOverlong hlong name (Or.inr h)⟩

end ClassName

end CallGraph
