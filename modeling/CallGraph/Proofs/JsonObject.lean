import CallGraph.Proofs.TextLines
import CallGraph.Record

/-!
# Objects read back

A reader for the JSON objects that records are written as. A text in quotes may hold quotes,
backslashes and control characters itself: each character is escaped so that reading finds where it
ends, and no escape holds a line break.

* `readText?`, `readValue?`, `readField?`, `readObject?` — reading, from the parts to the whole
* `readObject?_object` — a written object is read back
* `newline_not_mem_object` — a written object stands on one line
-/

namespace CallGraph.Json

/-! ## Reading -/

/-- The character that a letter behind a backslash stands for. -/
def letterEscape? : Char → Option Char
  | '"' => some '"'
  | '\\' => some '\\'
  | '/' => some '/'
  | 'b' => some '\x08'
  | 'f' => some '\x0c'
  | 'n' => some '\n'
  | 'r' => some '\r'
  | 't' => some '\t'
  | _ => none

/-- Reads a text up to the quote that ends it. -/
def readText? : List Char → Option (List Char × List Char)
  | [] => none
  | '"' :: rest => some ([], rest)
  | '\\' :: 'u' :: d₃ :: d₂ :: d₁ :: d₀ :: rest => do
    let code ← Text.number? 16 [d₃, d₂, d₁, d₀]
    let (text, rest) ← readText? rest
    return (Char.ofNat code :: text, rest)
  | '\\' :: letter :: rest => do
    let c ← letterEscape? letter
    let (text, rest) ← readText? rest
    return (c :: text, rest)
  | c :: rest => do
    let (text, rest) ← readText? rest
    return (c :: text, rest)

/-- Reads the value of a field: a text in quotes or a number. -/
def readValue? : List Char → Option (Value × List Char)
  | '"' :: rest => do
    let (text, rest) ← readText? rest
    return (.text (String.ofList text), rest)
  | cs => do
    let n ← Text.number? 10 (cs.takeWhile Char.isDigit)
    return (.number n, cs.dropWhile Char.isDigit)

/-- Reads the name and the value of a field. -/
def readField? : List Char → Option ((String × Value) × List Char)
  | '"' :: rest => do
    match ← readText? rest with
    | (key, ':' :: rest) =>
      let (value, rest) ← readValue? rest
      return ((String.ofList key, value), rest)
    | _ => none
  | _ => none

/-- A character put in front of a text that was read leaves what follows the text. -/
theorem exists_of_prepend {c : Char} {read : Option (List Char × List Char)}
    {text rest : List Char}
    (h : (do let (text, rest) ← read; return (c :: text, rest)) = some (text, rest)) :
    ∃ more, read = some (more, rest) := by
  obtain ⟨⟨more, rest'⟩, hread, h⟩ := Option.bind_eq_some_iff.mp h
  obtain ⟨rfl, rfl⟩ := Prod.mk.inj (Option.some.inj h)
  exact ⟨more, hread⟩

theorem length_lt_of_readText? {cs text rest : List Char} (h : readText? cs = some (text, rest)) :
    rest.length < cs.length := by
  fun_induction readText? cs generalizing text with
  | case1 => simp at h
  | case2 =>
    obtain ⟨rfl, rfl⟩ := Prod.mk.inj (Option.some.inj h)
    simp
  | case3 d₃ d₂ d₁ d₀ after ih =>
    obtain ⟨code, -, h⟩ := Option.bind_eq_some_iff.mp h
    obtain ⟨more, hmore⟩ := exists_of_prepend h
    have := ih hmore
    simp only [List.length_cons]
    omega
  | case4 letter after _ ih =>
    obtain ⟨c, -, h⟩ := Option.bind_eq_some_iff.mp h
    obtain ⟨more, hmore⟩ := exists_of_prepend h
    have := ih hmore
    simp only [List.length_cons]
    omega
  | case5 c after _ _ _ ih =>
    obtain ⟨more, hmore⟩ := exists_of_prepend h
    have := ih hmore
    simp only [List.length_cons]
    omega

theorem length_le_of_readValue? {cs rest : List Char} {value : Value}
    (h : readValue? cs = some (value, rest)) : rest.length ≤ cs.length := by
  unfold readValue? at h
  split at h
  · next after =>
    obtain ⟨⟨text, rest'⟩, hr, h⟩ := Option.bind_eq_some_iff.mp h
    obtain ⟨rfl, rfl⟩ := Prod.mk.inj (Option.some.inj h)
    have := length_lt_of_readText? hr
    simp only [List.length_cons]
    omega
  · obtain ⟨n, -, h⟩ := Option.bind_eq_some_iff.mp h
    obtain ⟨rfl, rfl⟩ := Prod.mk.inj (Option.some.inj h)
    exact (List.dropWhile_sublist _).length_le

theorem length_lt_of_readField? {cs rest : List Char} {field : String × Value}
    (h : readField? cs = some (field, rest)) : rest.length < cs.length := by
  unfold readField? at h
  split at h
  · next after =>
    obtain ⟨⟨key, colon⟩, hkey, h⟩ := Option.bind_eq_some_iff.mp h
    split at h
    · next key' after' heq =>
      obtain ⟨rfl, rfl⟩ := Prod.mk.inj heq
      obtain ⟨⟨value, rest'⟩, hvalue, h⟩ := Option.bind_eq_some_iff.mp h
      obtain ⟨rfl, rfl⟩ := Prod.mk.inj (Option.some.inj h)
      have hlt := length_lt_of_readText? hkey
      have hle := length_le_of_readValue? hvalue
      simp only [List.length_cons] at hlt ⊢
      omega
    · simp at h
  · simp at h

/-- Reads fields up to the brace that ends the text. -/
def readFields? (cs : List Char) : Option (List (String × Value)) :=
  match h : readField? cs with
  | none => none
  | some (field, rest) =>
    match rest with
    | ['\x7d'] => some [field]
    | ',' :: rest =>
      have := length_lt_of_readField? h
      (readFields? rest).map (field :: ·)
    | _ => none
termination_by cs.length
decreasing_by
  simp only [List.length_cons] at this
  omega

/-- Reads an object that takes up the whole text. -/
def readObject? (s : String) : Option (List (String × Value)) :=
  match s.toList with
  | '\x7b' :: cs => if cs = ['\x7d'] then some [] else readFields? cs
  | _ => none

/-! ## Texts -/

/-- A character is escaped by a letter or by its number, or it stands for itself. -/
theorem escape_cases (c : Char) :
    (∃ letter, letter ≠ 'u' ∧ letter ≠ '\n' ∧ letterEscape? letter = some c ∧
      escape c = ['\\', letter]) ∨
    (c.toNat < 0x20 ∧ escape c = unicodeEscape c) ∨
    (c ≠ '"' ∧ c ≠ '\\' ∧ c ≠ '\n' ∧ escape c = [c]) := by
  by_cases hletter : c ∈ ['"', '\\', '\x08', '\x0c', '\n', '\r', '\t']
  · left
    simp only [List.mem_cons, List.not_mem_nil, or_false] at hletter
    rcases hletter with rfl | rfl | rfl | rfl | rfl | rfl | rfl
    · exact ⟨'"', by decide⟩
    · exact ⟨'\\', by decide⟩
    · exact ⟨'b', by decide⟩
    · exact ⟨'f', by decide⟩
    · exact ⟨'n', by decide⟩
    · exact ⟨'r', by decide⟩
    · exact ⟨'t', by decide⟩
  · right
    simp only [List.mem_cons, List.not_mem_nil, or_false, not_or] at hletter
    obtain ⟨hquote, hback, hb, hf, hn, hr, ht⟩ := hletter
    unfold escape
    rw [if_neg hquote, if_neg hback, if_neg hb, if_neg hf, if_neg hn, if_neg hr, if_neg ht]
    by_cases hc : c.toNat < 0x20
    · exact Or.inl ⟨hc, if_pos hc⟩
    · exact Or.inr ⟨hquote, hback, hn, if_neg hc⟩

/-- Two zeros and two digits write the number of a control character. -/
theorem number?_unicodeEscape {c : Char} (h : c.toNat < 0x20) :
    Text.number? 16 ['0', '0', Nat.digitChar (c.toNat / 16), Nat.digitChar (c.toNat % 16)] =
      some c.toNat := by
  have hzeros : Text.number? 16 ['0', '0'] = some 0 := rfl
  have hfirst := Text.number?_concat hzeros (show c.toNat / 16 < 16 by omega) le_rfl
  have hboth := Text.number?_concat hfirst (show c.toNat % 16 < 16 by omega) le_rfl
  rw [show (0 * 16 + c.toNat / 16) * 16 + c.toNat % 16 = c.toNat by omega] at hboth
  exact hboth

/-- An escaped character is read as that character, whatever follows. -/
theorem readText?_escape (c : Char) (rest : List Char) :
    readText? (escape c ++ rest) = (readText? rest).map fun p => (c :: p.1, p.2) := by
  rw [Option.map_eq_bind]
  rcases escape_cases c with ⟨letter, hu, -, hletter, he⟩ | ⟨hc, he⟩ | ⟨hquote, hback, -, he⟩
  · rw [he, List.cons_append, List.singleton_append, readText?, hletter]
    · rfl
    · -- The four digits are looked for behind `u` only.
      intro _ _ _ _ _ h
      exact absurd h hu
  · rw [he, unicodeEscape]
    simp only [List.cons_append, List.nil_append]
    rw [readText?, number?_unicodeEscape hc, Option.bind_eq_bind, Option.bind_some, Char.ofNat_toNat]
    rfl
  · rw [he, List.singleton_append, readText?]
    · rfl
    all_goals simp [hquote, hback]

theorem readText?_flatMap_escape (text rest : List Char) :
    readText? (text.flatMap escape ++ '"' :: rest) = some (text, rest) := by
  induction text with
  | nil => rfl
  | cons c text ih =>
    rw [List.flatMap_cons, List.append_assoc, readText?_escape, ih]
    rfl

theorem toList_quote_append (s : String) (rest : List Char) :
    (quote s).toList ++ rest = '"' :: (s.toList.flatMap escape ++ '"' :: rest) := by
  simp [quote]

/-! ## Fields and objects -/

/-- A value is read back if it is not followed by a digit. -/
theorem readValue?_render (value : Value) {rest : List Char}
    (h : ∀ c ∈ rest.head?, c.isDigit = false) :
    readValue? (value.render.toList ++ rest) = some (value, rest) := by
  cases value with
  | text s =>
    rw [Value.render, toList_quote_append, readValue?, readText?_flatMap_escape]
    simp
  | number n =>
    have hrender : (Value.number n).render.toList = Nat.toDigits 10 n := by simp [Value.render]
    have hdigits : ∀ c ∈ Nat.toDigits 10 n, c.isDigit = true := fun c => Text.isDigit_of_mem_decimal
    have hrest : rest.takeWhile Char.isDigit = [] ∧ rest.dropWhile Char.isDigit = rest := by
      cases rest with
      | nil => exact ⟨rfl, rfl⟩
      | cons c rest => simp [h c rfl]
    rw [hrender, readValue?, List.takeWhile_append_of_pos hdigits,
      List.dropWhile_append_of_pos hdigits, hrest.1, hrest.2, List.append_nil, Text.number?_decimal]
    · rfl
    · -- A number does not start with a quote, so it is not taken for a text.
      intro more hquote
      obtain ⟨d, ds, hds⟩ := List.exists_cons_of_ne_nil (Nat.toDigits_ne_nil : Nat.toDigits 10 n ≠ [])
      rw [hds] at hdigits hquote
      obtain ⟨rfl, -⟩ := List.cons.inj hquote
      exact absurd (hdigits '"' List.mem_cons_self) (by decide)

/-- The written field. -/
def fieldText (field : String × Value) : String := quote field.1 ++ ":" ++ field.2.render

theorem object_eq (fields : List (String × Value)) :
    object fields = "\x7b" ++ String.intercalate "," (fields.map fieldText) ++ "\x7d" := rfl

theorem readField?_fieldText (field : String × Value) {rest : List Char}
    (h : ∀ c ∈ rest.head?, c.isDigit = false) :
    readField? ((fieldText field).toList ++ rest) = some (field, rest) := by
  have hcolon : (fieldText field).toList ++ rest =
      (quote field.1).toList ++ ':' :: (field.2.render.toList ++ rest) := by
    simp [fieldText]
  rw [hcolon, toList_quote_append, readField?, readText?_flatMap_escape]
  simp [readValue?_render field.2 h]

theorem readFields?_of_none {cs : List Char} (h : readField? cs = none) : readFields? cs = none := by
  rw [readFields?]
  split
  · rfl
  · next hsome => simp [h] at hsome

theorem readFields?_of_last {cs : List Char} {field : String × Value}
    (h : readField? cs = some (field, ['\x7d'])) : readFields? cs = some [field] := by
  rw [readFields?]
  split
  · next hnone => simp [h] at hnone
  · next field' rest hsome =>
    obtain ⟨rfl, rfl⟩ := Prod.mk.inj (Option.some.inj (h.symm.trans hsome))
    rfl

theorem readFields?_of_comma {cs rest : List Char} {field : String × Value}
    (h : readField? cs = some (field, ',' :: rest)) :
    readFields? cs = (readFields? rest).map (field :: ·) := by
  rw [readFields?]
  split
  · next hnone => simp [h] at hnone
  · next field' rest' hsome =>
    obtain ⟨rfl, rfl⟩ := Prod.mk.inj (Option.some.inj (h.symm.trans hsome))
    rfl

theorem readFields?_intercalate {fields : List (String × Value)} (hne : fields ≠ []) :
    readFields? ((String.intercalate "," (fields.map fieldText)).toList ++ ['\x7d']) =
      some fields := by
  induction fields with
  | nil => exact absurd rfl hne
  | cons field fields ih =>
    cases fields with
    | nil => exact readFields?_of_last (readField?_fieldText field (by simp))
    | cons next fields =>
      rw [List.map_cons, List.map_cons, String.intercalate_cons_cons, ← List.map_cons]
      have hrest := ih (by simp)
      generalize String.intercalate "," ((next :: fields).map fieldText) = more at hrest ⊢
      have hcomma : (fieldText field ++ "," ++ more).toList ++ ['\x7d'] =
          (fieldText field).toList ++ ',' :: (more.toList ++ ['\x7d']) := by
        simp
      rw [hcomma, readFields?_of_comma (readField?_fieldText field (by simp)), hrest]
      rfl

/-- **A written object is read back.** -/
theorem readObject?_object (fields : List (String × Value)) :
    readObject? (object fields) = some fields := by
  by_cases hne : fields = []
  · subst hne
    rfl
  have hfields := readFields?_intercalate hne
  rw [object_eq]
  generalize String.intercalate "," (fields.map fieldText) = body at hfields ⊢
  have hbrace : ("\x7b" ++ body ++ "\x7d").toList = '\x7b' :: (body.toList ++ ['\x7d']) := by
    simp
  have hbody : body.toList ++ ['\x7d'] ≠ ['\x7d'] := by
    intro h
    rw [h, readFields?_of_none rfl] at hfields
    simp at hfields
  simp only [readObject?, hbrace, if_neg hbody, hfields]

/-! ## One line -/

theorem newline_not_mem_escape (c : Char) : '\n' ∉ escape c := by
  rcases escape_cases c with ⟨letter, -, hletter, -, he⟩ | ⟨hc, he⟩ | ⟨-, -, hc, he⟩
  · rw [he]
    simp [hletter.symm]
  · have hdigit : ∀ d < 16, '\n' ≠ Nat.digitChar d := by decide
    rw [he, unicodeEscape]
    simp [hdigit (c.toNat / 16) (by omega), hdigit (c.toNat % 16) (by omega)]
  · rw [he]
    simp [hc.symm]

theorem newline_not_mem_quote (s : String) : '\n' ∉ (quote s).toList := by
  simp [quote, newline_not_mem_escape]

theorem newline_not_mem_fieldText (field : String × Value) : '\n' ∉ (fieldText field).toList := by
  have hvalue : '\n' ∉ field.2.render.toList := by
    cases field.2 with
    | text s => exact newline_not_mem_quote s
    | number n => simpa [Value.render] using Text.not_mem_decimal (by decide) n
  simp [fieldText, newline_not_mem_quote, hvalue]

/-- **A written object stands on one line.** -/
theorem newline_not_mem_object (fields : List (String × Value)) : '\n' ∉ (object fields).toList := by
  have hfields : '\n' ∉ (String.intercalate "," (fields.map fieldText)).toList := by
    refine Text.not_mem_intercalate (by decide) fun part hpart => ?_
    obtain ⟨field, -, rfl⟩ := List.mem_map.mp hpart
    exact newline_not_mem_fieldText field
  rw [object_eq]
  generalize String.intercalate "," (fields.map fieldText) = body at hfields ⊢
  simp [hfields]

end CallGraph.Json
