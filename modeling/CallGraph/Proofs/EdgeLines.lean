import CallGraph.Proofs.Streams
import CallGraph.Proofs.TextLines

/-!
# The text of an edge

The line of an edge joins its parts by colons, blanks and parentheses, which signatures hold too. It
can still be read in one way only if no blank or line break occurs in the keys and no colon in the
names of the classes: blanks divide the line, the first colon of a key ends the class, and the first
closing parenthesis ends the kind.

* `MethodKey.IsPlain` — keys that can be told apart in a line
* `Edge.read?`, `signatureParts?` — reading a line and a signature
* `read?_text`, `signatureParts?_signature` — what was written is read
* `textLines_determine_edges` — a stream of edges is read back
-/

namespace CallGraph

/-! ## Keys -/

/-- No blank or line break occurs in the key, and no colon in the name of the class. -/
structure MethodKey.IsPlain (key : MethodKey) : Prop where
  owner : ' ' ∉ key.owner.toList ∧ ':' ∉ key.owner.toList ∧ '\n' ∉ key.owner.toList
  signature : ' ' ∉ key.signature.toList ∧ '\n' ∉ key.signature.toList

namespace MethodKey

/-- Reads a rendered key. -/
def read? (s : String) : Option MethodKey :=
  (Text.cut? ':' s).map fun parts => ⟨parts.1, parts.2⟩

variable {key : MethodKey}

theorem IsPlain.read?_text (h : key.IsPlain) : read? key.text = some key := by
  rw [read?, text, Text.cut?_of_toList (b := key.signature) h.owner.2.1 (by simp), Option.map_some]

theorem IsPlain.blank_not_mem_text (h : key.IsPlain) : ' ' ∉ key.text.toList := by
  simp [text, h.owner.1, h.signature.1]

theorem IsPlain.newline_not_mem_text (h : key.IsPlain) : '\n' ∉ key.text.toList := by
  simp [text, h.owner.2.2, h.signature.2]

end MethodKey

/-! ## Lines -/

/-- The keys of the edge can be told apart in its line. -/
def Edge.IsPlain (e : Edge) : Prop := e.caller.IsPlain ∧ e.callee.IsPlain

theorem EdgeKind.separators_not_mem_tag (kind : EdgeKind) :
    ' ' ∉ kind.tag.toList ∧ '\n' ∉ kind.tag.toList ∧ ')' ∉ kind.tag.toList := by
  cases kind <;> decide

namespace Edge

/-- The written origin: its two numbers, or nothing. -/
def originParts : Option Origin → List String
  | none => []
  | some origin => [toString origin.line, toString origin.archive]

/-- Reads the numbers at the end of a line. -/
def readOrigin? : List String → Option (Option Origin)
  | [] => some none
  | [line, archive] => do
    return some ⟨← Text.number? 10 line.toList, ← Text.number? 10 archive.toList⟩
  | _ => none

/-- Reads the line of an edge. -/
def read? (line : String) : Option Edge :=
  match Text.splitAt ' ' line with
  | first :: second :: numbers => do
    let caller ← (Text.after? "M:" first).bind MethodKey.read?
    let (tag, callee) ← (Text.after? "(" second).bind (Text.cut? ')')
    return ⟨caller, ← EdgeKind.ofTag? tag, ← MethodKey.read? callee, ← readOrigin? numbers⟩
  | _ => none

theorem readOrigin?_originParts (origin : Option Origin) :
    readOrigin? (originParts origin) = some origin := by
  cases origin with
  | none => rfl
  | some origin => simp [originParts, readOrigin?, Text.number?_decimal]

/-- The parts of a line, between the blanks. -/
def parts (e : Edge) : List String :=
  ("M:" ++ e.caller.text) :: ("(" ++ e.kind.tag ++ ")" ++ e.callee.text) :: originParts e.origin

variable {e : Edge}

theorem text_eq_intercalate (e : Edge) : e.text = String.intercalate " " e.parts := by
  obtain ⟨caller, kind, callee, origin⟩ := e
  apply String.toList_inj.mp
  cases origin with
  | none => simp [text, parts, originParts]
  | some origin => simp [text, parts, originParts]

theorem IsPlain.blank_not_mem_part (h : e.IsPlain) {part : String} (hp : part ∈ e.parts) :
    ' ' ∉ part.toList := by
  have hnumber : ∀ n, ' ' ∉ Nat.toDigits 10 n := Text.not_mem_decimal (by decide)
  rcases List.mem_cons.mp hp with rfl | hp
  · simp [h.1.blank_not_mem_text]
  rcases List.mem_cons.mp hp with rfl | hp
  · simp [h.2.blank_not_mem_text, e.kind.separators_not_mem_tag.1]
  cases ho : e.origin with
  | none => simp [ho, originParts] at hp
  | some origin =>
    simp only [ho, originParts, List.mem_cons, List.not_mem_nil, or_false] at hp
    rcases hp with rfl | rfl
    · simpa using hnumber origin.line
    · simpa using hnumber origin.archive

theorem IsPlain.splitAt_text (h : e.IsPlain) : Text.splitAt ' ' e.text = e.parts := by
  rw [text_eq_intercalate]
  exact Text.splitAt_intercalate (List.cons_ne_nil _ _) fun part hp => h.blank_not_mem_part hp

/-- **The line of an edge is read in one way only.** -/
theorem IsPlain.read?_text (h : e.IsPlain) : read? e.text = some e := by
  have hcallee : Text.after? "(" ("(" ++ e.kind.tag ++ ")" ++ e.callee.text) =
      some (e.kind.tag ++ ")" ++ e.callee.text) := by
    rw [String.append_assoc, String.append_assoc, Text.after?_append, String.append_assoc]
  -- The class may start with a parenthesis too, but the one that ends the kind comes first.
  have htag : Text.cut? ')' (e.kind.tag ++ ")" ++ e.callee.text) = some (e.kind.tag, e.callee.text) :=
    Text.cut?_of_toList e.kind.separators_not_mem_tag.2.2 (by simp)
  rw [read?, h.splitAt_text, parts]
  simp [Text.after?_append, hcallee, htag, h.1.read?_text, h.2.read?_text, EdgeKind.ofTag?_tag,
    readOrigin?_originParts]

theorem IsPlain.newline_not_mem_text (h : e.IsPlain) : '\n' ∉ e.text.toList := by
  have hnumber : ∀ n, '\n' ∉ Nat.toDigits 10 n := Text.not_mem_decimal (by decide)
  unfold text
  split <;>
    simp [h.1.newline_not_mem_text, h.2.newline_not_mem_text, e.kind.separators_not_mem_tag.2.1,
      hnumber]

end Edge

/-! ## Signatures -/

/-- The name and the arguments can be told apart in the signature. -/
structure IsPlainSignature (name : String) (arguments : List String) : Prop where
  name : '(' ∉ name.toList
  arguments : ∀ argument ∈ arguments, argument ≠ "" ∧ ',' ∉ argument.toList

/-- Reads the name and the arguments off a signature. -/
def signatureParts? (s : String) : Option (String × List String) := do
  let (name, rest) ← Text.cut? '(' s
  let inner ← Text.before? ")" rest
  return (name, if inner = "" then [] else Text.splitAt ',' inner)

/-- **A signature is read in one way only.** -/
theorem IsPlainSignature.signatureParts?_signature {name : String} {arguments : List String}
    (h : IsPlainSignature name arguments) :
    signatureParts? (signature name arguments) = some (name, arguments) := by
  have hsplit : arguments ≠ [] → Text.splitAt ',' (String.intercalate "," arguments) = arguments :=
    fun hne => Text.splitAt_intercalate hne fun a ha => (h.arguments a ha).2
  -- Without arguments nothing stands in the parentheses, and only then.
  have hinner : String.intercalate "," arguments = "" ↔ arguments = [] := by
    constructor
    · intro hempty
      by_contra hne
      have hone := hsplit hne
      rw [hempty] at hone
      exact (h.arguments "" (hone ▸ List.mem_singleton_self "")).1 rfl
    · rintro rfl
      rfl
  have hname : Text.cut? '(' (signature name arguments) =
      some (name, String.intercalate "," arguments ++ ")") := by
    refine Text.cut?_of_toList h.name ?_
    simp [signature]
  simp only [signatureParts?, hname, Option.bind_eq_bind, Option.bind_some, Text.before?_append,
    hinner]
  by_cases hne : arguments = []
  · simp [hne]
  · simp [hne, hsplit hne]

/-- **Names and arguments make different signatures.** -/
theorem signature_inj {name name' : String} {arguments arguments' : List String}
    (h : IsPlainSignature name arguments) (h' : IsPlainSignature name' arguments')
    (heq : signature name arguments = signature name' arguments') :
    name = name' ∧ arguments = arguments' := by
  have hparts := h.signatureParts?_signature
  rw [heq, h'.signatureParts?_signature] at hparts
  obtain ⟨rfl, rfl⟩ := Prod.mk.inj (Option.some.inj hparts)
  exact ⟨rfl, rfl⟩

namespace Edge

/-- The names and the arguments of the two methods of an edge. -/
def signatureParts? (e : Edge) : Option ((String × List String) × String × List String) := do
  return (← CallGraph.signatureParts? e.caller.signature,
    ← CallGraph.signatureParts? e.callee.signature)

end Edge

namespace Sink

/-- **The lines of edges can be read in one way only.** A stream of edges falls into one line for each
edge, and the edges can be read off the lines. Names and arguments make different signatures, so they
can be read off too. -/
theorem textLines_determine_edges {sink : Sink} (hf : sink.format = .text) {edges : List Edge}
    (hplain : ∀ e ∈ edges, e.IsPlain) :
    let stream := (sink.writeAll (edges.map .edge)).2.edges
    Text.lines stream = edges.map (·.text ++ "\n") ∧
    Text.readLines? Edge.read? stream = some edges ∧
    ∀ name arguments name' arguments',
      IsPlainSignature name arguments → IsPlainSignature name' arguments' →
      (signature name arguments = signature name' arguments' →
        name = name' ∧ arguments = arguments') ∧
      ∀ e ∈ edges, e.caller.signature = signature name arguments →
        e.callee.signature = signature name' arguments' →
        (Edge.read? e.text).bind Edge.signatureParts? =
          some ((name, arguments), name', arguments') := by
  intro stream
  have hedges : (edges.map Record.edge).filter (!·.isAnnotated) = edges.map .edge := by
    refine List.filter_eq_self.mpr fun r hr => ?_
    obtain ⟨e, -, rfl⟩ := List.mem_map.mp hr
    rfl
  have hstream : stream = String.join (edges.map (·.text ++ "\n")) := by
    unfold stream
    rw [edges_writeAll, hf, hedges, Record.lines, List.map_map]
    rfl
  have hbreak : ∀ e ∈ edges, '\n' ∉ e.text.toList := fun e he => (hplain e he).newline_not_mem_text
  have hread : ∀ e ∈ edges, Edge.read? e.text = some e := fun e he => (hplain e he).read?_text
  rw [hstream]
  refine ⟨Text.lines_join hbreak, ?_, ?_⟩
  · simpa using Text.readLines?_join hbreak hread
  · intro name arguments name' arguments' h h'
    refine ⟨signature_inj h h', ?_⟩
    intro e he hcaller hcallee
    rw [hread e he, Option.bind_some, Edge.signatureParts?, hcaller, hcallee,
      h.signatureParts?_signature, h'.signatureParts?_signature]
    rfl

/-- Edges whose keys hold all the characters that a line is divided by. -/
def tangled : List Edge :=
  [⟨⟨"a.A)", "f(b:c,(S))"⟩, .static, ⟨"(I)b.B", "g()"⟩, some ⟨7, 1⟩⟩,
   ⟨⟨"M", "7(1)"⟩, .childToSuper, ⟨"", "h(M:)"⟩, none⟩]

theorem textLines_determine_edges_tangled :
    let sink : Sink := { format := .text, keepsAnnotations := false }
    let stream := (sink.writeAll (tangled.map .edge)).2.edges
    sink.format = .text ∧ (∀ e ∈ tangled, e.IsPlain) ∧
      stream = "M:a.A):f(b:c,(S)) (S)(I)b.B:g() 7 1\nM:M:7(1) (CCS):h(M:)\n" ∧
      Text.readLines? Edge.read? stream = some tangled ∧
      (Edge.read? "M:a.A):f(b:c,(S)) (S)(I)b.B:g() 7 1").bind Edge.signatureParts? =
        some (("f", ["b:c", "(S)"]), "g", []) := by
  intro sink stream
  have hplain : ∀ e ∈ tangled, e.IsPlain := by
    intro e he
    simp only [tangled, List.mem_cons, List.not_mem_nil, or_false] at he
    rcases he with rfl | rfl
    · exact ⟨⟨by decide, by decide⟩, by decide, by decide⟩
    · exact ⟨⟨by decide, by decide⟩, by decide, by decide⟩
  obtain ⟨-, hread, hparts⟩ :=
    textLines_determine_edges (show sink.format = .text from rfl) hplain
  have hfirst := (hparts "f" ["b:c", "(S)"] "g" [] ⟨by decide, by decide⟩ ⟨by decide, by decide⟩).2 _
    List.mem_cons_self rfl rfl
  exact ⟨rfl, hplain, by decide +kernel, hread, hfirst⟩

end Sink

end CallGraph
