import CallGraph.Proofs.JsonObject
import CallGraph.Proofs.Streams

/-!
# Nothing is lost in JSON lines

Whatever texts the records hold, each of the two streams has one line for each record sent to it, and
the records can be read off the lines. An edge is written with its methods rendered, so these are
known as texts.

* `Record.Contents` — what there is to know about a record from its line
* `Record.Contents.read?` — reads a line
* `jsonLines_determine_records` — the streams are read back
-/

namespace CallGraph

/-- What the line of a record tells. -/
inductive Record.Contents
  | archive (index : Nat) (path : String)
  | reference (owner referenced : String)
  | edge (caller : String) (kind : EdgeKind) (callee : String) (origin : Option Origin)
  | annotated (method type : String)
deriving DecidableEq, Repr

/-- What there is to tell about a record. -/
def Record.contents : Record → Record.Contents
  | archive index path => .archive index path
  | reference owner referenced => .reference owner referenced
  | edge e => .edge e.caller.text e.kind e.callee.text e.origin
  | annotated method type => .annotated method type

namespace Json

/-- The text in a field. -/
def text? (fields : List (String × Value)) (key : String) : Option String :=
  match fields.lookup key with
  | some (.text s) => some s
  | _ => none

/-- The number in a field. -/
def number? (fields : List (String × Value)) (key : String) : Option Nat :=
  match fields.lookup key with
  | some (.number n) => some n
  | _ => none

end Json

namespace Record.Contents

open Json (text? number?)

/-- The origin that the fields of an edge tell, if they tell one. -/
def origin? (fields : List (String × Json.Value)) : Option Origin := do
  return ⟨← number? fields "line", ← number? fields "archive"⟩

/-- The contents that the fields of an object make up. -/
def ofFields? (fields : List (String × Json.Value)) : Option Contents := do
  match ← text? fields "record" with
  | "archive" => return .archive (← number? fields "index") (← text? fields "path")
  | "class_reference" => return .reference (← text? fields "class") (← text? fields "referenced")
  | "edge" =>
    let kind ← EdgeKind.ofTag? (← text? fields "kind")
    return .edge (← text? fields "caller") kind (← text? fields "callee") (origin? fields)
  | "annotation" => return .annotated (← text? fields "method") (← text? fields "annotation")
  | _ => none

/-- Reads the line of a record. -/
def read? (line : String) : Option Contents := (Json.readObject? line).bind ofFields?

theorem ofFields?_fields (r : Record) : ofFields? r.fields = some r.contents := by
  cases r with
  | archive index path => rfl
  | reference owner referenced => rfl
  | annotated method type => rfl
  | edge e =>
    obtain ⟨caller, kind, callee, origin⟩ := e
    have hedge : ∀ fields origin, text? fields "record" = some "edge" →
        text? fields "caller" = some caller.text → text? fields "kind" = some kind.tag →
        text? fields "callee" = some callee.text → origin? fields = origin →
        ofFields? fields = some (.edge caller.text kind callee.text origin) := by
      intro fields origin hrecord hcaller hkind hcallee horigin
      simp [ofFields?, hrecord, hcaller, hkind, hcallee, horigin, EdgeKind.ofTag?_tag]
    cases origin with
    | none => exact hedge _ _ rfl rfl rfl rfl rfl
    | some origin => exact hedge _ _ rfl rfl rfl rfl rfl

/-- **The line of a record tells all about it.** -/
theorem read?_jsonLine (r : Record) : read? r.jsonLine = some r.contents := by
  rw [read?, Record.jsonLine, Json.readObject?_object, Option.bind_some, ofFields?_fields]

end Record.Contents

namespace Record

theorem lines_jsonLines (records : List Record) :
    Text.lines (lines .jsonLines records) = records.map (·.jsonLine ++ "\n") :=
  Text.lines_join fun r _ => Json.newline_not_mem_object r.fields

theorem readLines?_jsonLines (records : List Record) :
    Text.readLines? Contents.read? (lines .jsonLines records) = some (records.map contents) :=
  Text.readLines?_join (fun r _ => Json.newline_not_mem_object r.fields)
    fun r _ => Contents.read?_jsonLine r

end Record

namespace Sink

/-- **Nothing is lost in JSON lines.** Whatever is written, each stream falls into one line for each
record sent to it, in order, and the lines tell all about these records. -/
theorem jsonLines_determine_records {sink : Sink} (hf : sink.format = .jsonLines)
    (records : List Record) :
    let written := (sink.writeAll records).2
    let others := records.filter (!·.isAnnotated)
    let annotations := if sink.keepsAnnotations then records.filter (·.isAnnotated) else []
    (Text.lines written.edges = others.map (·.jsonLine ++ "\n") ∧
      Text.readLines? Record.Contents.read? written.edges = some (others.map Record.contents)) ∧
    (Text.lines written.annotations = annotations.map (·.jsonLine ++ "\n") ∧
      Text.readLines? Record.Contents.read? written.annotations =
        some (annotations.map Record.contents)) := by
  intro written others annotations
  have hedges : written.edges = Record.lines .jsonLines others := by
    rw [edges_writeAll, hf]
  have hannotations : written.annotations = Record.lines .jsonLines annotations := by
    rw [annotations_writeAll, hf]
    unfold annotations
    split <;> rfl
  rw [hedges, hannotations]
  exact ⟨⟨Record.lines_jsonLines others, Record.readLines?_jsonLines others⟩,
    Record.lines_jsonLines annotations, Record.readLines?_jsonLines annotations⟩

/-- Records whose texts are full of quotes, backslashes and line breaks. -/
def scribbles : List Record :=
  [.archive 1 "a\"b\\\n", .annotated "A:\t()" "\x00\x7f", .reference "\",\"" "é\r\n",
   .edge ⟨⟨"A", "f(\n)"⟩, .lambda, ⟨"A", "\x1f()"⟩, some ⟨10, 1⟩⟩]

theorem jsonLines_determine_records_scribbles :
    let sink : Sink := { format := .jsonLines, keepsAnnotations := true }
    let written := (sink.writeAll scribbles).2
    sink.format = .jsonLines ∧
      (Text.lines written.edges).length = 3 ∧
      Text.readLines? Record.Contents.read? written.edges =
        some [.archive 1 "a\"b\\\n", .reference "\",\"" "é\r\n",
          .edge "A:f(\n)" .lambda "A:\x1f()" (some ⟨10, 1⟩)] ∧
      Text.readLines? Record.Contents.read? written.annotations =
        some [.annotated "A:\t()" "\x00\x7f"] := by
  intro sink written
  have hall := jsonLines_determine_records (show sink.format = .jsonLines from rfl) scribbles
  exact ⟨rfl, congrArg List.length hall.1.1, hall.1.2, hall.2.2⟩

end Sink

end CallGraph
