import CallGraph.Edge

/-!
# Records

What a run reports: the archives in their order, the classes that a class mentions, the edges, and
the annotations of methods. Each record is one line, in one of two formats.

* `Record.textLine` is the line in the text format.
* `Record.jsonLine` is the line as a JSON object whose first field tells the kind of record.
-/

namespace CallGraph

/-- How records are written. -/
inductive OutputFormat
  | text
  | jsonLines
deriving DecidableEq, Repr

/-- Something that a run reports. -/
inductive Record
  /-- Comes before everything else about an archive. -/
  | archive (index : Nat) (path : String)
  | reference (owner referenced : String)
  | edge (edge : Edge)
  | annotated (method type : String)
deriving DecidableEq, Repr

/-! ## JSON -/

namespace Json

/-- Backslash, `u` and four hexadecimal digits. -/
def unicodeEscape (c : Char) : List Char :=
  ['\\', 'u', '0', '0', Nat.digitChar (c.toNat / 16), Nat.digitChar (c.toNat % 16)]

/-- A character inside a quoted text. Quotes, backslashes and control characters are escaped. -/
def escape (c : Char) : List Char :=
  if c = '"' then ['\\', '"']
  else if c = '\\' then ['\\', '\\']
  else if c = '\x08' then ['\\', 'b']
  else if c = '\x0c' then ['\\', 'f']
  else if c = '\n' then ['\\', 'n']
  else if c = '\r' then ['\\', 'r']
  else if c = '\t' then ['\\', 't']
  else if c.toNat < 0x20 then unicodeEscape c
  else [c]

/-- A text in quotes. -/
def quote (s : String) : String := String.ofList ('"' :: s.toList.flatMap escape ++ ['"'])

/-- The value of a field. -/
inductive Value
  | text (s : String)
  | number (n : Nat)
deriving DecidableEq, Repr

/-- The written value. -/
def Value.render : Value → String
  | text s => quote s
  | number n => toString n

/-- A written object, without blanks. -/
def object (fields : List (String × Value)) : String :=
  "\x7b" ++ String.intercalate "," (fields.map fun (key, value) => quote key ++ ":" ++ value.render)
    ++ "\x7d"

end Json

/-! ## Lines -/

namespace Record

/-- The line in the text format. -/
def textLine : Record → String
  | archive index path => "J:" ++ toString index ++ " " ++ path
  | reference owner referenced => "C:" ++ owner ++ " " ++ referenced
  | edge e => e.text
  | annotated method type => method ++ " " ++ type

/-- The fields of the JSON object. -/
def fields : Record → List (String × Json.Value)
  | archive index path =>
    [("record", .text "archive"), ("index", .number index), ("path", .text path)]
  | reference owner referenced =>
    [("record", .text "class_reference"), ("class", .text owner), ("referenced", .text referenced)]
  | edge e =>
    [("record", .text "edge"), ("caller", .text e.caller.text), ("kind", .text e.kind.tag),
     ("callee", .text e.callee.text)] ++
      match e.origin with
      | none => []
      | some origin => [("line", .number origin.line), ("archive", .number origin.archive)]
  | annotated method type =>
    [("record", .text "annotation"), ("method", .text method), ("annotation", .text type)]

/-- The line as a JSON object. -/
def jsonLine (r : Record) : String := Json.object r.fields

/-- The line in a format. -/
def line (format : OutputFormat) (r : Record) : String :=
  match format with
  | .text => r.textLine
  | .jsonLines => r.jsonLine

/-- The record is about annotations, which have a stream of their own. -/
def isAnnotated : Record → Bool
  | annotated _ _ => true
  | _ => false

end Record

end CallGraph
