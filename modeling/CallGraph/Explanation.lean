/-!
# Explanations of failures

A failure is told as a chain of messages, the outermost first. The chain may end in a source that
the tool does not word itself: the structure of a class file or of a zip archive, the text of a
URL, or an answer of the file system.

* `FileError` is what the file system answers instead of a file.
* `Explanation.within` puts one more message in front of a chain.
-/

namespace CallGraph

/-- What the file system answers instead of what was asked for. -/
inductive FileError
  | notFound
  | notADirectory
  | isADirectory
  /-- A part of the path is longer than names can be. -/
  | nameTooLong
  /-- The bytes do not have the promised checksum. -/
  | invalidData
  /-- The bytes are not in the promised encoding, or the path has a character that none can
  have. -/
  | invalidInput
  /-- The bytes end too early. -/
  | unexpectedEnd
  /-- Any answer that says nothing about the name itself, such as a refused access. -/
  | other
deriving DecidableEq, Repr

/-- The text shown to a reader of the error output. -/
def FileError.text : FileError → String
  | .notFound => "no such file or directory"
  | .notADirectory => "not a directory"
  | .isADirectory => "is a directory"
  | .nameTooLong => "file name too long"
  | .invalidData => "invalid checksum"
  | .invalidInput => "invalid input"
  | .unexpectedEnd => "unexpected end of file"
  | .other => "input or output failed"

/-- The end of a chain of messages that lies outside the tool's own wording. -/
inductive Source
  | classFile
  | zip
  | url
  | file (error : FileError)
deriving DecidableEq, Repr

/-- The text shown to a reader of the error output. -/
def Source.text : Source → String
  | .classFile => "malformed class file"
  | .zip => "malformed zip archive"
  | .url => "malformed URL"
  | .file error => error.text

/-- A chain of messages, the outermost first, and the source it may end in. -/
structure Explanation where
  messages : List String
  source : Option Source := none
deriving DecidableEq, Repr

namespace Explanation

/-- A chain of one message. -/
def of (message : String) : Explanation := ⟨[message], none⟩

/-- A chain that is its source only. -/
def ofSource (source : Source) : Explanation := ⟨[], some source⟩

/-- Puts the message of an enclosing task in front. -/
def within (message : String) (e : Explanation) : Explanation :=
  { e with messages := message :: e.messages }

/-- All links of the chain as texts, the outermost first. -/
def links (e : Explanation) : List String :=
  e.messages ++ (e.source.map Source.text).toList

/-- The chain on one line. -/
def oneLine (e : Explanation) : String := String.intercalate ": " e.links

@[simp] theorem messages_within (message : String) (e : Explanation) :
    (e.within message).messages = message :: e.messages := rfl

@[simp] theorem source_within (message : String) (e : Explanation) :
    (e.within message).source = e.source := rfl

end Explanation

end CallGraph
