import CallGraph.Options

/-!
# Help

The help text exists in two forms made from one table: the long one gives every option a paragraph
and lists the possible values with their meaning, the brief one gives it two lines.

* `Help.long` and `Help.brief` are the lines of the two forms.
* `Inquiry.lines` answers an inquiry.
-/

namespace CallGraph

namespace Help

/-- A possible value of a setting and its meaning. -/
structure Choice where
  value : String
  meaning : String

/-- An option in the table; without choices there is no standard value. -/
structure Entry where
  label : String
  purpose : String := ""
  choices : List Choice := []
  standard : String := ""

/-- The name and version of the tool. -/
def version : String := "jcallgraph 0.1.0"

/-- The lines above the arguments. -/
def heading : List String :=
  ["Static call graph extraction for JVM class files and JAR archives.", "",
   "Usage: jcallgraph [OPTIONS] <ARCHIVE>...", "", "Arguments:"]

/-- The label of the archives. -/
def archiveLabel : String := "  <ARCHIVE>..."

/-- What archives can be. -/
def archivePurpose : String :=
  "JAR files, class directories or single class files, in processing order"

/-- The options; `howToGetMore` tells of the other form of help. -/
def entries (howToGetMore : String) : List Entry :=
  [{ label := "  -o, --output <PATH>" },
   { label := "      --annotation-output <PATH>" },
   { label := "      --format <FORMAT>"
     choices :=
       [⟨"text", "One `J:` / `C:` / `M:` line per record"⟩,
        ⟨"jsonl", "One JSON object per line with a `record` discriminator"⟩]
     standard := "text" },
   { label := "      --isolate-usage"
     purpose := "Resolve each archive against its own callee usage only" },
   { label := "      --interface-dispatch <INTERFACE_DISPATCH>"
     choices :=
       [⟨"both-called",
         "Both the interface method and the implementing method must have been called"⟩,
        ⟨"interface-called", "Only the interface method must have been called"⟩]
     standard := "both-called" },
   { label := "      --class-references" },
   { label := "      --otel <URL>", purpose := "OTLP HTTP endpoint receiving traces" },
   { label := "      --quiet" },
   { label := "      --timing" },
   { label := "  -h, --help", purpose := "Print help (" ++ howToGetMore ++ ")" },
   { label := "  -V, --version", purpose := "Print version" }]

/-- Texts below a label are indented. -/
def indented (text : String) : String := "          " ++ text

/-- The text with blanks behind it, up to a width. -/
def padded (width : Nat) (text : String) : String :=
  text ++ String.ofList (List.replicate (width - text.length) ' ')

/-- The standard value in brackets. -/
def standardNote (entry : Entry) : String := "[default: " ++ entry.standard ++ "]"

/-- The possible values one below the other, their meanings aligned. -/
def choiceLines (choices : List Choice) : List String :=
  let width := (choices.map fun c => c.value.length).foldl max 0 + 2
  choices.map fun c => "- " ++ padded width (c.value ++ ":") ++ c.meaning

/-- The paragraph of an option in the long form. -/
def longLines (entry : Entry) : List String :=
  entry.label ::
    if entry.choices.isEmpty then [indented entry.purpose]
    else
      ("Possible values:" :: choiceLines entry.choices ++ ["", standardNote entry]).map indented

/-- The lines of an option in the brief form. -/
def briefLines (entry : Entry) : List String :=
  [entry.label,
   indented
    (if entry.choices.isEmpty then entry.purpose
     else
      standardNote entry ++ " [possible values: " ++
        String.intercalate ", " (entry.choices.map Choice.value) ++ "]")]

/-- The lines of the long form. -/
def long : List String :=
  heading ++ [archiveLabel, indented archivePurpose, "", "Options:"] ++
    List.intercalate [""] ((entries "see a summary with '-h'").map longLines)

/-- The lines of the brief form. -/
def brief : List String :=
  heading ++ [archiveLabel ++ "  " ++ archivePurpose, "", "Options:"] ++
    (entries "see more with '--help'").flatMap briefLines

end Help

/-- The lines that answer an inquiry. -/
def Inquiry.lines : Inquiry → List String
  | help => Help.long
  | briefHelp => Help.brief
  | version => [Help.version]

/-- The wording of a refusal, for a reader of the error output. -/
def Refusal.message : Refusal → String
  | inquiry _ => ""
  | unknownOption argument => "unexpected argument '" ++ argument ++ "'"
  | unexpectedValue argument => "unexpected value in '" ++ argument ++ "'"
  | repeatedSwitch s => "'--" ++ s.name ++ "' cannot be used multiple times"
  | repeatedSetting s => "'--" ++ s.name ++ "' cannot be used multiple times"
  | missingValue s => "a value is required for '--" ++ s.name ++ "'"
  | invalidValue s value => "invalid value '" ++ value ++ "' for '--" ++ s.name ++ "'"
  | emptyArchive => "the name of an archive is empty"
  | noArchive => "an archive is required"

end CallGraph
