import CallGraph.Dispatch
import CallGraph.Engine
import CallGraph.Path
import CallGraph.Record

/-!
# Command line options

Arguments are read from left to right, and the first problem decides. A value is not taken over at
once: it waits until the next known option, the next archive or the end shows that it is complete.
So an unknown option is reported before a bad value in front of it.

* `Argument.ofText` tells options from plain arguments by their form.
* `Reading.step` reads one argument.
* `Options.parse` reads them all.
-/

namespace CallGraph

/-- Options that take a value. -/
inductive Setting
  | output
  | annotationOutput
  | format
  | interfaceDispatch
  | otel
deriving DecidableEq, Repr

/-- Options without a value. -/
inductive Switch
  | isolateUsage
  | classReferences
  | quiet
  | timing
deriving DecidableEq, Repr

/-- Texts that can be asked for in place of a run. -/
inductive Inquiry
  | help
  | briefHelp
  | version
deriving DecidableEq, Repr

/-- The long name of a setting. -/
def Setting.name : Setting → String
  | output => "output"
  | annotationOutput => "annotation-output"
  | format => "format"
  | interfaceDispatch => "interface-dispatch"
  | otel => "otel"

/-- The long name of a switch. -/
def Switch.name : Switch → String
  | isolateUsage => "isolate-usage"
  | classReferences => "class-references"
  | quiet => "quiet"
  | timing => "timing"

/-- What an option's name stands for. -/
inductive OptionName
  | setting (s : Setting)
  | switch (s : Switch)
  | inquiry (i : Inquiry)
deriving DecidableEq, Repr

namespace OptionName

/-- The options by their long names. -/
def ofLong? : String → Option OptionName
  | "output" => some (.setting .output)
  | "annotation-output" => some (.setting .annotationOutput)
  | "format" => some (.setting .format)
  | "interface-dispatch" => some (.setting .interfaceDispatch)
  | "otel" => some (.setting .otel)
  | "isolate-usage" => some (.switch .isolateUsage)
  | "class-references" => some (.switch .classReferences)
  | "quiet" => some (.switch .quiet)
  | "timing" => some (.switch .timing)
  | "help" => some (.inquiry .help)
  | "version" => some (.inquiry .version)
  | _ => none

/-- The options by their letters. -/
def ofLetter? : Char → Option OptionName
  | 'o' => some (.setting .output)
  | 'h' => some (.inquiry .briefHelp)
  | 'V' => some (.inquiry .version)
  | _ => none

end OptionName

/-- Why arguments do not lead to a run. -/
inductive Refusal
  /-- A text was asked for. -/
  | inquiry (i : Inquiry)
  | unknownOption (argument : String)
  /-- A value is attached to an option that takes none. -/
  | unexpectedValue (argument : String)
  | repeatedSwitch (s : Switch)
  | repeatedSetting (s : Setting)
  | missingValue (s : Setting)
  | invalidValue (s : Setting) (value : String)
  /-- An archive has no name. -/
  | emptyArchive
  | noArchive
deriving DecidableEq, Repr

/-- The exit code: to show a text is a success. -/
def Refusal.exitCode : Refusal → Nat
  | inquiry _ => 0
  | _ => 2

/-- What was asked for; a setting that was not given is absent. -/
structure Options where
  archives : List String := []
  output : Option String := none
  annotationOutput : Option String := none
  format : Option OutputFormat := none
  interfaceDispatch : Option DispatchPolicy := none
  otel : Option String := none
  isolateUsage : Bool := false
  classReferences : Bool := false
  quiet : Bool := false
  timing : Bool := false
deriving DecidableEq, Repr

/-! ## Values -/

/-- The formats by their names. -/
def OutputFormat.ofName? : String → Option OutputFormat
  | "text" => some .text
  | "jsonl" => some .jsonLines
  | _ => none

/-- The policies by their names. -/
def DispatchPolicy.ofName? : String → Option DispatchPolicy
  | "both-called" => some .bothCalled
  | "interface-called" => some .interfaceCalled
  | _ => none

namespace Options

/-- A path that names something. -/
def pathOf? (value : String) : Option String := if value = "" then none else some value

/-- The setting has been given. -/
def hasSetting (options : Options) : Setting → Bool
  | .output => options.output.isSome
  | .annotationOutput => options.annotationOutput.isSome
  | .format => options.format.isSome
  | .interfaceDispatch => options.interfaceDispatch.isSome
  | .otel => options.otel.isSome

/-- The switch has been given. -/
def hasSwitch (options : Options) : Switch → Bool
  | .isolateUsage => options.isolateUsage
  | .classReferences => options.classReferences
  | .quiet => options.quiet
  | .timing => options.timing

/-- Gives a setting its value, if it is one of the setting's values. -/
def withValue? (options : Options) (value : String) : Setting → Option Options
  | .output => (pathOf? value).map fun path => { options with output := some path }
  | .annotationOutput =>
    (pathOf? value).map fun path => { options with annotationOutput := some path }
  | .format => (OutputFormat.ofName? value).map fun f => { options with format := some f }
  | .interfaceDispatch =>
    (DispatchPolicy.ofName? value).map fun p => { options with interfaceDispatch := some p }
  | .otel => some { options with otel := some value }

/-- Sets a setting, which can be done once. -/
def assign (options : Options) (s : Setting) (value : String) : Except Refusal Options :=
  if options.hasSetting s then .error (.repeatedSetting s)
  else
    match options.withValue? value s with
    | some options => .ok options
    | none => .error (.invalidValue s value)

/-- The options with a switch turned on. -/
def withSwitch (options : Options) : Switch → Options
  | .isolateUsage => { options with isolateUsage := true }
  | .classReferences => { options with classReferences := true }
  | .quiet => { options with quiet := true }
  | .timing => { options with timing := true }

/-- Turns a switch on, which can be done once. -/
def turnOn (options : Options) (s : Switch) : Except Refusal Options :=
  if options.hasSwitch s then .error (.repeatedSwitch s) else .ok (options.withSwitch s)

/-- Adds archives, each of which must have a name. -/
def addArchives (options : Options) (paths : List String) : Except Refusal Options :=
  if "" ∈ paths then .error .emptyArchive
  else .ok { options with archives := options.archives ++ paths }

@[simp] theorem hasSwitch_withSwitch (options : Options) (s : Switch) :
    (options.withSwitch s).hasSwitch s = true := by
  cases s <;> rfl

end Options

/-! ## Forms of arguments -/

/-- An argument by its form. -/
inductive Argument
  /-- Two dashes; only plain arguments follow. -/
  | separator
  /-- Two dashes and a name, with the value after an equals sign if there is one. -/
  | long (name : String) (value : Option String)
  /-- A dash, a letter and what follows it. -/
  | letter (c : Char) (rest : String)
  | plain
deriving DecidableEq, Repr

/-- The form of an argument. A dash alone is a plain argument. -/
def Argument.ofText (text : String) : Argument :=
  match text.toList with
  | ['-', '-'] => .separator
  | '-' :: '-' :: name =>
    match Text.cut? '=' (String.ofList name) with
    | some (name, value) => .long name (some value)
    | none => .long (String.ofList name) none
  | '-' :: c :: rest => .letter c (String.ofList rest)
  | _ => .plain

/-- The value that follows an option's letter directly; an equals sign may stand between. -/
def attachedValue? (rest : String) : Option String :=
  match rest.toList with
  | [] => none
  | '=' :: value => some (String.ofList value)
  | value => some (String.ofList value)

/-! ## Reading -/

/-- What has been read and not yet taken over. -/
inductive Waiting
  | nothing
  /-- The setting still lacks its value. -/
  | setting (s : Setting)
  | value (s : Setting) (value : String)
  | archives (paths : List String)
deriving DecidableEq, Repr

/-- How far arguments have been read. -/
structure Reading where
  options : Options := {}
  waiting : Waiting := .nothing
  /-- Only plain arguments follow. -/
  plainOnly : Bool := false
deriving DecidableEq, Repr

namespace Reading

/-- Takes over what waits. -/
def settle (reading : Reading) : Except Refusal Options :=
  match reading.waiting with
  | .nothing => .ok reading.options
  | .setting s => .error (.missingValue s)
  | .value s value => reading.options.assign s value
  | .archives paths => reading.options.addArchives paths

/-- Goes on with `options`, while `waiting` waits. -/
def goOn (reading : Reading) (waiting : Waiting) (options : Options) : Reading :=
  { reading with options, waiting }

/-- Reads an archive. -/
def archive (reading : Reading) (path : String) : Except Refusal Reading :=
  match reading.waiting with
  | .archives paths => .ok { reading with waiting := .archives (paths ++ [path]) }
  | _ => (reading.goOn (.archives [path])) <$> reading.settle

/-- Reads a plain argument: the value of a setting that lacks one, else an archive. -/
def plain (reading : Reading) (text : String) : Except Refusal Reading :=
  match reading.plainOnly, reading.waiting with
  | false, .setting s => .ok { reading with waiting := .value s text }
  | _, _ => reading.archive text

/-- Reads an option with the value attached to it. -/
def option (reading : Reading) (text : String) (name : OptionName) (value : Option String) :
    Except Refusal Reading :=
  match name, value with
  | .setting s, none => (reading.goOn (.setting s)) <$> reading.settle
  | .setting s, some value => do
    let options ← reading.settle
    reading.goOn .nothing <$> options.assign s value
  | .switch s, none => do
    let options ← reading.settle
    reading.goOn .nothing <$> options.turnOn s
  | .inquiry i, none => do
    let _ ← reading.settle
    .error (.inquiry i)
  | _, some _ => .error (.unexpectedValue text)

/-- Reads one argument. No switch has a letter, so the first letter tells what the rest is: the
value of a setting, or of no interest after an inquiry. -/
def step (reading : Reading) (text : String) : Except Refusal Reading :=
  if reading.plainOnly then reading.plain text
  else
    match Argument.ofText text with
    | .separator => .ok { reading with plainOnly := true }
    | .long name value =>
      match OptionName.ofLong? name with
      | some name => reading.option text name value
      | none => .error (.unknownOption text)
    | .letter c rest =>
      match OptionName.ofLetter? c with
      | some (.setting s) => reading.option text (.setting s) (attachedValue? rest)
      | some name => reading.option text name none
      | none => .error (.unknownOption text)
    | .plain => reading.plain text

/-- The options after the last argument; there must be an archive. -/
def finish (reading : Reading) : Except Refusal Options := do
  let options ← reading.settle
  if options.archives.isEmpty then .error .noArchive else .ok options

end Reading

namespace Options

/-- Reads arguments. -/
def parse (arguments : List String) : Except Refusal Options := do
  let reading ← arguments.foldlM Reading.step {}
  reading.finish

theorem archives_ne_nil_of_parse {arguments : List String} {options : Options}
    (h : parse arguments = .ok options) : options.archives ≠ [] := by
  unfold parse Reading.finish at h
  cases hr : arguments.foldlM Reading.step {} with
  | error e => simp [hr, bind, Except.bind] at h
  | ok reading =>
    cases hs : reading.settle with
    | error e => simp [hr, hs, bind, Except.bind] at h
    | ok settled =>
      simp only [hr, hs, bind, Except.bind] at h
      split at h
      · cases h
      · cases h
        simp_all

/-! ## What the options mean -/

/-- The format of the output. -/
def outputFormat (options : Options) : OutputFormat := options.format.getD .text

/-- How the engine is set up. -/
def engineConfig (options : Options) : EngineConfig where
  carriesUsage := !options.isolateUsage
  dispatch := options.interfaceDispatch.getD .bothCalled
  classReferences := options.classReferences

/-- The path of standard output is a dash; slashes and dots behind it change nothing. -/
def isConsole (path : String) : Bool :=
  match Path.parts path with
  | [] => false
  | part :: parts => part = "-" && parts.all fun p => p = "" || p = "."

/-- What the name of the annotation file adds to that of the output file. -/
def annotationEnding : String := "-annotation.txt"

/-- Where annotations go: to the file given for them, else beside an output file. -/
def annotationPath? (options : Options) : Option String :=
  match options.annotationOutput, options.output with
  | some path, _ => some path
  | none, some path => if isConsole path then none else some (path ++ annotationEnding)
  | none, none => none

end Options

end CallGraph
