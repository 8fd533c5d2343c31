import CallGraph.Class.Decode
import CallGraph.FileTree
import CallGraph.Log
import CallGraph.Zip

/-!
# Archives

An archive is a zip file, a directory of class files or a single class file. `scan` decodes all its
classes: those of a zip file in the order of its directory, those of a directory in the order of
their paths.
-/

namespace CallGraph

/-- Why an archive cannot be scanned. -/
inductive ScanError
  | unsupported (path : String)
  | openFile (path : String) (cause : FileError)
  | readFile (path : String) (cause : FileError)
  | malformedZip (path : String)
  | readEntry (path name : String) (cause : FileError)
  | readDirectory (path : String) (cause : FileError)
  | parseClass (path name : String) (cause : ClassError)
deriving DecidableEq, Repr

/-- The wording of the cause. -/
def ScanError.explanation : ScanError → Explanation
  | unsupported path => .of ("unsupported input file: " ++ path)
  | openFile path cause => (Explanation.ofSource (.file cause)).within ("failed to open " ++ path)
  | readFile path cause => (Explanation.ofSource (.file cause)).within ("failed to read " ++ path)
  | malformedZip path => (Explanation.ofSource .zip).within ("failed to read " ++ path)
  | readEntry path name cause =>
    (Explanation.ofSource (.file cause)).within ("failed to read " ++ path ++ ":" ++ name)
  | readDirectory path cause =>
    (Explanation.ofSource (.file cause)).within ("failed to read directory " ++ path)
  | parseClass path name cause =>
    cause.explanation.within ("failed to parse " ++ path ++ ":" ++ name)

namespace Archive

/-- The bytes of a class file under the name it has in its archive. -/
structure ClassEntry where
  name : String
  bytes : ByteArray

/-- The path names a class file that counts: not the description of a module, and not a variant
for another version of the platform. -/
def isClassEntry (path : String) : Bool :=
  Text.endsIn path ".class" && !Text.endsIn path "module-info.class" &&
    !Text.beginsWith path "META-INF/versions/"

/-- The extension of class files. -/
def classExtension : String := "class"

/-- The path names a zip file with classes. -/
def isJarPath (path : String) : Bool :=
  match Path.extension? path with
  | none => false
  | some extension => String.ofList (extension.toList.map Char.toLower) = "jar"

/-! ## Class files of an archive -/

/-- The class files below a node. `path` leads to the node, and `name` is its path within the
archive. Members of a directory come in the order of their names. -/
def classFiles (path name : String) : Node → List ClassEntry
  | .file content => if isClassEntry (Path.key path) then [⟨Path.key name, content⟩] else []
  | .directory members =>
    ((members.map fun member =>
        (Path.key member.1, classFiles (Path.join path member.1) (Path.join name member.1) member.2)
      ).mergeSort fun a b => decide (a.1 ≤ b.1)).flatMap Prod.snd
termination_by node => node
decreasing_by
  have hlt := List.sizeOf_lt_of_mem ‹member ∈ members›
  cases member
  simp only [Prod.mk.sizeOf_spec, Node.directory.sizeOf_spec] at hlt ⊢
  omega

/-- The class file in an entry of a zip file, if it is one. -/
def zipEntry (path : String) (file : ByteArray) (entry : Zip.Entry) :
    Except ScanError (Option ClassEntry) :=
  match Zip.opened? file entry with
  | none => .error (.malformedZip path)
  | some (method, raw) =>
    if isClassEntry entry.name then
      match Zip.content entry method raw with
      | .error e => .error (.readEntry path entry.name e)
      | .ok bytes => .ok (some ⟨entry.name, bytes⟩)
    else .ok none

/-- The class files of a zip file. -/
def zipEntries (path : String) (file : ByteArray) : Except ScanError (List ClassEntry) :=
  match Zip.entries? file with
  | none => .error (.malformedZip path)
  | some entries => do
    let found ← entries.mapM (zipEntry path file)
    return found.filterMap id

/-- The content of a file. -/
def fileContent : Except FileError Node → Except FileError ByteArray
  | .ok (.file content) => .ok content
  | .ok (.directory _) => .error .isADirectory
  | .error e => .error e

/-- The class files of the archive at `path`, given what is there. -/
def classEntries (path : String) (found : Except FileError Node) :
    Except ScanError (List ClassEntry) :=
  match found with
  | .ok (.directory members) => .ok (classFiles path "" (.directory members))
  | found =>
    if Path.extension? path = some classExtension then do
      let content ← (fileContent found).mapError (.readFile path)
      return [⟨path, content⟩]
    else if isJarPath path then do
      let content ← (fileContent found).mapError (.openFile path)
      zipEntries path content
    else .error (.unsupported path)

/-! ## Classes of an archive -/

/-- The classes of an archive, and the log of finding them. -/
structure Scan where
  log : List Log.Message
  result : Except ScanError (List Class)

/-- Decodes a class file of the archive at `path`, with notes on what could not be resolved. -/
def decodeEntry (path : String) (entry : ClassEntry) : List String × Except ScanError Class :=
  let (notes, c) := Class.decodeBytes entry.bytes.data.toList
  (notes, c.mapError (.parseClass path entry.name))

/-- Decodes the class files of the archive at `path`, each on its own and all of them even after a
failure. If several fail, it is left open which one names the failure; that the first one does is a
choice made here. -/
def decodeEntries (path : String) (entries : List ClassEntry) : Scan :=
  let decoded := entries.map (decodeEntry path)
  let notes := (decoded.flatMap Prod.fst).map Log.debug
  match decoded.mapM Prod.snd with
  | .error e => ⟨notes, .error e⟩
  | .ok classes =>
    ⟨notes ++ [Log.debug ("decoded " ++ toString classes.length ++ " classes from " ++ path)],
      .ok classes⟩

/-- Scans the archive at `path`, given what is there. -/
def scan (path : String) (found : Except FileError Node) : Scan :=
  match classEntries path found with
  | .error e => ⟨[], .error e⟩
  | .ok entries => decodeEntries path entries

end Archive

end CallGraph
