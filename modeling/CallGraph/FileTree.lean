import CallGraph.Explanation
import CallGraph.Path

/-!
# Trees of files

A file system without links, as a value: a root directory and a current one.

* `FileTree.resolve` finds what a path leads to, as the list of names from the root.
* `FileTree.create` makes an empty file, or empties one.
-/

namespace CallGraph

/-- A file with its content or a directory with its members, in no particular order. -/
inductive Node
  | file (content : ByteArray)
  | directory (members : List (String × Node))

namespace Node

/-- The member of a directory with a name. -/
def member? (name : String) : Node → Option Node
  | file _ => none
  | directory members => (members.find? (·.1 = name)).map Prod.snd

/-- The node that names lead to. -/
def get? (node : Node) : List String → Option Node
  | [] => some node
  | name :: names => (node.member? name).bind (·.get? names)

/-- The members with that of one name replaced or, if there is none, added. -/
def put (name : String) (node : Node) : List (String × Node) → List (String × Node)
  | [] => [(name, node)]
  | (n, old) :: members =>
    if n = name then (n, node) :: members else (n, old) :: put name node members

/-- The tree with `new` at the end of the names; missing directories are made. -/
def set (new : Node) : List String → Node → Node
  | [], _ => new
  | name :: names, node =>
    let below := set new names ((node.member? name).getD (directory []))
    match node with
    | file _ => directory [(name, below)]
    | directory members => directory (put name below members)

/-- All files below a node, by the names that lead to them. -/
def files : Node → List (List String × ByteArray)
  | file content => [([], content)]
  | directory members =>
    members.flatMap fun member =>
      member.2.files.map fun (names, content) => (member.1 :: names, content)
decreasing_by
  have hlt := List.sizeOf_lt_of_mem ‹member ∈ members›
  cases member
  simp only [Prod.mk.sizeOf_spec, directory.sizeOf_spec] at hlt ⊢
  omega

end Node

/-- A file system: the root directory and the names of the current directory. -/
structure FileTree where
  root : Node
  current : List String

namespace FileTree

/-- The greatest number of bytes in a name. -/
def nameLimit : Nat := 255

/-- A path that is opened has fewer bytes than this. -/
def pathLimit : Nat := 4096

/-- No name is so long. -/
def isTooLong (name : String) : Bool := decide (nameLimit < name.utf8ByteSize)

/-- The path can be handed to the file system at all: no part of it contains NUL. -/
def check (path : String) : Except FileError Unit :=
  if path.toList.contains '\x00' then .error .invalidInput else .ok ()

/-- The path can be opened. -/
def checkOpen (path : String) : Except FileError Unit := do
  check path
  if pathLimit ≤ path.utf8ByteSize then .error .nameTooLong else return ()

/-- Follows the parts of a path from a directory. What is not the last part must be a directory. -/
def follow (tree : FileTree) : (names parts : List String) → Except FileError (List String)
  | names, [] => .ok names
  | names, part :: parts =>
    match tree.root.get? names with
    | none => .error .notFound
    | some (.file _) => .error .notADirectory
    | some (.directory members) =>
      if part = "" ∨ part = "." then tree.follow names parts
      else if part = ".." then tree.follow names.dropLast parts
      else if isTooLong part then .error .nameTooLong
      else if members.any (·.1 = part) then tree.follow (names ++ [part]) parts
      else .error .notFound

/-- The directory that a path starts from. -/
def start (tree : FileTree) (path : String) : List String :=
  if Path.isAbsolute path then [] else tree.current

/-- The names that lead from the root to what a path leads to. -/
def resolve (tree : FileTree) (path : String) : Except FileError (List String) := do
  check path
  if path = "" then .error .notFound else tree.follow (tree.start path) (Path.parts path)

/-- What names lead to from the root. -/
def node (tree : FileTree) (names : List String) : Except FileError Node :=
  match tree.root.get? names with
  | some node => .ok node
  | none => .error .notFound

/-- What is found when a path is opened. -/
def find (tree : FileTree) (path : String) : Except FileError Node := do
  checkOpen path
  tree.node (← tree.resolve path)

/-- The tree with a file at the end of the names. -/
def setFile (tree : FileTree) (names : List String) (content : ByteArray) : FileTree :=
  { tree with root := Node.set (.file content) names tree.root }

/-- The content of the file at the end of the names; nothing if there is none. -/
def content (tree : FileTree) (names : List String) : ByteArray :=
  match tree.root.get? names with
  | some (.file content) => content
  | _ => .empty

/-- Makes an empty file or empties one, and gives the names that lead to it. The directory around
it must be there, and a path that ends in a slash or in a directory is refused. -/
def create (tree : FileTree) (path : String) : Except FileError (FileTree × List String) := do
  checkOpen path
  let parts := Path.parts path
  let named := (parts.reverse.dropWhile (· = "")).reverse
  match named.getLast? with
  | none => .error (if path = "" then .notFound else .isADirectory)
  | some last =>
    let around ← tree.follow (tree.start path) named.dropLast
    match tree.root.get? around with
    | none => .error .notFound
    | some (.file _) => .error .notADirectory
    | some (.directory members) =>
      if last = "." ∨ last = ".." ∨ named.length < parts.length then .error .isADirectory
      else if isTooLong last then .error .nameTooLong
      else
        match (members.find? (·.1 = last)).map Prod.snd with
        | some (.directory _) => .error .isADirectory
        | _ => return (tree.setFile (around ++ [last]) .empty, around ++ [last])

end FileTree

end CallGraph
