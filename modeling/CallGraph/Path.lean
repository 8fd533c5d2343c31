import CallGraph.Text.Affix

/-!
# Paths

Paths are texts whose parts are separated by slashes. `fileName?` and `extension?` look at the last
part that names something; `key` is the form in which paths are compared.
-/

namespace CallGraph.Path

/-- The parts between slashes; empty ones included. -/
def parts (path : String) : List String := Text.splitAt '/' path

/-- The path starts at the root. -/
def isAbsolute (path : String) : Bool := Text.beginsWith path "/"

/-- The last part that names something; a path that ends in the parent of a directory names
nothing. -/
def fileName? (path : String) : Option String :=
  match (parts path).reverse.find? fun part => decide (part ≠ "" ∧ part ≠ ".") with
  | none => none
  | some part => if part = ".." then none else some part

/-- What follows the last dot of a name, unless the name begins there. -/
def extensionOf? (name : String) : Option String :=
  let after := name.toList.reverse.takeWhile (· ≠ '.')
  match name.toList.reverse.dropWhile (· ≠ '.') with
  | _ :: _ :: _ => some (String.ofList after.reverse)
  | _ => none

/-- The extension of the file that a path names. -/
def extension? (path : String) : Option String := (fileName? path).bind extensionOf?

/-- A member of the directory `path`. -/
def join (path name : String) : String :=
  if path = "" || Text.endsIn path "/" then path ++ name else path ++ "/" ++ name

/-- The form in which paths are compared: backslashes count as slashes. -/
def key (path : String) : String := Text.replace '\\' '/' path

/-- A path from the names of its directories. -/
def ofNames (names : List String) : String := "/" ++ String.intercalate "/" names

end CallGraph.Path
