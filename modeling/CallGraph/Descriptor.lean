import CallGraph.Text.Affix
import CallGraph.Explanation

/-!
# Type and method descriptors

A descriptor writes a type as one letter, as `L`, a class name and `;`, or as a type behind up to
255 brackets `[`. A method descriptor is a list of types in round brackets and a result type.

* `TypeDescriptor.text`, `MethodDescriptor.text` write descriptors.
* `TypeDescriptor.read`, `MethodDescriptor.parse` read them. Reading stops after the result type:
  what follows it is of no concern.
* `TypeDescriptor.sourceName` is the name of a type in source code.

Each type takes at least one character (`TypeDescriptor.length_lt_of_read`), which is why the
reader of a parameter list ends.
-/

namespace CallGraph

/-- The name of a class as source code writes it, with dots for slashes. -/
def dotted (name : String) : String := Text.replace '/' '.' name

/-- A type without array dimensions. -/
inductive ElementType
  | byte
  | char
  | double
  | float
  | int
  | long
  | short
  | boolean
  | void
  | object (name : String)
deriving DecidableEq, Repr

/-- A type: an element behind some number of array dimensions. -/
structure TypeDescriptor where
  element : ElementType
  dimensions : Nat
deriving DecidableEq, Repr

/-- The parameter types and the result type of a method. -/
structure MethodDescriptor where
  parameters : List TypeDescriptor
  result : TypeDescriptor
deriving DecidableEq, Repr

/-- Why a text is no descriptor. -/
inductive DescriptorError
  /-- The text does not start with a parameter list. -/
  | noParameterList
  | unexpectedEnd
  | missingSemicolon
  | tooManyDimensions
  /-- An array without an element type. -/
  | bareArray
  | missingResult
  | unrecognizedType
deriving DecidableEq, Repr

namespace DescriptorError

/-- The wording of the cause. -/
def message : DescriptorError → String
  | noParameterList => "Invalid descriptor: Method descriptor must start with '('."
  | unexpectedEnd => "Unexpected end of input."
  | missingSemicolon => "Invalid descriptor: Missing semicolon in class name descriptor."
  | tooManyDimensions => "Array has too many dimensions."
  | bareArray => "Invalid descriptor: Invalid descriptor."
  | missingResult => "Invalid descriptor: Missing return type."
  | unrecognizedType => "Invalid descriptor: Unrecognized type descriptor."

/-- The cause under the task it belongs to. -/
def explanation (e : DescriptorError) : Explanation :=
  (Explanation.of e.message).within "parse method descriptor"

end DescriptorError

/-! ## Names and texts -/

namespace ElementType

/-- The name in source code. -/
def sourceName : ElementType → String
  | byte => "byte"
  | char => "char"
  | double => "double"
  | float => "float"
  | int => "int"
  | long => "long"
  | short => "short"
  | boolean => "boolean"
  | void => "void"
  | object name => dotted name

/-- The characters of the descriptor. -/
def text : ElementType → List Char
  | byte => ['B']
  | char => ['C']
  | double => ['D']
  | float => ['F']
  | int => ['I']
  | long => ['J']
  | short => ['S']
  | boolean => ['Z']
  | void => ['V']
  | object name => 'L' :: name.toList ++ [';']

/-- The type that a single letter stands for. -/
def ofLetter? : Char → Option ElementType
  | 'B' => some byte
  | 'C' => some char
  | 'D' => some double
  | 'F' => some float
  | 'I' => some int
  | 'J' => some long
  | 'S' => some short
  | 'Z' => some boolean
  | 'V' => some void
  | _ => none

/-- Reads an element type; `inArray` tells whether brackets stand before it. -/
def read (inArray : Bool) : List Char → Except DescriptorError (ElementType × List Char)
  | [] => .error .unexpectedEnd
  | 'L' :: cs =>
    match cs.dropWhile (· ≠ ';') with
    | [] => .error .missingSemicolon
    | _ :: rest => .ok (object (String.ofList (cs.takeWhile (· ≠ ';'))), rest)
  | ')' :: _ => .error (if inArray then .bareArray else .missingResult)
  | c :: rest =>
    match ofLetter? c with
    | some t => .ok (t, rest)
    | none => .error .unrecognizedType

theorem length_lt_of_read {inArray : Bool} {cs rest : List Char} {t : ElementType}
    (h : read inArray cs = .ok (t, rest)) : rest.length < cs.length := by
  unfold read at h
  split at h
  · cases h
  · next cs =>
    split at h
    · cases h
    · next hd =>
      cases h
      have hle := (List.dropWhile_suffix (l := cs) (fun x => decide (x ≠ ';'))).length_le
      rw [hd] at hle
      simp only [List.length_cons] at hle ⊢
      omega
  · cases h
  · split at h
    · cases h
      simp
    · cases h

end ElementType

namespace TypeDescriptor

/-- The largest number of dimensions an array can have. -/
def maxDimensions : Nat := 255

/-- The name in source code: the element's name and one pair of brackets for each dimension. -/
def sourceName (t : TypeDescriptor) : String :=
  t.element.sourceName ++ String.join (List.replicate t.dimensions "[]")

/-- The characters of the descriptor. -/
def text (t : TypeDescriptor) : List Char :=
  List.replicate t.dimensions '[' ++ t.element.text

/-- Reads one type from the front. -/
def read (cs : List Char) : Except DescriptorError (TypeDescriptor × List Char) :=
  let dimensions := (cs.takeWhile (· = '[')).length
  if maxDimensions < dimensions then .error .tooManyDimensions
  else
    match ElementType.read (decide (0 < dimensions)) (cs.dropWhile (· = '[')) with
    | .error e => .error e
    | .ok (t, rest) => .ok (⟨t, dimensions⟩, rest)

/-- A type takes at least one character. -/
theorem length_lt_of_read {cs rest : List Char} {t : TypeDescriptor}
    (h : read cs = .ok (t, rest)) : rest.length < cs.length := by
  simp only [read] at h
  split at h
  · cases h
  · split at h
    · cases h
    · next hr =>
      cases h
      have hle := (List.dropWhile_suffix (l := cs) (fun x => decide (x = '['))).length_le
      exact Nat.lt_of_lt_of_le (ElementType.length_lt_of_read hr) hle

end TypeDescriptor

namespace MethodDescriptor

/-- The characters of the descriptor. -/
def text (d : MethodDescriptor) : List Char :=
  '(' :: d.parameters.flatMap TypeDescriptor.text ++ ')' :: d.result.text

/-- Reads types up to the closing bracket. -/
def readParameters (cs : List Char) :
    Except DescriptorError (List TypeDescriptor × List Char) :=
  match cs with
  | ')' :: rest => .ok ([], rest)
  | cs =>
    match _h : TypeDescriptor.read cs with
    | .error e => .error e
    | .ok (t, rest) =>
      match readParameters rest with
      | .error e => .error e
      | .ok (ts, rest') => .ok (t :: ts, rest')
termination_by cs.length
decreasing_by exact TypeDescriptor.length_lt_of_read _h

/-- Reads a method descriptor from the front of a list of characters. -/
def read : List Char → Except DescriptorError (MethodDescriptor × List Char)
  | '(' :: cs => do
    let (parameters, rest) ← readParameters cs
    let (result, rest) ← TypeDescriptor.read rest
    return (⟨parameters, result⟩, rest)
  | _ => .error .noParameterList

/-- The method descriptor that `s` begins with. -/
def parse (s : String) : Except DescriptorError MethodDescriptor :=
  (read s.toList).map Prod.fst

/-- The source names of the parameter types of the descriptor `s`. -/
def argumentNames (s : String) : Except DescriptorError (List String) :=
  (parse s).map fun d => d.parameters.map TypeDescriptor.sourceName

/-- The source name of the result type of the descriptor `s`. -/
def resultName (s : String) : Except DescriptorError String :=
  (parse s).map fun d => d.result.sourceName

end MethodDescriptor

end CallGraph
