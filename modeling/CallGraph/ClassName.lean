import CallGraph.Descriptor

/-!
# Names of classes

Class files write class names with slashes, array classes as descriptors and annotation types as
descriptors too. All of them become dotted names here.
-/

namespace CallGraph.ClassName

/-- Why a class constant names no class. -/
inductive Error
  | arrayType (text : String) (cause : DescriptorError)
  | emptyArrayType (text : String)
deriving DecidableEq, Repr

/-- The wording of the cause. -/
def Error.explanation : Error → Explanation
  | .arrayType text cause => cause.explanation.within ("parse array type " ++ text)
  | .emptyArrayType text => .of ("empty array type " ++ text)

/-- The name that a class constant stands for. An array class is read as a parameter list, whose
last type it names. -/
def ofConstant (text : String) : Except Error String :=
  if Text.beginsWith text "[" then
    match MethodDescriptor.argumentNames ("(" ++ text ++ ")V") with
    | .error e => .error (.arrayType text e)
    | .ok names =>
      match names.getLast? with
      | none => .error (.emptyArrayType text)
      | some name => .ok name
  else .ok (dotted text)

/-- The class constant of the elements of an array class, or the constant itself if it is no array;
an array of a primitive type has no element class. -/
def elementConstant? (text : String) : Option String :=
  if Text.beginsWith text "[" then
    (Text.after? "L" (String.ofList (text.toList.dropWhile (· = '[')))).bind (Text.before? ";")
  else some text

/-- The name in a class type descriptor such as `Lpkg/Name;`. Without that frame the text itself is
taken for the name. -/
def ofTypeDescriptor (text : String) : String :=
  dotted (((Text.after? "L" text).bind (Text.before? ";")).getD text)

/-- Classes of the platform, whose hierarchy is not followed. -/
def isPlatform (name : String) : Bool := Text.beginsWith name "java."

end CallGraph.ClassName
