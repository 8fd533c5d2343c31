import CallGraph.ClassName
import CallGraph.ExecutionMark
import CallGraph.Usage

/-!
# Facts about the classes of an archive

Everything that is known about the classes of one archive while its edges are drawn. A first look
over all classes, `Facts.index`, finds out who implements what and who takes part in inheritance;
the other passes build on it.
-/

namespace CallGraph

open Std (ExtTreeMap ExtTreeSet)

/-- A class that implements interfaces: which ones, and the signatures it offers for them. -/
structure Implementor where
  interfaces : List String
  methods : List String
deriving DecidableEq, Repr

/-- How a method of a class can be reached. -/
structure Access where
  isAbstract : Bool
  isPublic : Bool
  isProtected : Bool
deriving DecidableEq, Repr

/-- A class in the inheritance forest. -/
structure Lineage where
  isAbstract : Bool
  superName : String
  /-- The methods of the class, by signature, also the inherited ones once they are known. -/
  methods : ExtTreeMap String Access

/-- What is known about the classes of an archive. -/
structure Facts where
  usage : Usage
  marks : Marks
  /-- The classes that implement interfaces. -/
  implementors : ExtTreeMap String Implementor
  /-- The abstract methods of each interface. -/
  contracts : ExtTreeMap String (List String)
  /-- The classes with a superclass outside the platform, and these superclasses. -/
  participants : ExtTreeSet String
  lineage : ExtTreeMap String Lineage
  /-- The known subclasses of each class outside the platform, in the order they were found. -/
  children : ExtTreeMap String (List String)
  /-- The annotations of each method, by its rendered key. -/
  annotations : ExtTreeMap String (ExtTreeSet String)

namespace Facts

/-- Only the usage is known. -/
def ofUsage (usage : Usage) : Facts where
  usage
  marks := .empty
  implementors := ∅
  contracts := ∅
  participants := ∅
  lineage := ∅
  children := ∅
  annotations := ∅

/-! ## First look -/

/-- The class of runnable objects. -/
def runnableName : String := "java.lang.Runnable"

/-- The class of callable objects. -/
def callableName : String := "java.util.concurrent.Callable"

/-- The class of threads. -/
def threadName : String := "java.lang.Thread"

/-- The signatures of the methods that satisfy `p`, each once, in the order of declaration. Methods
that differ in their result type only have one signature. -/
def signaturesOf (p : Method → Bool) (c : Class) : List String :=
  ((c.methods.filter p).map Method.signature).eraseDups

/-- A call through an interface can end at the method. -/
def isDispatchTarget (m : Method) : Bool :=
  !m.isInitializer && m.flags.isPublic && !m.flags.isAbstract && !m.flags.isStatic

/-- The first interface of a name that has methods states the contract of the name. -/
def indexInterface (facts : Facts) (c : Class) : Facts :=
  if c.methods.isEmpty then facts
  else
    { facts with
      contracts := facts.contracts.insertIfNew c.name (signaturesOf (·.flags.isAbstract) c) }

/-- Marks a class that can be instantiated by the interfaces it implements. -/
def markImplementor (marks : Marks) (c : Class) : Marks :=
  if c.isAbstract then marks
  else
    { marks with
      runnable :=
        if runnableName ∈ c.interfaces then marks.runnable.seed c.name else marks.runnable
      callable :=
        if callableName ∈ c.interfaces then marks.callable.seed c.name else marks.callable }

/-- The first class of a name that has interfaces and methods implements under that name. -/
def indexImplementor (facts : Facts) (c : Class) : Facts :=
  if c.interfaces.isEmpty || c.methods.isEmpty || facts.implementors.contains c.name then facts
  else
    { facts with
      implementors :=
        facts.implementors.insert c.name ⟨c.interfaces, signaturesOf isDispatchTarget c⟩
      marks := markImplementor facts.marks c }

/-- Notes the superclass of a class. -/
def indexSuper (facts : Facts) (c : Class) : Facts :=
  match c.superName with
  | none => facts
  | some super =>
    { facts with
      marks :=
        if super = threadName then { facts.marks with thread := facts.marks.thread.seed c.name }
        else facts.marks
      participants :=
        if ClassName.isPlatform super then facts.participants
        else (facts.participants.insert c.name).insert super }

/-- Takes in one class. -/
def indexClass (facts : Facts) (c : Class) : Facts :=
  indexSuper (if c.isInterface then indexInterface facts c else indexImplementor facts c) c

/-- Takes in all classes of an archive. -/
def index (facts : Facts) (classes : List Class) : Facts := classes.foldl indexClass facts

end Facts

end CallGraph
