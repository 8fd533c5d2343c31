import CallGraph.Facts
import CallGraph.Edge

/-!
# Dispatch through interfaces

A called method of an interface leads to the classes that implement it. A policy says whether the
implementation must have been called as well.
-/

namespace CallGraph

/-- What must have been called for an interface method to lead to an implementation. -/
inductive DispatchPolicy
  /-- The interface method and the implementation. -/
  | bothCalled
  /-- The interface method. -/
  | interfaceCalled
deriving DecidableEq, Repr

namespace Facts

/-- The method `signature` of `interface` leads to that of the class `name`. -/
def dispatches (facts : Facts) (policy : DispatchPolicy) (name interface signature : String) :
    Bool :=
  (facts.contracts[interface]?.getD []).contains signature &&
    facts.usage.contains interface signature &&
    (policy = .interfaceCalled || facts.usage.contains name signature)

/-- The dispatch edges to one class, by interface and then by method, in the order of
declaration. -/
def dispatchEdgesTo (facts : Facts) (policy : DispatchPolicy) (name : String)
    (implementor : Implementor) : List Edge :=
  implementor.interfaces.flatMap fun interface =>
    (implementor.methods.filter (facts.dispatches policy name interface)).map fun signature =>
      .inferred ⟨interface, signature⟩ .dispatch ⟨name, signature⟩

/-- All dispatch edges, by class in ascending order. -/
def dispatchEdges (facts : Facts) (policy : DispatchPolicy) : List Edge :=
  facts.implementors.toList.flatMap fun (name, implementor) =>
    facts.dispatchEdgesTo policy name implementor

end Facts

end CallGraph
