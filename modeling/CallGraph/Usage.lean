import Std.Data.ExtTreeMap
import Std.Data.ExtTreeSet

/-!
# Usage of methods

Which signatures have been called on which classes. Usage only grows; it decides which of the
inferred edges are worth drawing.
-/

namespace CallGraph

open Std (ExtTreeMap ExtTreeSet)

/-- The signatures called so far, by class. -/
structure Usage where
  byClass : ExtTreeMap String (ExtTreeSet String)

namespace Usage

/-- Nothing has been called. -/
def empty : Usage := ⟨∅⟩

/-- A signature has been called on a class. -/
def record (usage : Usage) (owner signature : String) : Usage :=
  ⟨usage.byClass.alter owner fun called => some ((called.getD ∅).insert signature)⟩

/-- The signatures called on a class, if there are any. -/
def signatures? (usage : Usage) (owner : String) : Option (ExtTreeSet String) :=
  usage.byClass[owner]?

/-- The signature has been called on the class. -/
def contains (usage : Usage) (owner signature : String) : Bool :=
  (usage.signatures? owner).any (·.contains signature)

/-- The number of classes on which something has been called. -/
def classCount (usage : Usage) : Nat := usage.byClass.size

@[simp] theorem contains_empty (owner signature : String) :
    empty.contains owner signature = false := by
  simp [contains, signatures?, empty]

/-- Recording adds the recorded call and nothing else. -/
theorem contains_record (usage : Usage) (owner signature owner' signature' : String) :
    (usage.record owner signature).contains owner' signature' =
      ((owner = owner' ∧ signature = signature') ∨ usage.contains owner' signature') := by
  simp only [contains, signatures?, record, ExtTreeMap.getElem?_alter]
  by_cases h : owner = owner'
  · subst h
    cases hc : usage.byClass[owner]? <;> simp [ExtTreeSet.contains_insert]
  · simp [h]

end Usage

end CallGraph
