import CallGraph.Edge
import Std.Data.ExtTreeMap

/-!
# Objects that are made here and run elsewhere

Making a `Runnable` or a `Callable` leads to its `run()` or `call()`, and starting a thread to its
`run()`. A class that is known to be of such a kind bears a mark. The first call that matters
draws the link and settles the mark, so that each link is drawn once.

* `MarkMap.claim` settles a mark and tells whether it was open.
* `Marks.interpret` says what a call means under the marks.
-/

namespace CallGraph

open Std (ExtTreeMap)

/-- Whether the link of a marked class is still to be drawn. -/
inductive Mark
  | pending
  | settled
deriving DecidableEq, Repr

/-- The marked classes of one kind. -/
structure MarkMap where
  byClass : ExtTreeMap String Mark

namespace MarkMap

/-- No class is marked. -/
def empty : MarkMap := ⟨∅⟩

/-- Marks a class, unless it is marked already. -/
def seed (marks : MarkMap) (name : String) : MarkMap :=
  ⟨marks.byClass.insertIfNew name .pending⟩

/-- The class is marked. -/
def recognizes (marks : MarkMap) (name : String) : Bool := marks.byClass.contains name

/-- The mark of the class is still open. -/
def isPending (marks : MarkMap) (name : String) : Bool :=
  marks.byClass[name]? = some .pending

/-- Settles an open mark. -/
def settle (marks : MarkMap) (name : String) : MarkMap :=
  if marks.isPending name then ⟨marks.byClass.insert name .settled⟩ else marks

/-- Settles a mark and tells whether it was open. -/
def claim (marks : MarkMap) (name : String) : Bool × MarkMap :=
  (marks.isPending name, marks.settle name)

@[simp] theorem recognizes_empty (name : String) : empty.recognizes name = false := by
  simp [recognizes, empty]

/-- Seeding marks the seeded class and no other. -/
theorem recognizes_seed (marks : MarkMap) (name name' : String) :
    (marks.seed name).recognizes name' = (name = name' || marks.recognizes name') := by
  rw [recognizes, seed, ExtTreeMap.contains_insertIfNew]
  by_cases h : name = name' <;> simp [h, recognizes]

/-- Only marked classes have an open mark. -/
theorem recognizes_of_isPending {marks : MarkMap} {name : String}
    (h : marks.isPending name = true) : marks.recognizes name = true := by
  simp only [isPending, decide_eq_true_eq] at h
  simp [recognizes, ExtTreeMap.contains_eq_isSome_getElem?, h]

/-- Settling marks no class. -/
@[simp] theorem recognizes_settle (marks : MarkMap) (name name' : String) :
    (marks.settle name).recognizes name' = marks.recognizes name' := by
  unfold settle
  split
  · next h =>
    by_cases hn : name = name'
    · subst hn
      rw [recognizes_of_isPending h]
      simp [recognizes]
    · simp [recognizes, ExtTreeMap.contains_insert, hn]
  · rfl

/-- After settling, the mark of the class is not open, and all others are as before. -/
theorem isPending_settle (marks : MarkMap) (name name' : String) :
    (marks.settle name).isPending name' = (marks.isPending name' && name ≠ name') := by
  unfold settle
  split
  · by_cases hn : name = name'
    · simp [isPending, hn]
    · simp [isPending, ExtTreeMap.getElem?_insert, hn]
  · next h =>
    by_cases hn : name = name'
    · subst hn
      simpa using h
    · simp [hn]

end MarkMap

/-- The marks of all kinds. -/
structure Marks where
  runnable : MarkMap
  callable : MarkMap
  thread : MarkMap

namespace Marks

/-- No class is marked. -/
def empty : Marks := ⟨.empty, .empty, .empty⟩

/-- What a call means: the marks after it, the edges it draws besides itself, and whether it is
drawn itself. -/
structure Reading where
  marks : Marks
  edges : List Edge
  keepsCall : Bool

/-- The name of constructors. -/
def constructorName : String := "<init>"

/-- The name of the method that starts a thread. -/
def startName : String := "start"

/-- The edges of a constructor call on a class with a mark: the call itself under the mark's kind
and, the first time, the link from the constructor to `executed`. -/
def construction (marks : MarkMap) (kind : EdgeKind) (executed : String)
    (caller callee : MethodKey) (origin : Option Origin) : List Edge :=
  if marks.recognizes callee.owner then
    ⟨caller, kind, callee, origin⟩ ::
      if marks.isPending callee.owner then [.inferred callee kind ⟨callee.owner, executed⟩] else []
  else []

/-- Reads a call under the marks. -/
def interpret (marks : Marks) (caller callee : MethodKey) (name : String)
    (arguments : List String) (origin : Option Origin) : Reading :=
  if name = constructorName then
    { marks := { marks with runnable := marks.runnable.settle callee.owner,
                            callable := marks.callable.settle callee.owner }
      edges := construction marks.runnable .runnable "run()" caller callee origin ++
        construction marks.callable .callable "call()" caller callee origin
      keepsCall :=
        !marks.runnable.recognizes callee.owner && !marks.callable.recognizes callee.owner }
  else if name = startName ∧ arguments = [] then
    { marks := { marks with thread := marks.thread.settle callee.owner }
      edges :=
        if marks.thread.isPending callee.owner then
          [.inferred callee .threadStart ⟨callee.owner, "run()"⟩]
        else []
      keepsCall := true }
  else { marks, edges := [], keepsCall := true }

end Marks

end CallGraph
