import CallGraph.Call
import CallGraph.Facts

/-!
# Edges from code

Walks over the methods of a class, notes every call in the usage and the marks, and draws the edges
of the calls.
-/

namespace CallGraph.Facts

open Std (ExtTreeSet)

/-- Notes the annotations of a method, unless a method of the same key has been noted. -/
def noteAnnotations (facts : Facts) (key : MethodKey) (m : Method) : Facts :=
  if m.annotations.isEmpty then facts
  else
    { facts with
      annotations :=
        facts.annotations.insertIfNew key.text (ExtTreeSet.ofList m.annotations compare) }

/-- Takes in one call of a method and gives the edges it draws: those of the marks first, then the
call itself if the marks leave it. -/
def takeCall (facts : Facts) (caller : MethodKey) (m : Method) (archive : Nat) (call : Call) :
    Facts × List Edge :=
  let origin := (m.lineAt? call.offset).map fun line => (⟨line, archive⟩ : Origin)
  let reading := facts.marks.interpret caller call.callee call.name call.arguments origin
  ({ facts with
      usage := facts.usage.record call.owner call.callee.signature
      marks := reading.marks },
    reading.edges ++ if reading.keepsCall then [⟨caller, call.kind, call.callee, origin⟩] else [])

/-- Takes in the calls of a method one after the other. -/
def takeCalls (facts : Facts) (caller : MethodKey) (m : Method) (archive : Nat) :
    List Call → Facts × List Edge
  | [] => (facts, [])
  | call :: calls =>
    let (facts, edges) := facts.takeCall caller m archive call
    let (facts, more) := facts.takeCalls caller m archive calls
    (facts, edges ++ more)

/-- Takes in a method of a class: its annotations, its calls and its lambda bodies. -/
def visitMethod (facts : Facts) (c : Class) (archive : Nat) (m : Method) : Facts × List Edge :=
  let (facts, edges) :=
    (facts.noteAnnotations (c.key m) m).takeCalls (c.key m) m archive (c.calls m)
  (facts, edges ++ c.lambdaEdges m)

/-- Takes in methods of a class one after the other. -/
def visitMethods (facts : Facts) (c : Class) (archive : Nat) : List Method → Facts × List Edge
  | [] => (facts, [])
  | m :: methods =>
    let (facts, edges) := facts.visitMethod c archive m
    let (facts, more) := facts.visitMethods c archive methods
    (facts, edges ++ more)

/-- Takes in all methods of a class and gives the edges they draw, in order. -/
def visit (facts : Facts) (c : Class) (archive : Nat) : Facts × List Edge :=
  facts.visitMethods c archive c.methods

end CallGraph.Facts
