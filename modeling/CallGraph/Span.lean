/-!
# Spans

A span is a stretch of work with a name and attributes; the spans inside it are its children. A
span ends after its children, which is the order in which spans are reported.
-/

namespace CallGraph

/-- The value of an attribute of a span. -/
inductive SpanValue
  | number (n : Nat)
  | text (s : String)
deriving DecidableEq, Repr

/-- A stretch of work and those inside it. -/
inductive Span
  | node (name : String) (attributes : List (String × SpanValue)) (children : List Span)
deriving Repr

/-- A span that has ended, with the name of the span around it. -/
structure EndedSpan where
  name : String
  parent : Option String
  attributes : List (String × SpanValue)
deriving DecidableEq, Repr

namespace Span

/-- A span without children. -/
def leaf (name : String) (attributes : List (String × SpanValue)) : Span := node name attributes []

/-- A span and those inside it, in the order they end. -/
def ended (parent : Option String) : Span → List EndedSpan
  | node name attributes children =>
    children.flatMap (fun child => child.ended (some name)) ++ [⟨name, parent, attributes⟩]

end Span

end CallGraph
