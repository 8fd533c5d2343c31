import CallGraph.Log
import CallGraph.Record

/-!
# Where records go

Records go to two streams: annotations to one, which need not be there, and all others to the
other. Annotations without a stream are counted, and flushing warns about them.
-/

namespace CallGraph

/-- The state of the output. -/
structure Sink where
  format : OutputFormat
  /-- There is a stream for annotations. -/
  keepsAnnotations : Bool
  /-- Annotations without a stream since the last flush. -/
  dropped : Nat := 0
deriving DecidableEq, Repr

/-- Text written to the two streams. -/
structure Written where
  edges : String := ""
  annotations : String := ""
deriving DecidableEq, Repr

/-- One text after the other. -/
def Written.append (a b : Written) : Written := ⟨a.edges ++ b.edges, a.annotations ++ b.annotations⟩

instance : Append Written := ⟨Written.append⟩

namespace Written

@[simp] theorem edges_append (a b : Written) : (a ++ b).edges = a.edges ++ b.edges := rfl

@[simp] theorem annotations_append (a b : Written) :
    (a ++ b).annotations = a.annotations ++ b.annotations := rfl

theorem append_assoc (a b c : Written) : a ++ b ++ c = a ++ (b ++ c) := by
  show Written.append (Written.append a b) c = Written.append a (Written.append b c)
  simp [Written.append, String.append_assoc]

@[simp] theorem empty_append (a : Written) : ({} : Written) ++ a = a := by
  show Written.append {} a = a
  simp [Written.append]

end Written

namespace Sink

/-- Writes a record. -/
def write (sink : Sink) (r : Record) : Sink × Written :=
  let line := r.line sink.format ++ "\n"
  if r.isAnnotated then
    if sink.keepsAnnotations then (sink, { annotations := line })
    else ({ sink with dropped := sink.dropped + 1 }, {})
  else (sink, { edges := line })

/-- Writes records one after the other. -/
def writeAll (sink : Sink) : List Record → Sink × Written
  | [] => (sink, {})
  | r :: rs =>
    let (sink, first) := sink.write r
    let (sink, rest) := sink.writeAll rs
    (sink, first ++ rest)

/-- Ends a batch of records, with a warning if annotations were dropped. -/
def flush (sink : Sink) : Sink × List Log.Message :=
  if sink.dropped = 0 then (sink, [])
  else
    ({ sink with dropped := 0 },
      [Log.warn ("discarded " ++ toString sink.dropped ++
        " method annotations: no annotation output configured")])

end Sink

end CallGraph
