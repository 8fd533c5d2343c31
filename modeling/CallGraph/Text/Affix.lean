/-!
# Texts that begin or end with another

Tests and cuts at the two ends of a text, in terms of its list of characters, so that what holds
of lists holds here.
-/

namespace CallGraph.Text

/-- `s` begins with `p`. -/
def beginsWith (s p : String) : Bool := p.toList.isPrefixOf s.toList

/-- `s` ends with `p`. -/
def endsIn (s p : String) : Bool := p.toList.isSuffixOf s.toList

/-- What follows `p`, if `s` begins with it. -/
def after? (p s : String) : Option String := (p.toList.isPrefixOf? s.toList).map String.ofList

/-- What precedes `p`, if `s` ends with it. -/
def before? (p s : String) : Option String := (p.toList.isSuffixOf? s.toList).map String.ofList

/-- Every `old` becomes `new`. -/
def replace (old new : Char) (s : String) : String :=
  String.ofList (s.toList.map fun c => if c = old then new else c)

/-- The parts between the occurrences of `sep`; a text without `sep` is one part. -/
def splitAt (sep : Char) (s : String) : List String :=
  (go [] s.toList).map String.ofList
where
  /-- `part` holds the characters of the current part, the last one first. -/
  go (part : List Char) : List Char → List (List Char)
    | [] => [part.reverse]
    | c :: cs => if c = sep then part.reverse :: go [] cs else go (c :: part) cs

/-- The two parts around the first `sep`. -/
def cut? (sep : Char) (s : String) : Option (String × String) :=
  match s.toList.span (· ≠ sep) with
  | (_, []) => none
  | (l, _ :: r) => some (String.ofList l, String.ofList r)

theorem beginsWith_iff {s p : String} : beginsWith s p = true ↔ p.toList <+: s.toList := by
  simp [beginsWith]

theorem endsIn_iff {s p : String} : endsIn s p = true ↔ p.toList <:+ s.toList := by
  simp [endsIn]

@[simp] theorem toList_replace (old new : Char) (s : String) :
    (replace old new s).toList = s.toList.map fun c => if c = old then new else c := by
  simp [replace]

end CallGraph.Text
