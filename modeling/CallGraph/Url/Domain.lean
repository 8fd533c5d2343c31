import CallGraph.Text.Affix
import CallGraph.Text.Composition
import CallGraph.Text.Direction
import CallGraph.Text.Joining
import CallGraph.Text.Mark
import CallGraph.Url.Domain.Mapping
import CallGraph.Url.Punycode

/-!
# Domain names

A domain name is a list of labels with dots between them. Characters are replaced by those that
stand for them, and composed. A label outside ASCII is then written in ASCII behind a prefix; a
label that has the prefix already must be the written form of a label.

* `Domain.ascii?` brings a name into ASCII.
-/

namespace CallGraph.Url.Domain

/-- All characters are ASCII. -/
def isAscii (cs : List Char) : Bool := cs.all (·.toNat < 0x80)

/-- What the written form of a label outside ASCII begins with. -/
def asciiMark : List Char := "xn--".toList

/-- A label outside ASCII has no more characters than this. -/
def labelLimit : Nat := 1000

/-- The written form of a label has no more characters than this after its beginning. -/
def writtenLimit : Nat := 2000

/-- A label: its characters, and how they are written in ASCII. -/
structure Label where
  text : List Char
  written : List Char
deriving DecidableEq, Repr

namespace Label

/-- A text outside ASCII can be a label: no mark begins it, and joiners stand where they make a
difference. -/
def isSound (text : List Char) : Bool := !text.head?.any Text.isMark && Text.joinersFit text

/-- The label with a written form. Only a text that stays as it is when it is replaced, composed and
written has one. -/
def ofWritten? (written : List Char) : Option Label := do
  let rest := written.drop asciiMark.length
  if ¬isAscii rest ∨ writtenLimit < rest.length ∨ rest.getLast? = some '-' then none
  else do
    let text ← Punycode.decode? rest
    if ¬isAscii text ∧ text.all isStable ∧ Text.isComposed text ∧ isSound text ∧
        ¬asciiMark.isPrefixOf text then
      return { text, written }
    else none

/-- Reads a label. -/
def read? (text : List Char) : Option Label :=
  if asciiMark.isPrefixOf text then ofWritten? text
  else if isAscii text then some { text, written := text }
  else if isSound text ∧ text.length ≤ labelLimit then
    some { text, written := asciiMark ++ Punycode.encode text }
  else none

end Label

/-- Characters that no domain name has. -/
def isForbidden (c : Char) : Bool :=
  decide (c.toNat ≤ 0x20 ∨ c.toNat = 0x7f) || "%#/:<>?@[\\]^|".toList.contains c

/-- The characters of a name after replacement and composition. -/
def normalize? (cs : List Char) : Option (List Char) := do
  let mapped ← cs.mapM map?
  let name := Text.compose mapped.flatten
  if name.any isForbidden then none else return name

/-- The labels of a name; if something in it runs from the right to the left, each of them can be
read in one way only. -/
def labels? (cs : List Char) : Option (List Label) := do
  let name ← normalize? cs
  let labels ← (Text.splitAt '.' (String.ofList name)).mapM fun label => Label.read? label.toList
  if labels.any (Text.runsRight ·.text) ∧ ¬labels.all (Text.isOneWay ·.text) then none
  else return labels

/-- The name in ASCII. -/
def ascii? (cs : List Char) : Option String := do
  let labels ← labels? cs
  return String.intercalate "." (labels.map (String.ofList ·.written))

end CallGraph.Url.Domain
