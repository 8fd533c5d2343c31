import CallGraph.Facts
import CallGraph.Edge

/-!
# The inheritance forest

Classes with a superclass outside the platform form a forest under their top classes, those whose
superclass belongs to the platform. Walking it from the tops down, an abstract method leads to
every subclass, and a subclass inherits what it does not declare.

* `Facts.register` puts a class into the forest.
* `Facts.propagateContracts` gives abstract classes the methods of the interfaces they implement.
* `Facts.linksBelow` lists the steps from class to subclass under a class, each class before its
  own subclasses. It never enters a class twice on one path, so it ends whatever the forest is.
* `Facts.resolveHierarchy` walks the forest.
-/

namespace CallGraph

open Std (ExtTreeMap)

/-- Why the walk stops. -/
inductive HierarchyError
  | noSubclasses (top : String)
  | unknownSuperclass (name : String)
  | unknownSubclass (name : String)
deriving DecidableEq, Repr

/-- The wording of the cause. -/
def HierarchyError.message : HierarchyError → String
  | noSubclasses top => "can't find subclasses of top superclass " ++ top
  | unknownSuperclass name => "can't find hierarchy information for superclass " ++ name
  | unknownSubclass name => "can't find hierarchy information for subclass " ++ name

/-- The superclass of classes that state none. -/
def objectName : String := "java.lang.Object"

namespace Facts

/-! ## Registration -/

/-- The method can take part in inheritance. -/
def isInheritable (m : Method) : Bool :=
  !m.isInitializer && !m.flags.isStatic &&
    (m.flags.isAbstract || m.flags.isPublic || m.flags.isProtected)

/-- The inheritable methods of a class. Of methods with one signature the last one counts. -/
def declaredMethods (c : Class) : ExtTreeMap String Access :=
  (c.methods.filter isInheritable).foldl
    (fun methods m =>
      methods.insert m.signature ⟨m.flags.isAbstract, m.flags.isPublic, m.flags.isProtected⟩)
    ∅

/-- Puts a class into the forest if it takes part in inheritance. The first class of a name
counts. -/
def register (facts : Facts) (c : Class) : Facts :=
  if c.isInterface || !facts.participants.contains c.name || facts.lineage.contains c.name then
    facts
  else
    let super := c.superName.getD objectName
    { facts with
      children :=
        if ClassName.isPlatform super then facts.children
        else facts.children.alter super fun names => some (names.getD [] ++ [c.name])
      lineage := facts.lineage.insert c.name ⟨c.isAbstract, super, declaredMethods c⟩ }

/-! ## Contracts of interfaces -/

/-- How a method of an interface can be reached. -/
def contractAccess : Access := ⟨true, true, false⟩

/-- The signatures of all contracts that a class implements. -/
def contractsOf (facts : Facts) (name : String) : List String :=
  match facts.implementors[name]? with
  | none => []
  | some implementor =>
    implementor.interfaces.flatMap fun interface => facts.contracts[interface]?.getD []

/-- Gives every abstract class with subclasses the methods of its interfaces that it lacks. -/
def propagateContracts (facts : Facts) : Facts :=
  { facts with
    lineage := facts.lineage.map fun name info =>
      if facts.children.contains name && info.isAbstract then
        { info with
          methods := (facts.contractsOf name).foldl
            (fun methods signature => methods.insertIfNew signature contractAccess) info.methods }
      else info }

/-! ## The walk -/

/-- The classes whose superclass belongs to the platform, in ascending order. -/
def tops (facts : Facts) : List String :=
  (facts.lineage.toList.filter fun (_, info) => ClassName.isPlatform info.superName).map Prod.fst

/-- The steps from class to subclass below `parent`. -/
def linksBelow (children : ExtTreeMap String (List String)) (parent : String) :
    List (String × String) :=
  match _h : children[parent]? with
  | none => []
  | some names =>
    names.flatMap fun name => (parent, name) :: linksBelow (children.erase parent) name
termination_by children.size
decreasing_by
  have hmem : parent ∈ children := ExtTreeMap.mem_iff_isSome_getElem?.mpr (by simp [_h])
  have hpos : children.size ≠ 0 := fun h0 =>
    ExtTreeMap.not_mem_empty (ExtTreeMap.eq_empty_iff_size_eq_zero.mpr h0 ▸ hmem)
  rw [ExtTreeMap.size_erase, if_pos (ExtTreeMap.mem_iff_contains.mp hmem)]
  omega

/-- A step of the walk. -/
inductive Step
  /-- Begins at a top class. -/
  | enter (top : String)
  /-- Goes from a class to one of its subclasses. -/
  | link (parent child : String)
deriving DecidableEq, Repr

/-- All steps of the walk, in order. -/
def steps (facts : Facts) : List Step :=
  facts.tops.flatMap fun top =>
    .enter top :: (linksBelow facts.children top).map fun (parent, child) => .link parent child

/-- The class `name` takes over a method of its superclass: it does not have it, and the method is
abstract, or the class is, or the method has been called on the class. -/
def adopts (usage : Usage) (name : String) (info : Lineage) (signature : String) (access : Access) :
    Bool :=
  !info.methods.contains signature &&
    (access.isAbstract ||
      (access.isPublic || access.isProtected) && (info.isAbstract || usage.contains name signature))

/-- The edge that a method of a class draws between it and a subclass. -/
def linkEdge? (usage : Usage) (parent child : String) (info : Lineage) (signature : String)
    (access : Access) : Option Edge :=
  if access.isAbstract then
    some (.inferred ⟨parent, signature⟩ .superToChild ⟨child, signature⟩)
  else if adopts usage child info signature access then
    some (.inferred ⟨child, signature⟩ .childToSuper ⟨parent, signature⟩)
  else none

/-- A subclass with the methods that it takes over. -/
def inherit (usage : Usage) (child : String) (info : Lineage)
    (methods : List (String × Access)) : Lineage :=
  { info with
    methods :=
      (methods.filter fun (signature, access) => adopts usage child info signature access).foldl
        (fun own (signature, access) => own.insert signature access) info.methods }

/-- Takes a step: the forest after it, and the edges that it draws. -/
def takeStep (usage : Usage) (children : ExtTreeMap String (List String))
    (lineage : ExtTreeMap String Lineage) :
    Step → Except HierarchyError (ExtTreeMap String Lineage × List Edge)
  | .enter top => if children.contains top then .ok (lineage, []) else .error (.noSubclasses top)
  | .link parent child =>
    match lineage[parent]? with
    | none => .error (.unknownSuperclass parent)
    | some above =>
      match lineage[child]? with
      | none => .error (.unknownSubclass child)
      | some info =>
        .ok (lineage.insert child (inherit usage child info above.methods.toList),
          above.methods.toList.filterMap fun (signature, access) =>
            linkEdge? usage parent child info signature access)

/-- How a walk ends: the forest it leaves, the tops it began at, and its edges or why it stopped. -/
structure Walk where
  lineage : ExtTreeMap String Lineage
  entered : List String
  edges : Except HierarchyError (List Edge)

/-- The top that a step begins at. -/
def Step.top? : Step → Option String
  | enter top => some top
  | link _ _ => none

/-- Takes steps one after the other. What was inherited before a failure stays; the edges do not. -/
def walk (usage : Usage) (children : ExtTreeMap String (List String))
    (lineage : ExtTreeMap String Lineage) : List Step → Walk
  | [] => ⟨lineage, [], .ok []⟩
  | step :: steps =>
    match takeStep usage children lineage step with
    | .error e => ⟨lineage, step.top?.toList, .error e⟩
    | .ok (lineage, edges) =>
      let rest := walk usage children lineage steps
      ⟨rest.lineage, step.top?.toList ++ rest.entered, rest.edges.map (edges ++ ·)⟩

/-- The walk over the whole forest. -/
def hierarchyWalk (facts : Facts) : Walk :=
  walk facts.usage facts.children facts.lineage facts.steps

/-- Walks the forest: the facts after the walk, and its edges or why it stopped. -/
def resolveHierarchy (facts : Facts) : Facts × Except HierarchyError (List Edge) :=
  ({ facts with lineage := facts.hierarchyWalk.lineage }, facts.hierarchyWalk.edges)

end Facts

end CallGraph
