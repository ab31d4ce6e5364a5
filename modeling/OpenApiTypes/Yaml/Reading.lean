import OpenApiTypes.Yaml.Node
import OpenApiTypes.Yaml.Value

namespace OpenApiTypes
namespace Yaml

/-!
# From YAML to JSON

Anchors are numbered in document order, and an alias means the number that its name has
at that place.  A number is the count of names known before, so a name that is defined
again takes a number that a later name may take over; the last node of a number is the
one that its aliases show.

Aliases are replaced by what they show, so a document may grow without bound.  Nesting
is limited to 128 collections, which also stops an alias inside its own anchor, and the
number of replacements is limited by the size of the document.
-/

/-! ## Anchors and aliases -/

/-- A node whose aliases are numbers of anchors. -/
inductive Linked where
  | aliased (number : Nat)
  | scalar (tag : Option String) (plain : Bool) (text : String)
  | sequence (tag : Option String) (items : List Linked)
  | mapping (tag : Option String) (entries : List (Linked × Linked))
deriving Inhabited

/-- What is known about anchors while a document is walked through. -/
structure Anchors where
  /-- The names with their numbers. -/
  numbers : List (String × Nat) := []
  /-- How many nodes and ends of collections have been met. -/
  size : Nat := 0

/-- Give an anchor its number. -/
def Anchors.define (anchors : Anchors) (name : String) : Anchors × Nat :=
  let number := anchors.numbers.length
  let others := anchors.numbers.filter (fun entry => entry.1 != name)
  ({ anchors with numbers := (name, number) :: others }, number)

/-- Walk over a node with these properties. -/
def Anchors.enter (anchors : Anchors) (properties : Properties) (size : Nat) :
    Anchors × Option Nat :=
  let grown := { anchors with size := anchors.size + size }
  match properties.anchor with
  | none => (grown, none)
  | some name =>
      let (defined, number) := grown.define name
      (defined, some number)

/-- Nodes by the numbers of their anchors, the last definition first. -/
abbrev Targets := List (Nat × Linked)

/-- Put a node under its number. -/
def target (number : Option Nat) (node : Linked) (inner : Targets) : Targets :=
  match number with
  | none => inner
  | some number => inner ++ [(number, node)]

mutual

/-- Replace names by numbers.  Gives the nodes with anchors, the last one first. -/
def link (anchors : Anchors) (node : Node) : Option (Linked × Targets × Anchors) :=
  match node with
  | .aliased name =>
      (anchors.numbers.lookup name).map (fun number =>
        (.aliased number, [], { anchors with size := anchors.size + 1 }))
  | .scalar properties plain text =>
      let (entered, number) := anchors.enter properties 1
      let linked := Linked.scalar properties.tag plain text
      some (linked, target number linked [], entered)
  | .sequence properties items =>
      let (entered, number) := anchors.enter properties 2
      (linkItems entered items).map (fun (inner, targets, after) =>
        let linked := Linked.sequence properties.tag inner
        (linked, target number linked targets, after))
  | .mapping properties entries =>
      let (entered, number) := anchors.enter properties 2
      (linkEntries entered entries).map (fun (inner, targets, after) =>
        let linked := Linked.mapping properties.tag inner
        (linked, target number linked targets, after))
termination_by structural node

/-- Replace names in the items of a sequence. -/
def linkItems (anchors : Anchors) (items : List Node) :
    Option (List Linked × Targets × Anchors) :=
  match items with
  | [] => some ([], [], anchors)
  | item :: rest =>
      match link anchors item with
      | none => none
      | some (first, targets, after) =>
          (linkItems after rest).map (fun (others, later, last) =>
            (first :: others, later ++ targets, last))
termination_by structural items

/-- Replace names in the entries of a mapping. -/
def linkEntries (anchors : Anchors) (entries : List (Node × Node)) :
    Option (List (Linked × Linked) × Targets × Anchors) :=
  match entries with
  | [] => some ([], [], anchors)
  | (key, value) :: rest =>
      match link anchors key with
      | none => none
      | some (first, keyTargets, between) =>
          match link between value with
          | none => none
          | some (second, valueTargets, after) =>
              (linkEntries after rest).map (fun (others, later, last) =>
                ((first, second) :: others, later ++ valueTargets ++ keyTargets, last))
termination_by structural entries

end

/-! ## Values -/

/-- How deep collections may be nested. -/
def greatestDepth : Nat := 128

/-- Reading that counts how often an alias has been replaced. -/
abbrev Counting := StateT Nat Option

/-- What an alias shows; other nodes show themselves. -/
def shown (targets : Targets) (limit : Nat) (node : Linked) : Counting Linked := fun count =>
  match node with
  | .aliased number =>
      if count < limit then
        (targets.lookup number).map (fun found => (found, count + 1))
      else none
  | other => some (other, count)

/-- The text of a key.  Only scalars are keys, and their tags do not matter. -/
def keyText : Linked -> Counting String
  | .scalar _ _ text => pure text
  | _ => failure

/-- The value of a scalar. -/
def scalarValue (tag : Option String) (plain : Bool) (text : String) : Option Json :=
  match tag with
  | some tag => taggedValue? tag text
  | none => if plain then plainValue? text else some (.string text)

/-- Whether a collection may have a tag. -/
def allowsTag : Option String -> Bool
  | none => true
  | some tag => !tag.startsWith "!"

/-- The JSON value of a node.  `depth` is the number of collections that may still be
nested. -/
def toJson (targets : Targets) (limit : Nat) : Nat -> Linked -> Counting Json
  | depth, node => do
      match <- shown targets limit node with
      | .aliased _ => failure
      | .scalar tag plain text => StateT.lift (scalarValue tag plain text)
      | .sequence tag items =>
          match depth with
          | 0 => failure
          | depth + 1 => do
              guard (allowsTag tag)
              let values <- items.mapM (toJson targets limit depth)
              pure (.array values)
      | .mapping tag entries =>
          match depth with
          | 0 => failure
          | depth + 1 => do
              guard (allowsTag tag)
              let members <- entries.foldlM (fun members entry => do
                let name <- keyText (<- shown targets limit entry.1)
                let value <- toJson targets limit depth entry.2
                pure (Json.Members.insert members name value)) []
              pure (.object members)

/-- Read YAML text as a JSON value; none when the text is not YAML or has no JSON
value. -/
def read? (text : String) : Option Json := do
  let node <- document? text
  let (linked, targets, anchors) <- link {} node
  let (value, _) <- (toJson targets (100 * anchors.size) greatestDepth linked).run 0
  pure value

end Yaml
end OpenApiTypes
