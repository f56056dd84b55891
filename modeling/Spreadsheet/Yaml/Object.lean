import Spreadsheet.Yaml.Meaning
import Spreadsheet.Yaml.Node

/-!
# YAML objects

What the nodes of a document become. A node that holds others first becomes an empty object;
its parts follow when all nodes that were met before it have theirs. So of several mistakes in
a document the outermost one is told, and of those on one level the first, and a node can be a
part of itself. A mapping under the key `<<` lends its members to the mapping around it.
-/

set_option autoImplicit false

namespace Spreadsheet.Yaml

/-- What a node became. Its parts have the numbers of their nodes; keys are scalars. -/
inductive Object where
  | scalar (value : Data.Scalar)
  | list (items : List Nat)
  | mapping (members : List (Data.Scalar × Nat))
  | pairs (rows : List (Nat × Nat))
  | set (members : List Data.Scalar)

/-- The objects of a document, by the numbers of their nodes. -/
abbrev Objects := Array (Option Object)

namespace Object

/-- The nodes as they are by now, the objects so far, and the nodes whose objects get their
parts in turn. -/
structure Site where
  graph : Graph
  objects : Objects
  waiting : Array Nat

/-- A step of making objects that can fail. -/
abbrev Making := StateT Site (Except Error)

def nodeAt (number : Nat) : Making Node := do
  pure ((← get).graph.getD number Node.nothing)

def store (number : Nat) (object : Object) : Making Unit :=
  modify fun site => { site with objects := site.objects.setIfInBounds number (some object) }

/-- The text of a scalar. Of a mapping it is that of the member under the key `=`. -/
def scalarText : Nat → Nat → Making (List Char)
  | 0, _ => throw .malformed
  | steps + 1, number => do
    match (← nodeAt number).content with
    | .scalar text => pure text
    | .sequence _ => throw .malformed
    | .mapping members =>
      let graph := (← get).graph
      match members.find? fun member => (graph.getD member.1 Node.nothing).tag == .default with
      | some member => scalarText steps member.2
      | none => throw .malformed

/-- The scalar that a node means. A day or moment is written as a scalar itself. -/
def scalarAt (number : Nat) (node : Node) : Making Data.Scalar := do
  let text ← scalarText ((← get).graph.size + 1) number
  match node.tag, node.content with
  | .moment, .mapping _ => throw .compoundMoment
  | tag, _ => tag.meaning text

def make (number : Nat) : Making Unit := do
  let site ← get
  if (site.objects.getD number none).isNone then
    let begin (object : Object) : Making Unit := do
      store number object
      modify fun site => { site with waiting := site.waiting.push number }
    let node ← nodeAt number
    match node.tag with
    | .list => begin (.list [])
    | .mapping => begin (.mapping [])
    | .pairs => begin (.pairs [])
    | .set => begin (.set [])
    | _ => store number (.scalar (← scalarAt number node))

def keyAt (number : Nat) : Making Data.Scalar := do
  make number
  match (← get).objects.getD number none with
  | some (.scalar value) => pure value
  | _ => throw .malformed

def itemsAt (number : Nat) : Making (List Nat) := do
  match (← nodeAt number).content with
  | .sequence items => pure items
  | _ => throw .malformed

def membersAt (number : Nat) : Making (List (Nat × Nat)) := do
  match (← nodeAt number).content with
  | .mapping members => pure members
  | _ => throw .malformed

def change (number : Nat) (f : Node → Node) : Making Unit :=
  modify fun site => { site with graph := site.graph.modify number f }

/-- Puts the members that other mappings lend in front of those of a mapping; of several
mappings in a list, the first has the last word. The key `=` is text from now on. Every step
takes a key `<<` away. -/
def borrow : Nat → Nat → Making Unit
  | 0, _ => throw .malformed
  | steps + 1, number => do
    let members ← membersAt number
    let graph := (← get).graph
    let isOwn (member : Nat × Nat) : Bool :=
      (graph.getD member.1 Node.nothing).tag != .merge
    let become (members : List (Nat × Nat)) : Making Unit :=
      change number fun node => { node with content := .mapping members }
    match members.dropWhile isOwn with
    | [] =>
      members.forM fun member => change member.1 fun key =>
        if key.tag = .default then { key with tag := .text } else key
    | (_, lender) :: later =>
      become (members.takeWhile isOwn ++ later)
      let lend (number : Nat) : Making (List (Nat × Nat)) := do
        borrow steps number
        membersAt number
      let lent ←
        match (← nodeAt lender).content with
        | .sequence items => do pure (← items.mapM lend).reverse.flatten
        | _ => lend lender
      borrow steps number
      become (lent ++ (← membersAt number))

/-- The members of a mapping, each key once, with their objects. -/
def memberObjects (number : Nat) : Making (List (Data.Scalar × Nat)) := do
  let _ ← membersAt number
  let keys := (← get).graph.foldl (fun count node =>
    match node.content with
    | .mapping members => count + members.length
    | _ => count) 0
  borrow (keys + 2) number
  (← membersAt number).foldlM (fun known member => do
    let key ← keyAt member.1
    make member.2
    pure (Data.setMember key member.2 known)) []

def pairObject (number : Nat) : Making (Nat × Nat) := do
  match ← membersAt number with
  | [member] =>
    make member.1
    make member.2
    pure member
  | _ => throw .malformed

def complete (number : Nat) : Making Unit := do
  match (← nodeAt number).tag with
  | .list =>
    let items ← itemsAt number
    items.forM make
    store number (.list items)
  | .mapping => store number (.mapping (← memberObjects number))
  | .set => store number (.set ((← memberObjects number).map Prod.fst))
  | .pairs => store number (.pairs (← (← itemsAt number).mapM pairObject))
  | _ => pure ()

/-- Gives all objects from a place in the row on their parts. -/
def completeFrom (place : Nat) : Nat → Making Unit
  | 0 => pure ()
  | steps + 1 => do
    match (← get).waiting[place]? with
    | none => pure ()
    | some number =>
      complete number
      completeFrom (place + 1) steps

/-- The objects that belong to a node. Every node waits once at most. -/
def ofGraph (graph : Graph) (root : Nat) : Except Error Objects := do
  let making : Making Unit := do
    make root
    completeFrom 0 (graph.size + 1)
  let (_, site) ← making.run ⟨graph, Array.replicate graph.size none, #[]⟩
  pure site.objects

end Object

end Spreadsheet.Yaml
