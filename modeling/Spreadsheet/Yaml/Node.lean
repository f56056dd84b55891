import Spreadsheet.Yaml.Plain
import Spreadsheet.Yaml.Token

/-!
# YAML nodes

The scalars, lists and mappings that the tokens of a document describe, before it is known what
scalars mean. Nodes have numbers and name the nodes in them by these. So an alias is a number
like any other, and a node can be inside itself.
-/

set_option autoImplicit false

namespace Spreadsheet.Yaml

/-- What is written for a node. -/
inductive Content where
  | scalar (text : List Char)
  | sequence (items : List Nat)
  | mapping (members : List (Nat × Nat))
deriving Repr

/-- A node. -/
structure Node where
  tag : Tag
  content : Content
deriving Repr

/-- The nodes of a document, by their numbers. -/
abbrev Graph := Array Node

namespace Node

def nothing : Node := ⟨.null, .scalar []⟩

instance : Inhabited Node := ⟨nothing⟩

/-- The tokens that are left, what is wrong behind them, the handles of tags, the numbers of the
nodes that have names, and the nodes so far. -/
structure Source where
  tokens : List Token
  fault : Error
  handles : List (List Char × List Char)
  named : List (List Char × Nat)
  nodes : Graph

/-- A step of reading that can fail. -/
abbrev Reading := StateT Source (Except Error)

def peek : Reading Token := do
  let source ← get
  match source.tokens with
  | token :: _ => pure token
  | [] => throw source.fault

def skip : Reading Unit :=
  modify fun source => { source with tokens := source.tokens.drop 1 }

def skipIf (token : Token) : Reading Bool := do
  if (← peek) = token then
    skip
    pure true
  else pure false

def expect (token : Token) : Reading Unit := do
  if !(← skipIf token) then throw .malformed

def readAnchor : Reading (Option (List Char)) := do
  match ← peek with
  | .anchor name =>
    skip
    pure (some name)
  | _ => pure none

def readTag : Reading (Option (Option (List Char) × List Char)) := do
  match ← peek with
  | .tag handle ending =>
    skip
    pure (some (handle, ending))
  | _ => pure none

/-- The name of a tag, in full. Its handle must be known. -/
def fullName (handle : Option (List Char)) (ending : List Char) : Reading (List Char) := do
  match handle with
  | none => pure ending
  | some handle =>
    match (← get).handles.lookup handle with
    | some beginning => pure (beginning ++ ending)
    | none => throw .malformed

/-- The name and the tag in front of a node, in either order. A name is given once. Both are
looked at when the token behind them is known. -/
def readProperties : Reading (Option (List Char) × Option (List Char)) := do
  let first ← readAnchor
  let tag ← readTag
  let name ← if first.isNone && tag.isSome then readAnchor else pure first
  let _ ← peek
  let tag ←
    match tag with
    | none => pure none
    | some (handle, ending) => some <$> fullName handle ending
  let known := (← get).named
  if name.any fun name => (known.lookup name).isSome then throw .malformed
  pure (name, tag)

/-- The tag of a scalar, given the name of the one in front of it. -/
def scalarTag (tag : Option (List Char)) (text : List Char) (plain : Bool) : Tag :=
  match tag with
  | none => if plain then Plain.tag text else .text
  | some name => if name = Tag.openName then Plain.tag text else .ofName name

def compoundTag (tag : Option (List Char)) (usual : Tag) : Tag :=
  match tag with
  | none => usual
  | some name => if name = Tag.openName then usual else .ofName name

/-- A new node, which may have a name; its number. -/
def add (name : Option (List Char)) (node : Node) : Reading Nat := do
  let source ← get
  let number := source.nodes.size
  set { source with
    nodes := source.nodes.push node
    named := (name.map fun name => (name, number)).toList ++ source.named }
  pure number

def addNothing : Reading Nat := add none nothing

def complete (number : Nat) (tag : Tag) (content : Content) : Reading Nat := do
  modify fun source => { source with nodes := source.nodes.setIfInBounds number ⟨tag, content⟩ }
  pure number

/-- The tokens in front of which the item of a list in a block can be missing. -/
def endsItem (token : Token) : Bool := token == .blockEntry || token == .blockEnd

/-- The tokens in front of which the item of a list without indentation can be
missing. -/
def endsLooseItem (token : Token) : Bool :=
  endsItem token || token == .key || token == .value

/-- The tokens in front of which a key or value in a block can be missing. -/
def endsMember (token : Token) : Bool :=
  token == .key || token == .value || token == .blockEnd

mutual

/-- A node; its number. Blocks may only begin where `block` holds, and a list without
indentation only where `loose` holds as well. A node with a name or a tag may be left out. -/
def read (block loose : Bool) : Nat → Reading Nat
  | 0 => throw .malformed
  | steps + 1 => do
    match ← peek with
    | .alias name =>
      skip
      match (← get).named.lookup name with
      | some number => pure number
      | none => throw .malformed
    | _ =>
      let (name, tag) ← readProperties
      let listTag := compoundTag tag .list
      let mappingTag := compoundTag tag .mapping
      let leftOut : Reading Nat :=
        if name.isSome || tag.isSome then add name ⟨scalarTag tag [] true, .scalar []⟩
        else throw .malformed
      match ← peek with
      | .scalar text plain =>
        skip
        add name ⟨scalarTag tag text plain, .scalar text⟩
      | .flowSequenceStart =>
        let number ← add name nothing
        skip
        complete number listTag (.sequence (← readFlowItems true steps))
      | .flowMappingStart =>
        let number ← add name nothing
        skip
        complete number mappingTag (.mapping (← readFlowMembers true steps))
      | .blockSequenceStart =>
        if !block then leftOut
        else
          let number ← add name nothing
          skip
          let items ← readItems steps
          expect .blockEnd
          complete number listTag (.sequence items)
      | .blockMappingStart =>
        if !block then leftOut
        else
          let number ← add name nothing
          skip
          let members ← readMembers steps
          expect .blockEnd
          complete number mappingTag (.mapping members)
      | .blockEntry =>
        if loose then
          let number ← add name nothing
          complete number listTag (.sequence (← readLooseItems steps))
        else leftOut
      | _ => leftOut

def readItems : Nat → Reading (List Nat)
  | 0 => throw .malformed
  | steps + 1 => do
    if !(← skipIf .blockEntry) then return []
    let item ← if endsItem (← peek) then addNothing else read true false steps
    pure (item :: (← readItems steps))

/-- The items of a list without indentation, as the value of a key. -/
def readLooseItems : Nat → Reading (List Nat)
  | 0 => throw .malformed
  | steps + 1 => do
    if !(← skipIf .blockEntry) then return []
    let item ← if endsLooseItem (← peek) then addNothing else read true false steps
    pure (item :: (← readLooseItems steps))

def readMembers : Nat → Reading (List (Nat × Nat))
  | 0 => throw .malformed
  | steps + 1 => do
    if !(← skipIf .key) then return []
    let key ← if endsMember (← peek) then addNothing else read true true steps
    let value ←
      if ← skipIf .value then
        if endsMember (← peek) then addNothing else read true true steps
      else addNothing
    pure ((key, value) :: (← readMembers steps))

/-- The items of a list in brackets, up to the closing one. A key makes an item a
mapping with one member. -/
def readFlowItems (first : Bool) : Nat → Reading (List Nat)
  | 0 => throw .malformed
  | steps + 1 => do
    if ← skipIf .flowSequenceEnd then return []
    if !first then expect .flowEntry
    if ← skipIf .flowSequenceEnd then return []
    if ← skipIf .key then
      let ends (token : Token) : Bool := token == .flowEntry || token == .flowSequenceEnd
      let token ← peek
      let key ← if token = .value ∨ ends token then addNothing else read false false steps
      let value ←
        if ← skipIf .value then
          if ends (← peek) then addNothing else read false false steps
        else addNothing
      let pair ← add none ⟨.mapping, .mapping [(key, value)]⟩
      pure (pair :: (← readFlowItems false steps))
    else
      let item ← read false false steps
      pure (item :: (← readFlowItems false steps))

/-- The members of a mapping in braces, up to the closing one. -/
def readFlowMembers (first : Bool) : Nat → Reading (List (Nat × Nat))
  | 0 => throw .malformed
  | steps + 1 => do
    if ← skipIf .flowMappingEnd then return []
    if !first then expect .flowEntry
    if ← skipIf .flowMappingEnd then return []
    let ends (token : Token) : Bool := token == .flowEntry || token == .flowMappingEnd
    if ← skipIf .key then
      let token ← peek
      let key ← if token = .value ∨ ends token then addNothing else read false false steps
      let value ←
        if ← skipIf .value then
          if ends (← peek) then addNothing else read false false steps
        else addNothing
      pure ((key, value) :: (← readFlowMembers false steps))
    else
      let key ← read false false steps
      let value ← addNothing
      pure ((key, value) :: (← readFlowMembers false steps))

end

def skipEnds : Nat → Reading Unit
  | 0 => pure ()
  | steps + 1 => do
    if ← skipIf .documentEnd then skipEnds steps

/-- The handles that directives define, behind the known ones. There is one version at most,
and each handle is defined once. -/
def readDirectives (versioned : Bool) (handles : List (List Char × List Char)) :
    Nat → Reading (List (List Char × List Char))
  | 0 => pure handles
  | steps + 1 => do
    match ← peek with
    | .directive .version =>
      skip
      if versioned then throw .malformed
      readDirectives true handles steps
    | .directive (.handle name beginning) =>
      skip
      if (handles.lookup name).isSome then throw .malformed
      readDirectives versioned ((name, beginning) :: handles) steps
    | .directive .other =>
      skip
      readDirectives versioned handles steps
    | _ => pure handles

/-- Whether a document ends or another one begins at a token. -/
def endsDocument : Token → Bool
  | .directive _ | .documentStart | .documentEnd | .streamEnd => true
  | _ => false

/-- The node of a document that begins with a sign, possibly behind directives. -/
def readMarked (steps : Nat) : Reading Nat := do
  let handles ← readDirectives false [] steps
  modify fun source => { source with handles := handles ++ source.handles }
  expect .documentStart
  if endsDocument (← peek) then addNothing else read true false steps

/-- The node of the only document, if there is one. Behind it nothing may follow, not even
directives. -/
def readDocument (steps : Nat) : Reading (Option Nat) := do
  let number ←
    match ← peek with
    | .streamEnd => pure none
    | .directive _ | .documentStart => some <$> readMarked steps
    | _ => some <$> read true false steps
  skipEnds steps
  if (← peek) ≠ .streamEnd then
    let _ ← readDirectives false [] steps
    throw .malformed
  pure number

/-- The nodes that a text describes, and the number of the outermost one. No step of reading
goes deeper without a token, or more than four levels for one. -/
def ofText? (text : List Char) : Except Error (Graph × Option Nat) := do
  let scan := Scan.ofText text
  let source : Source := ⟨scan.tokens, scan.fault, Tag.handles, [], #[]⟩
  let (number, source) ← (readDocument (4 * scan.tokens.length + 4)).run source
  pure (source.nodes, number)

end Node

end Spreadsheet.Yaml
