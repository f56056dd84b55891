import Spreadsheet.Collection.IdSet
import Spreadsheet.Collection.Table

/-!
# Links between cells

Which cells a cell reads from, its sources, and which cells read from it, its
readers. Both directions are stored and changed together, row by row. A row that
would close a cycle is refused.
-/

set_option autoImplicit false

namespace Spreadsheet

/-- The links between cells: the sources by reader, and the readers by source. -/
structure Links where
  sources : Table String IdSet
  readers : Table String IdSet
deriving DecidableEq

namespace Links

def empty : Links := ⟨∅, ∅⟩

instance : EmptyCollection Links := ⟨empty⟩

def sourcesOf (links : Links) (cell : String) : IdSet := (links.sources.get? cell).getD ∅

def readersOf (links : Links) (cell : String) : IdSet := (links.readers.get? cell).getD ∅

def contains (links : Links) (cell : String) : Bool :=
  links.sources.contains cell || links.readers.contains cell

def nodes (links : Links) : IdSet :=
  IdSet.ofList (links.sources.keys ++ links.readers.keys)

/-- Removes a reader from the row of a cell that it read; a row without readers
goes. -/
def dropReader (reader : String) (rows : Table String IdSet) (cell : String) : Table String IdSet :=
  match rows.get? cell with
  | none => rows
  | some readers =>
    let others := readers.erase reader
    if others.isEmpty then rows.erase cell else rows.set cell others

def addReader (reader : String) (rows : Table String IdSet) (cell : String) : Table String IdSet :=
  rows.set cell (((rows.get? cell).getD ∅).insert reader)

/-- The links without those of one reader. Links to the cell itself stay: the
others still read from it. -/
def remove (links : Links) (reader : String) : Links where
  sources := links.sources.erase reader
  readers := (links.sourcesOf reader).toList.foldl (dropReader reader) links.readers

def link (links : Links) (reader : String) (cells : IdSet) : Links where
  sources := links.sources.set reader cells
  readers := cells.toList.foldl (addReader reader) links.readers

/-- Tries the listed cells one after the other until there is a way to `origin` from one of them.
`further` goes on from a cell; a cell that it finds no way from leads nowhere. -/
def tryCells (origin : String)
    (further : String → List String → Option (List String) × List String) :
    List String → List String → Option (List String) × List String
  | [], exhausted => (none, exhausted)
  | cell :: rest, exhausted =>
    if cell = origin then (some [cell], exhausted)
    else if cell ∈ exhausted then tryCells origin further rest exhausted
    else
      match further cell exhausted with
      | (some path, exhausted) => (some (cell :: path), exhausted)
      | (none, exhausted) => tryCells origin further rest (cell :: exhausted)

/-- Searches from the listed cells on through their sources for a way to `origin`, depth
first, and gives the first one found together with the cells known to lead
nowhere. `depth` bounds the length of a way. -/
def search (links : Links) (origin : String) :
    Nat → List String → List String → Option (List String) × List String
  | 0, _, exhausted => (none, exhausted)
  | depth + 1, cells, exhausted =>
    tryCells origin (fun cell => links.search origin depth (links.sourcesOf cell).toList) cells
      exhausted

/-- The first way from a cell through sources back to itself, in the order of the
identifiers; it begins and ends with the cell. No way without repetition is longer
than the number of readers. -/
def cycleThrough? (links : Links) (origin : String) : Option (List String) :=
  (links.search origin (links.sources.size + 1) (links.sourcesOf origin).toList []).1.map
    (origin :: ·)

/-- Gives a reader its row; an empty row removes it. If the new row closes a cycle,
that cycle is given and the reader has its old row again. -/
def add (links : Links) (reader : String) (cells : IdSet) : Links × Option (List String) :=
  if cells.isEmpty then (links.remove reader, none)
  else
    let changed := (links.remove reader).link reader cells
    match changed.cycleThrough? reader with
    | none => (changed, none)
    | some cycle =>
      let removed := changed.remove reader
      match links.sources.get? reader with
      | none => (removed, some cycle)
      | some previous => (removed.link reader previous, some cycle)

/-- The cells of `reached` and all readers of those in `pending`, direct or not. Each round
takes one pending cell; `rounds` bounds their number. -/
def reachFrom (links : Links) : Nat → List String → IdSet → IdSet
  | 0, _, reached => reached
  | _, [], reached => reached
  | rounds + 1, cell :: pending, reached =>
    let fresh := (links.readersOf cell).filter (· ∉ reached)
    links.reachFrom rounds (fresh.toList ++ pending) (reached.union fresh)

/-- The cells that read from a cell directly or through others, without itself.
Every one of them is a reader, and no cell is pending twice. -/
def dependents (links : Links) (origin : String) : IdSet :=
  (links.reachFrom (links.sources.size + 1) [origin] ∅).erase origin

/-- Whether every cell of `among` that the cell reads from is in `placed`. -/
def ready (links : Links) (among : IdSet) (placed : List String) (cell : String) : Bool :=
  (links.sourcesOf cell).toList.all fun up => up ∉ among || placed.contains up

/-- Places the waiting cells one after the other; when the last cell that a reader
waits for is placed, the reader is next in line. -/
def placeFrom (links : Links) (among : IdSet) :
    Nat → List String → List String → List String
  | 0, _, placed => placed
  | _, [], placed => placed
  | rounds + 1, cell :: waiting, placed =>
    let placed := placed ++ [cell]
    let next := (links.readersOf cell).filter fun reader =>
      reader ∈ among && links.ready among placed reader
    links.placeFrom among rounds (waiting ++ next.toList) placed

/-- The dependents of an origin in an order in which each stands behind all dependents
that it reads from. -/
def updateOrder (links : Links) (origin : String) : List String :=
  let among := links.dependents origin
  links.placeFrom among among.size (among.filter (links.ready among [])).toList []

end Links

end Spreadsheet
