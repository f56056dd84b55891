import Mathlib.Data.List.Chain
import Spreadsheet.Proofs.Dependency.Refinement
import Spreadsheet.Proofs.Loop

/-! The cycle that is found is the least one through its origin. The search finds it as a loop
without any bound does, and such a loop always ends. -/

set_option autoImplicit false

namespace Spreadsheet.Links

open Relation

/-! ### Ways to the origin -/

/-- A way through sources that begins with one of the cells and ends where it first meets the
origin. -/
inductive Way (links : Links) (origin : String) : List String → List String → Prop where
  | arrive {cells : List String} : origin ∈ cells → Way links origin cells [origin]
  | onward {cells path : List String} {cell : String} : cell ∈ cells → cell ≠ origin →
      Way links origin (links.sourcesOf cell).toList path → Way links origin cells (cell :: path)

/-- A cycle written from its origin on: it comes back to the origin at the end and meets nothing
twice before, and each cell reads from the next one. -/
def IsCycle (links : Links) (origin : String) (path : List String) : Prop :=
  ∃ inner, path = origin :: (inner ++ [origin]) ∧ origin ∉ inner ∧ inner.Nodup ∧
    path.IsChain links.Reads

/-- The paths are the same, or the first one has the lower identifier where they part. -/
def AtMost (first second : List String) : Prop :=
  first = second ∨ List.Lex (· < ·) first second

section Way

variable {links : Links} {origin cell : String} {cells rest path : List String}

theorem Way.weaken (way : Way links origin rest path) : Way links origin (cell :: rest) path := by
  cases way with
  | arrive member => exact .arrive (List.mem_cons_of_mem cell member)
  | onward member different further =>
      exact .onward (List.mem_cons_of_mem cell member) different further

theorem Way.exists_head (way : Way links origin cells path) :
    ∃ first ∈ cells, path.head? = some first ∧ links.LeadsTo first origin := by
  induction way with
  | arrive member => exact ⟨origin, member, rfl, .refl⟩
  | @onward cells path cell member _ _ ih =>
      obtain ⟨source, reads, _, leads⟩ := ih
      exact ⟨cell, member, rfl, leads.head reads⟩

/-- No way begins with a cell that leads nowhere. -/
theorem Way.of_dead (way : Way links origin (cell :: rest) path)
    (dead : ¬ links.LeadsTo cell origin) : Way links origin rest path := by
  obtain ⟨first, _, begins, leads⟩ := way.exists_head
  have different : first ≠ cell := fun same => dead (same ▸ leads)
  cases way with
  | arrive member =>
      cases begins
      exact .arrive ((List.mem_cons.1 member).resolve_left different)
  | onward member apart further =>
      cases begins
      exact .onward ((List.mem_cons.1 member).resolve_left different) apart further

private theorem Way.exists_concat (way : Way links origin cells path) :
    ∃ inner, path = inner ++ [origin] := by
  induction way with
  | arrive => exact ⟨[], rfl⟩
  | @onward _ path cell _ _ _ ih =>
      obtain ⟨inner, rfl⟩ := ih
      exact ⟨cell :: inner, rfl⟩

private theorem Way.isChain (way : Way links origin cells path) :
    path.IsChain (links.ReadsBefore origin) := by
  induction way with
  | arrive => exact .singleton origin
  | @onward cells path cell _ different further ih =>
      refine ih.cons fun next first => ⟨different, ?_⟩
      obtain ⟨source, reads, same, _⟩ := further.exists_head
      rw [Option.mem_def, same] at first
      exact Option.some.inj first ▸ reads

private theorem way_of_isChain {start : String} {inner : List String} (outside : origin ∉ inner)
    (chain : (start :: (inner ++ [origin])).IsChain links.Reads) :
    Way links origin (links.sourcesOf start).toList (inner ++ [origin]) := by
  induction inner generalizing start with
  | nil => exact .arrive (List.isChain_cons_cons.1 chain).1
  | cons next rest ih =>
      rw [List.mem_cons, not_or] at outside
      obtain ⟨reads, further⟩ := List.isChain_cons_cons.1 chain
      exact .onward reads (Ne.symm outside.1) (ih outside.2 further)

/-- Where every cycle passes through the origin, a way to it meets nothing twice. -/
theorem isCycle_iff (acyclic : ∀ cell, ¬ TransGen (links.ReadsBefore origin) cell cell) :
    links.IsCycle origin path ↔
      ∃ tail, path = origin :: tail ∧ Way links origin (links.sourcesOf origin).toList tail := by
  constructor
  · rintro ⟨inner, rfl, outside, _, chain⟩
    exact ⟨_, rfl, way_of_isChain outside chain⟩
  · rintro ⟨tail, rfl, way⟩
    obtain ⟨source, reads, first, _⟩ := way.exists_head
    have chain := way.isChain
    have apart : ∀ here next, TransGen (links.ReadsBefore origin) here next → here ≠ next := by
      rintro here _ leads rfl
      exact acyclic here leads
    have unique : tail.Nodup :=
      (chain.imp fun _ _ step => TransGen.single step).pairwise.imp (apart _ _)
    have whole : (origin :: tail).IsChain links.Reads := by
      refine (chain.imp fun _ _ step => step.2).cons fun next member => ?_
      rw [Option.mem_def, first] at member
      exact Option.some.inj member ▸ reads
    obtain ⟨inner, rfl⟩ := way.exists_concat
    obtain ⟨inside, _, different⟩ := List.nodup_append.1 unique
    refine ⟨inner, rfl, fun member => ?_, inside, whole⟩
    exact different origin member origin (List.mem_singleton_self origin) rfl

end Way

/-! ### What the search finds -/

section Search

variable {links : Links} {origin : String} {depth : Nat} {cells exhausted path other : List String}
  {answer : Option (List String) × List String}

private theorem Searched.way (searched : Searched links origin depth cells exhausted answer)
    (found : answer.1 = some path) : Way links origin cells path := by
  induction searched generalizing path with
  | empty => cases found
  | bound => cases found
  | arrived =>
      cases found
      exact .arrive List.mem_cons_self
  | known _ _ _ ih => exact (ih found).weaken
  | found different _ _ ih =>
      cases found
      exact .onward List.mem_cons_self different (ih rfl)
  | lost _ _ _ _ _ ih => exact (ih found).weaken

theorem AtMost.cons (least : AtMost path other) (cell : String) :
    AtMost (cell :: path) (cell :: other) := by
  rcases least with rfl | before
  · exact .inl rfl
  · exact .inr (.cons before)

/-- The search tries the cells in their order and passes over those only that lead nowhere, so
no way stands before the one that it finds. -/
theorem Searched.atMost (searched : Searched links origin depth cells exhausted answer)
    (ascending : cells.Pairwise (· < ·))
    (bounded : ∀ cell ∈ cells, EndsWithin (links.ReadsBefore origin) depth cell)
    (dead : ∀ cell ∈ exhausted, ¬ links.LeadsTo cell origin) (found : answer.1 = some path)
    (way : Way links origin cells other) : AtMost path other := by
  induction searched generalizing path other with
  | empty => cases found
  | bound => cases found
  | arrived =>
      cases found
      cases way with
      | arrive => exact .inl rfl
      | onward member different =>
          have later := (List.mem_cons.1 member).resolve_left different
          exact .inr (.rel ((List.pairwise_cons.1 ascending).1 _ later))
  | known different known _ ih =>
      exact ih (List.pairwise_cons.1 ascending).2
        (fun next member => bounded next (List.mem_cons_of_mem _ member)) dead found
        (way.of_dead (dead _ known))
  | found different _ _ ih =>
      cases found
      have deeper := endsWithin_sources (bounded _ List.mem_cons_self) different
      cases way with
      | arrive member =>
          have later := (List.mem_cons.1 member).resolve_left (Ne.symm different)
          exact .inr (.rel ((List.pairwise_cons.1 ascending).1 origin later))
      | onward member apart further =>
          rcases List.mem_cons.1 member with rfl | later
          · exact (ih (links.sourcesOf _).ascending deeper dead rfl further).cons _
          · exact .inr (.rel ((List.pairwise_cons.1 ascending).1 _ later))
  | lost different _ sources _ _ ih =>
      have deeper := endsWithin_sources (bounded _ List.mem_cons_self) different
      obtain ⟨noSource, moreDead⟩ := sources.dead_ends deeper dead rfl
      have cellDead := not_leadsTo_of_sources different noSource
      exact ih (List.pairwise_cons.1 ascending).2
        (fun next member => bounded next (List.mem_cons_of_mem _ member))
        (List.forall_mem_cons.2 ⟨cellDead, moreDead⟩) found (way.of_dead cellDead)

end Search

/-! ### The search as a loop -/

/-- The cells on the path, the last one first, each with the sources that are not tried yet, and
the cells given up. -/
structure Walk where
  path : List (String × List String)
  exhausted : List String

/-- Tries the next source of the last cell on the path; a cell without further sources is given
up. -/
def Walk.round (links : Links) (origin : String) : Walk → Walk ⊕ Option (List String)
  | ⟨[], _⟩ => .inr none
  | ⟨(cell, []) :: before, exhausted⟩ => .inl ⟨before, cell :: exhausted⟩
  | ⟨(cell, next :: more) :: before, exhausted⟩ =>
    if next = origin then .inr (some ((cell :: before.map Prod.fst).reverse ++ [next]))
    else if next ∈ exhausted then .inl ⟨(cell, more) :: before, exhausted⟩
    else .inl ⟨(next, (links.sourcesOf next).toList) :: (cell, more) :: before, exhausted⟩

def Walk.start (links : Links) (origin : String) : Walk :=
  ⟨[(origin, (links.sourcesOf origin).toList)], []⟩

section Walk

variable {links : Links} {origin : String}

/-- How the loop goes on where it has the search's result for the sources of the last cell. -/
private def Continues (links : Links) (origin here : String) (before : List (String × List String))
    (answer : Option (List String)) : Option (List String) × List String → Prop
  | (some path, _) => answer = some ((here :: before.map Prod.fst).reverse ++ path)
  | (none, exhausted) => Ends (Walk.round links origin) ⟨before, here :: exhausted⟩ answer

/-- The bound on the depth is never met, so the loop goes the way of the search. -/
private theorem Searched.ends {depth : Nat} {cells exhausted : List String}
    {answer : Option (List String) × List String}
    (searched : Searched links origin depth cells exhausted answer)
    (bounded : ∀ cell ∈ cells, EndsWithin (links.ReadsBefore origin) depth cell)
    {here : String} {before : List (String × List String)} {result : Option (List String)}
    (further : Continues links origin here before result answer) :
    Ends (Walk.round links origin) ⟨(here, cells) :: before, exhausted⟩ result := by
  induction searched generalizing here before result with
  | empty => exact .again rfl further
  | bound => exact (bounded _ List.mem_cons_self).elim
  | arrived => exact .stop (by rw [Walk.round, if_pos rfl, further])
  | known different known _ ih =>
      refine .again (by rw [Walk.round, if_neg different, if_pos known]) (ih ?_ further)
      exact fun next member => bounded next (List.mem_cons_of_mem _ member)
  | found different fresh _ ih =>
      refine .again (by rw [Walk.round, if_neg different, if_neg fresh])
        (ih (endsWithin_sources (bounded _ List.mem_cons_self) different) ?_)
      simpa [Continues] using further
  | lost different fresh _ _ sourcesIH othersIH =>
      refine .again (by rw [Walk.round, if_neg different, if_neg fresh])
        (sourcesIH (endsWithin_sources (bounded _ List.mem_cons_self) different) ?_)
      exact othersIH (fun next member => bounded next (List.mem_cons_of_mem _ member)) further

private theorem ends_cycleThrough?
    (acyclic : ∀ cell, ¬ TransGen (links.ReadsBefore origin) cell cell) :
    Ends (Walk.round links origin) (Walk.start links origin) (links.cycleThrough? origin) := by
  refine (links.searched_search origin _ _ _).ends (fun cell _ => endsWithin_size acyclic cell) ?_
  rw [cycleThrough?]
  cases links.search origin (links.sources.size + 1) (links.sourcesOf origin).toList [] with
  | mk found exhausted =>
      cases found with
      | none => exact .stop rfl
      | some path => rfl

/-- The loop that searches for a cycle through the origin ends, it finds none exactly if there is
none, and what it finds is a cycle that none stands before. -/
structure ExactSearch (links : Links) (origin : String) : Prop where
  ends : ∀ answer, Ends (Walk.round links origin) (Walk.start links origin) answer ↔
    answer = links.cycleThrough? origin
  none_iff : links.cycleThrough? origin = none ↔ ¬ links.DependsOn origin origin
  least : ∀ path, links.cycleThrough? origin = some path →
    links.IsCycle origin path ∧ ∀ other, links.IsCycle origin other → AtMost path other

theorem exactSearch (acyclic : ∀ cell, ¬ TransGen (links.ReadsBefore origin) cell cell) :
    ExactSearch links origin where
  ends := (ends_cycleThrough? acyclic).iff_eq
  none_iff := cycleThrough?_eq_none_iff acyclic
  least path found := by
    obtain ⟨tail, first, rfl⟩ := Option.map_eq_some_iff.1 found
    have searched := links.searched_search origin (links.sources.size + 1)
      (links.sourcesOf origin).toList []
    refine ⟨(isCycle_iff acyclic).2 ⟨tail, rfl, searched.way first⟩, fun other cycle => ?_⟩
    obtain ⟨others, rfl, way⟩ := (isCycle_iff acyclic).1 cycle
    exact (searched.atMost (links.sourcesOf origin).ascending
      (fun cell _ => endsWithin_size acyclic cell) (by simp) first way).cons origin

theorem Acyclic.readsBefore (acyclic : links.Acyclic) (cell : String) :
    ¬ TransGen (links.ReadsBefore origin) cell cell :=
  fun cycle => acyclic cell (TransGen.mono (fun _ _ step => step.2) cell cell cycle)

end Walk

/-- After any changes: a row is refused for the cycle that the search finds in the links with that
row, where every cycle passes through the reader. The search is exact there, and without a new row
it finds nothing. -/
theorem exactSearch_ofChanges (changes : List RowChange) (reader : String) :
    (∀ cells : IdSet, cells ≠ ∅ →
      ((ofChanges changes).add reader cells).2 =
          ((ofChanges changes).exchange reader cells).cycleThrough? reader ∧
        (∀ cell, ¬ TransGen (((ofChanges changes).exchange reader cells).ReadsBefore reader)
          cell cell) ∧
        ExactSearch ((ofChanges changes).exchange reader cells) reader) ∧
      ExactSearch (ofChanges changes) reader ∧ (ofChanges changes).cycleThrough? reader = none := by
  have acyclic := (represents_ofChanges changes).1.linksAcyclic
  refine ⟨fun cells filled => ⟨?_, acyclic_readsBefore_exchange acyclic,
    exactSearch (acyclic_readsBefore_exchange acyclic)⟩, exactSearch acyclic.readsBefore,
    (cycleThrough?_eq_none_iff acyclic.readsBefore).2 (acyclic reader)⟩
  rw [add_of_ne_empty filled]
  cases ((ofChanges changes).exchange reader cells).cycleThrough? reader <;> rfl

/-- Four cells in a ring of two ways, one row short of it. -/
def openRing : Links :=
  ofChanges [.add "A1" (IdSet.ofList ["B1", "C1"]), .add "B1" (IdSet.ofList ["D1"]),
    .add "C1" (IdSet.ofList ["D1"])]

theorem add_openRing :
    (openRing.add "D1" (IdSet.ofList ["A1"])).2 = some ["D1", "A1", "B1", "D1"] ∧
      ∀ other, (openRing.exchange "D1" (IdSet.ofList ["A1"])).IsCycle "D1" other →
        AtMost ["D1", "A1", "B1", "D1"] other := by
  have filled : IdSet.ofList ["A1"] ≠ ∅ := by decide
  have found : (openRing.exchange "D1" (IdSet.ofList ["A1"])).cycleThrough? "D1" =
      some ["D1", "A1", "B1", "D1"] := by decide +kernel
  obtain ⟨answer, _, exact⟩ := (exactSearch_ofChanges _ "D1").1 (IdSet.ofList ["A1"]) filled
  exact ⟨answer.trans found, (exact.least _ found).2⟩

end Spreadsheet.Links
