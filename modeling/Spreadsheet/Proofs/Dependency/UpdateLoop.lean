import Spreadsheet.Proofs.Dependency.Agreement
import Spreadsheet.Proofs.Dependency.Refinement
import Spreadsheet.Proofs.Dependency.UpdateOrder
import Spreadsheet.Proofs.Loop

/-! The update order from two loops without a bound: one finds the dependents, whatever the order
in which it visits the readers of a cell, and one counts for each of them the sources that are
left to place. -/

set_option autoImplicit false

namespace Spreadsheet.Links

/-! ### Finding the dependents -/

/-- The cells found so far, and those of them whose readers are not visited yet. -/
structure Finding where
  stack : List String
  found : IdSet

def Finding.meet (state : Finding) (reader : String) : Finding :=
  if reader ∈ state.found then state else ⟨reader :: state.stack, state.found.insert reader⟩

/-- Visits the readers of the cell on top of the stack. -/
def Finding.round (visit : String → List String) : Finding → Finding ⊕ IdSet
  | ⟨[], found⟩ => .inr found
  | ⟨cell :: stack, found⟩ => .inl ((visit cell).foldl Finding.meet ⟨stack, found⟩)

/-- A visit meets every reader of a cell once, in some order. -/
def VisitsReaders (links : Links) (visit : String → List String) : Prop :=
  ∀ cell, (visit cell).Perm (links.readersOf cell).toList

section Finding

variable {links : Links} {origin : String} {visit : String → List String}

private theorem foldl_meet {readers : List String} (unique : readers.Nodup) (state : Finding) :
    (readers.foldl Finding.meet state).stack =
        (readers.filter (· ∉ state.found)).reverse ++ state.stack ∧
      ∀ cell, cell ∈ (readers.foldl Finding.meet state).found ↔
        cell ∈ state.found ∨ cell ∈ readers := by
  induction readers generalizing state with
  | nil => simp
  | cons reader rest ih =>
      obtain ⟨absent, unique⟩ := List.nodup_cons.1 unique
      obtain ⟨stack, found⟩ := ih unique (state.meet reader)
      rw [List.foldl_cons, stack]
      by_cases known : reader ∈ state.found
      · have same : state.meet reader = state := if_pos known
        refine ⟨by rw [same, List.filter_cons_of_neg (by simpa using known)], fun cell => ?_⟩
        rw [found, same, List.mem_cons]
        have : cell = reader → cell ∈ state.found := fun equal => equal ▸ known
        tauto
      · have taken : state.meet reader = ⟨reader :: state.stack, state.found.insert reader⟩ :=
          if_neg known
        refine ⟨?_, fun cell => ?_⟩
        · have others : rest.filter (· ∉ state.found.insert reader) =
              rest.filter (· ∉ state.found) := by
            refine List.filter_congr fun other member => ?_
            have different : other ≠ reader := fun same => absent (same ▸ member)
            simp [different]
          rw [taken, others, List.filter_cons_of_pos (by simpa using known), List.reverse_cons,
            List.append_assoc, List.singleton_append]
        · rw [found, taken, IdSet.mem_insert, List.mem_cons]
          tauto

/-- A round takes in the readers that were not found before, whatever their order. -/
private theorem round_finding (visits : VisitsReaders links visit) (cell : String)
    (stack : List String) (found : IdSet) :
    ∃ next : List String, Finding.round visit ⟨cell :: stack, found⟩ =
        .inl ⟨next, found.union (links.freshReaders found cell)⟩ ∧
      next.Perm ((links.freshReaders found cell).toList ++ stack) := by
  have unique : (visit cell).Nodup := (visits cell).nodup_iff.2 (IdSet.nodup_toList _)
  obtain ⟨pushed, members⟩ := foldl_meet unique ⟨stack, found⟩
  have union : ((visit cell).foldl Finding.meet ⟨stack, found⟩).found =
      found.union (links.freshReaders found cell) := by
    refine IdSet.ext fun other => ?_
    rw [members, IdSet.mem_union, freshReaders, IdSet.mem_filter, decide_eq_true_iff,
      (visits cell).mem_iff, IdSet.mem_toList]
    tauto
  refine ⟨_, congrArg Sum.inl (congrArg (Finding.mk _) union), ?_⟩
  rw [pushed]
  exact ((List.reverse_perm _).trans ((visits cell).filter _)).append_right stack

private theorem Reaching.of_perm {pending others : List String} {reached : IdSet}
    (reaching : Reaching links origin pending reached) (perm : others.Perm pending) :
    Reaching links origin others reached where
  sound := reaching.sound
  known cell member := reaching.known cell (perm.mem_iff.1 member)
  closed reader cell reads here := (reaching.closed reader cell reads here).imp_left perm.mem_iff.2

/-- Each round takes one cell from the stack, and none comes on it twice. -/
private theorem ends_finding (consistent : Consistent links) (visits : VisitsReaders links visit)
    {bound : Nat} {stack : List String} {found : IdSet}
    (reaching : Reaching links origin stack found)
    (room : stack.length + (links.unreached found).length ≤ bound) :
    ∃ all, Ends (Finding.round visit) ⟨stack, found⟩ all ∧
      ∀ cell, cell ∈ all ↔ links.DependsOn cell origin := by
  induction bound generalizing stack found with
  | zero =>
      obtain rfl : stack = [] := List.length_eq_zero_iff.1 (by omega)
      exact ⟨found, .stop rfl, reaching.mem_iff_of_done⟩
  | succ bound ih =>
      cases stack with
      | nil => exact ⟨found, .stop rfl, reaching.mem_iff_of_done⟩
      | cons cell stack =>
          obtain ⟨next, goes, perm⟩ := round_finding visits cell stack found
          have shrunk := length_unreached_round consistent cell found
          have length := perm.length_eq
          rw [List.length_append] at length
          rw [List.length_cons] at room
          obtain ⟨all, ends, exact⟩ := ih ((reaching.round consistent).of_perm perm) (by omega)
          exact ⟨all, .again goes ends, exact⟩

end Finding

/-! ### Counting down the sources -/

/-- How many sources of each dependent are left to place, who is next in line, and the cells
placed. -/
structure Countdown where
  left : String → Int
  queue : List String
  placed : List String

def Countdown.tick (among : IdSet) (state : Countdown) (reader : String) : Countdown :=
  if reader ∈ among then
    ⟨Function.update state.left reader (state.left reader - 1),
      if state.left reader - 1 = 0 then state.queue ++ [reader] else state.queue, state.placed⟩
  else state

/-- Places the next cell, and counts down for each dependent that reads from it. -/
def Countdown.round (links : Links) (among : IdSet) : Countdown → Countdown ⊕ List String
  | ⟨_, [], placed⟩ => .inr placed
  | ⟨left, cell :: queue, placed⟩ =>
    .inl ((links.readersOf cell).toList.foldl (Countdown.tick among) ⟨left, queue, placed ++ [cell]⟩)

def Countdown.start (links : Links) (among : IdSet) : Countdown :=
  let left (cell : String) : Int := ((links.sourcesOf cell).filter (· ∈ among)).size
  ⟨left, (among.filter (left · = 0)).toList, []⟩

section Countdown

variable {links : Links} {among : IdSet} {waiting placed : List String} {cell : String}

/-- The number of sources in the set that are not placed yet. -/
private def unplaced (links : Links) (among : IdSet) (placed : List String) (cell : String) : Nat :=
  (links.sourcesOf cell).toList.countP fun source => source ∈ among && !placed.contains source

private theorem unplaced_eq_zero_iff (links : Links) (among : IdSet) (placed : List String)
    (cell : String) :
    links.unplaced among placed cell = 0 ↔ links.ready among placed cell = true := by
  simp only [unplaced, List.countP_eq_zero, ready, List.all_eq_true]
  refine forall₂_congr fun source _ => ?_
  by_cases inside : source ∈ among <;> simp [inside]

private theorem unplaced_snoc_of_not_reads {next : String} (unread : ¬ links.Reads cell next) :
    links.unplaced among (placed ++ [next]) cell = links.unplaced among placed cell := by
  refine List.countP_congr fun source member => ?_
  have different : source ≠ next := fun same => unread (same ▸ member)
  simp [different]

private theorem unplaced_snoc_of_reads {next : String} (reads : links.Reads cell next)
    (inside : next ∈ among) (fresh : next ∉ placed) :
    links.unplaced among (placed ++ [next]) cell + 1 = links.unplaced among placed cell := by
  -- The placed source apart, both counts go over the same sources.
  have apart := List.perm_cons_erase (show next ∈ (links.sourcesOf cell).toList from reads)
  have absent : next ∉ (links.sourcesOf cell).toList.erase next :=
    (IdSet.nodup_toList _).not_mem_erase
  rw [unplaced, unplaced, apart.countP_eq, apart.countP_eq, List.countP_cons_of_neg (by simp),
    List.countP_cons_of_pos (by simp [inside, fresh])]
  congr 1
  refine List.countP_congr fun source member => ?_
  have different : source ≠ next := fun same => absent (same ▸ member)
  simp [different]

private theorem foldl_tick (among : IdSet) {readers : List String} (unique : readers.Nodup)
    (state : Countdown) :
    (∀ cell, (readers.foldl (Countdown.tick among) state).left cell =
        if cell ∈ readers ∧ cell ∈ among then state.left cell - 1 else state.left cell) ∧
      (readers.foldl (Countdown.tick among) state).queue = state.queue ++
        readers.filter (fun reader => reader ∈ among && state.left reader - 1 = 0) ∧
      (readers.foldl (Countdown.tick among) state).placed = state.placed := by
  induction readers generalizing state with
  | nil => simp
  | cons reader rest ih =>
      obtain ⟨absent, unique⟩ := List.nodup_cons.1 unique
      obtain ⟨left, queue, placed⟩ := ih unique (state.tick among reader)
      rw [List.foldl_cons]
      by_cases inside : reader ∈ among
      · have ticked : state.tick among reader = ⟨Function.update state.left reader
            (state.left reader - 1), if state.left reader - 1 = 0 then state.queue ++ [reader]
              else state.queue, state.placed⟩ := if_pos inside
        refine ⟨fun cell => ?_, ?_, by rw [placed, ticked]⟩
        · rw [left, ticked]
          by_cases same : cell = reader
          · subst cell
            simp [absent, inside]
          · simp [same]
        · have others : rest.filter (fun other => other ∈ among &&
              (state.tick among reader).left other - 1 = 0) =
                rest.filter fun other => other ∈ among && state.left other - 1 = 0 := by
            refine List.filter_congr fun other member => ?_
            have different : other ≠ reader := fun same => absent (same ▸ member)
            simp [ticked, different]
          rw [queue, others, ticked, List.filter_cons]
          by_cases last : state.left reader - 1 = 0 <;> simp [inside, last]
      · have ticked : state.tick among reader = state := if_neg inside
        rw [ticked] at left queue placed ⊢
        refine ⟨fun cell => ?_, ?_, placed⟩
        · rw [left]
          have : cell = reader → cell ∉ among := fun same => same ▸ inside
          grind
        · rw [queue, List.filter_cons_of_neg (by simp [inside])]

/-- The counts tell for each dependent how many of its sources are left to place. -/
private def Counts (links : Links) (among : IdSet) (placed : List String) (left : String → Int) :
    Prop :=
  ∀ cell ∈ among, left cell = links.unplaced among placed cell

/-- A count comes to zero exactly where the reader's last source is placed. -/
private theorem round_countdown (consistent : Consistent links) {left : String → Int}
    (counts : Counts links among placed left)
    (placing : Placing links among (cell :: waiting) placed) :
    ∃ fewer, Countdown.round links among ⟨left, cell :: waiting, placed⟩ =
        .inl ⟨fewer, waiting ++ (links.released among (placed ++ [cell]) cell).toList,
          placed ++ [cell]⟩ ∧
      Counts links among (placed ++ [cell]) fewer := by
  have inside : cell ∈ among := placing.within cell (List.mem_append_right _ List.mem_cons_self)
  have fresh : cell ∉ placed := fun earlier =>
    (List.nodup_append.1 placing.unique).2.2 cell earlier cell List.mem_cons_self rfl
  have reduced : ∀ reader ∈ (links.readersOf cell).toList, reader ∈ among →
      left reader - 1 = links.unplaced among (placed ++ [cell]) reader := by
    intro reader member dependent
    have reads : links.Reads reader cell := (consistent.inverse reader cell).2 member
    have one : links.unplaced among (placed ++ [cell]) reader + 1 =
        links.unplaced among placed reader := unplaced_snoc_of_reads reads inside fresh
    rw [counts reader dependent]
    omega
  obtain ⟨fewer, queue, same⟩ := foldl_tick among (IdSet.nodup_toList (links.readersOf cell))
    ⟨left, waiting, placed ++ [cell]⟩
  refine ⟨_, congrArg Sum.inl (congrArg₂ (Countdown.mk _) ?_ same), fun reader dependent => ?_⟩
  · rw [queue]
    refine congrArg (waiting ++ ·) (List.filter_congr fun reader member => ?_)
    by_cases dependent : reader ∈ among
    · have zero := unplaced_eq_zero_iff links among (placed ++ [cell]) reader
      simp only [reduced reader member dependent, dependent, decide_true, Bool.true_and]
      rw [Bool.eq_iff_iff, decide_eq_true_iff, ← zero]
      omega
    · simp [dependent]
  · rw [fewer]
    by_cases member : reader ∈ (links.readersOf cell).toList
    · rw [if_pos ⟨member, dependent⟩, reduced reader member dependent]
    · have unread : ¬ links.Reads reader cell := fun reads =>
        member ((consistent.inverse reader cell).1 reads)
      rw [if_neg fun both => member both.1, unplaced_snoc_of_not_reads unread]
      exact counts reader dependent

private theorem ends_countdown (consistent : Consistent links) (acyclic : links.Acyclic)
    {rounds : Nat} {left : String → Int} (counts : Counts links among placed left)
    (placing : Placing links among waiting placed)
    (room : among.size ≤ placed.length + rounds) :
    Ends (Countdown.round links among) ⟨left, waiting, placed⟩
      (links.placeFrom among rounds waiting placed) := by
  induction rounds generalizing left waiting placed with
  | zero =>
      -- Every cell is placed, so none is left to wait.
      have short : (placed ++ waiting).length ≤ among.size :=
        placing.unique.length_le_of_subset placing.within
      rw [List.length_append] at short
      obtain rfl : waiting = [] := List.length_eq_zero_iff.1 (by omega)
      exact .stop rfl
  | succ rounds ih =>
      cases waiting with
      | nil => exact .stop rfl
      | cons cell waiting =>
          obtain ⟨fewer, goes, counts⟩ := round_countdown consistent counts placing
          refine .again goes (ih counts (placing.round consistent acyclic) ?_)
          rw [List.length_append, List.length_singleton]
          omega

private theorem counts_start (links : Links) (among : IdSet) :
    Counts links among [] (Countdown.start links among).left := by
  intro cell _
  simp only [Countdown.start, unplaced, IdSet.size, IdSet.filter, List.countP_eq_length_filter,
    List.contains_nil, Bool.not_false, Bool.and_true]

private theorem queue_start (links : Links) (among : IdSet) :
    (Countdown.start links among).queue = (among.filter (links.ready among [])).toList := by
  refine List.filter_congr fun cell member => ?_
  have zero := unplaced_eq_zero_iff links among [] cell
  rw [Bool.eq_iff_iff, decide_eq_true_iff, ← zero]
  change (Countdown.start links among).left cell = 0 ↔ _
  rw [counts_start links among cell member]
  omega

end Countdown

/-! ### Both loops -/

section Updates

variable {links : Links} {visit : String → List String}

/-- The two loops one after the other end with the order. -/
def Updates (links : Links) (visit : String → List String) (origin : String)
    (order : List String) : Prop :=
  ∃ found, Ends (Finding.round visit) ⟨[origin], ∅⟩ found ∧
    Ends (Countdown.round links (found.erase origin))
      (Countdown.start links (found.erase origin)) order

theorem updates_iff (consistent : Consistent links) (acyclic : links.Acyclic)
    (visits : VisitsReaders links visit) (origin : String) (order : List String) :
    Updates links visit origin order ↔ order = links.updateOrder origin := by
  obtain ⟨found, finds, exact⟩ := ends_finding consistent visits .start (Nat.le_refl _)
  have among : found.erase origin = links.dependents origin := by
    refine IdSet.ext fun cell => ?_
    rw [IdSet.mem_erase, exact, mem_dependents_iff consistent acyclic]
    refine ⟨And.left, fun depends => ⟨depends, ?_⟩⟩
    rintro rfl
    exact acyclic cell depends
  have places : Ends (Countdown.round links (found.erase origin))
      (Countdown.start links (found.erase origin)) (links.updateOrder origin) := by
    rw [among]
    have start : Countdown.start links (links.dependents origin) =
        ⟨(Countdown.start links (links.dependents origin)).left, ((links.dependents origin).filter
          (links.ready (links.dependents origin) [])).toList, []⟩ := by
      rw [← queue_start]
      rfl
    rw [start]
    exact ends_countdown consistent acyclic (counts_start _ _) (Placing.start _ _)
      (Nat.le_add_left _ _)
  constructor
  · rintro ⟨other, findsOther, ends⟩
    obtain rfl := finds.unique findsOther
    exact ends.unique places
  · rintro rfl
    exact ⟨found, finds, places⟩

end Updates

/-- After any changes the loops end, for any origin and any order of visits, with the update
order: every dependent of the origin once, behind the dependents that it reads from, and not the
origin. Links with the same rows have the same update order. -/
theorem updateOrder_exact :
    (∀ (changes : List RowChange) (origin : String) (visit : String → List String),
      VisitsReaders (ofChanges changes) visit →
        (∀ order, Updates (ofChanges changes) visit origin order ↔
          order = (ofChanges changes).updateOrder origin) ∧
        IsUpdateOrder (ofChanges changes) origin ((ofChanges changes).updateOrder origin) ∧
        origin ∉ (ofChanges changes).updateOrder origin) ∧
      ∀ first second : Links, SameRows first second →
        ∀ origin, first.updateOrder origin = second.updateOrder origin := by
  refine ⟨fun changes origin visit visits => ?_, fun first second same => same.updateOrder_eq⟩
  have represents := (represents_ofChanges changes).1
  have isOrder := updateOrder_spec represents.consistent represents.linksAcyclic origin
  exact ⟨updates_iff represents.consistent represents.linksAcyclic visits origin, isOrder,
    fun member => represents.linksAcyclic origin ((isOrder.mem_iff origin).1 member)⟩

/-- One cell reads from another in two ways. -/
def twoWays : List RowChange :=
  [.add "B1" (IdSet.ofList ["A1"]), .add "C1" (IdSet.ofList ["A1"]),
    .add "D1" (IdSet.ofList ["B1", "C1"])]

theorem updates_twoWays :
    Updates (ofChanges twoWays) (fun cell => ((ofChanges twoWays).readersOf cell).toList.reverse)
        "A1" ["B1", "C1", "D1"] ∧
      (ofChanges twoWays.reverse).updateOrder "A1" = ["B1", "C1", "D1"] := by
  have order : (ofChanges twoWays).updateOrder "A1" = ["B1", "C1", "D1"] := by decide +kernel
  have sources : (ofChanges twoWays).sources.rows.Perm
      (ofChanges twoWays.reverse).sources.rows := by
    decide +kernel
  have readers : (ofChanges twoWays).readers.rows.Perm
      (ofChanges twoWays.reverse).readers.rows := by
    decide +kernel
  have same : SameRows (ofChanges twoWays) (ofChanges twoWays.reverse) := fun cell =>
    ⟨Table.lookup_eq_of_perm sources (ofChanges twoWays).sources.nodup cell,
      Table.lookup_eq_of_perm readers (ofChanges twoWays).readers.nodup cell⟩
  have exact := updateOrder_exact.1 twoWays "A1" _ fun cell => List.reverse_perm _
  exact ⟨(exact.1 _).2 order.symm, (updateOrder_exact.2 _ _ same "A1").symm.trans order⟩

end Spreadsheet.Links
