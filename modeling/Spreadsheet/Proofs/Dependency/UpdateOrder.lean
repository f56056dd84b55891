import Mathlib.Data.List.Perm.Subperm
import Spreadsheet.Proofs.Dependency.Rows

/-! The order of evaluation after a change: every direct or indirect reader of the
changed cell once, and none before a cell that it reads from. The bounds on the number
of rounds are no restriction. -/

set_option autoImplicit false

namespace Spreadsheet.Links

open Relation

/-- An order for evaluating all that depends on the origin. -/
structure IsUpdateOrder (links : Links) (origin : String) (order : List String) : Prop where
  nodup : order.Nodup
  mem_iff : ∀ cell, cell ∈ order ↔ links.DependsOn cell origin
  sourcesFirst : ∀ before cell behind, order = before ++ cell :: behind →
    ∀ source, links.Reads cell source → source ∈ order → source ∈ before

/-! ### Collecting the dependents -/

section Reaching

variable {links : Links} {origin : String}

/-- What holds between two rounds: only dependents are reached, and a cell that is no
longer pending has all its readers reached. -/
structure Reaching (links : Links) (origin : String) (pending : List String)
    (reached : IdSet) : Prop where
  sound : ∀ cell ∈ reached, links.DependsOn cell origin
  known : ∀ cell ∈ pending, cell = origin ∨ cell ∈ reached
  closed : ∀ reader cell, links.Reads reader cell → cell = origin ∨ cell ∈ reached →
    cell ∈ pending ∨ reader ∈ reached

def unreached (links : Links) (reached : IdSet) : List String :=
  links.sources.keys.filter (· ∉ reached)

def freshReaders (links : Links) (reached : IdSet) (cell : String) : IdSet :=
  (links.readersOf cell).filter (· ∉ reached)

theorem mem_freshReaders (consistent : Consistent links) {reached : IdSet}
    {reader cell : String} :
    reader ∈ links.freshReaders reached cell ↔ links.Reads reader cell ∧ reader ∉ reached := by
  rw [freshReaders, IdSet.mem_filter, ← consistent.inverse, decide_eq_true_iff]
  rfl

theorem Reaching.start : Reaching links origin [origin] ∅ where
  sound cell member := absurd member (IdSet.not_mem_empty cell)
  known _ member := .inl (List.mem_singleton.1 member)
  closed _ cell _ here :=
    .inl (List.mem_singleton.2 (here.resolve_right (IdSet.not_mem_empty cell)))

theorem Reaching.round (consistent : Consistent links) {cell : String}
    {pending : List String} {reached : IdSet}
    (reaching : Reaching links origin (cell :: pending) reached) :
    Reaching links origin ((links.freshReaders reached cell).toList ++ pending)
      (reached.union (links.freshReaders reached cell)) where
  sound reader member := by
    rcases IdSet.mem_union.1 member with before | fresh
    · exact reaching.sound reader before
    · have reads := ((mem_freshReaders consistent).1 fresh).1
      rcases reaching.known cell List.mem_cons_self with rfl | between
      · exact .single reads
      · exact (reaching.sound cell between).head reads
  known other member := by
    rcases List.mem_append.1 member with fresh | waiting
    · exact .inr (IdSet.mem_union.2 (.inr fresh))
    · exact (reaching.known other (List.mem_cons_of_mem cell waiting)).imp_right
        fun before => IdSet.mem_union.2 (.inl before)
  closed reader other reads here := by
    have split : (other = origin ∨ other ∈ reached) ∨ other ∈ links.freshReaders reached cell := by
      rw [IdSet.mem_union] at here
      tauto
    rcases split with before | fresh
    · rcases reaching.closed reader other reads before with waiting | done
      · rcases List.mem_cons.1 waiting with rfl | later
        · by_cases done : reader ∈ reached
          · exact .inr (IdSet.mem_union.2 (.inl done))
          · exact .inr (IdSet.mem_union.2 (.inr ((mem_freshReaders consistent).2 ⟨reads, done⟩)))
        · exact .inl (List.mem_append_right _ later)
      · exact .inr (IdSet.mem_union.2 (.inl done))
    · exact .inl (List.mem_append_left _ fresh)

/-- What becomes pending in a round is unreached before and reached after it. -/
theorem length_unreached_round (consistent : Consistent links) (cell : String)
    (reached : IdSet) :
    (links.freshReaders reached cell).toList.length +
        (links.unreached (reached.union (links.freshReaders reached cell))).length ≤
      (links.unreached reached).length := by
  rw [← List.length_append]
  refine List.Nodup.length_le_of_subset ?_ ?_
  · refine List.nodup_append.2 ⟨IdSet.nodup_toList _, links.sources.nodup_keys.filter _, ?_⟩
    rintro reader fresh _ left rfl
    have outside := of_decide_eq_true (List.mem_filter.1 left).2
    exact outside (IdSet.mem_union.2 (.inr fresh))
  · intro reader member
    rcases List.mem_append.1 member with fresh | left
    · obtain ⟨reads, outside⟩ := (mem_freshReaders consistent).1 fresh
      exact List.mem_filter.2 ⟨reads.mem_keys, decide_eq_true outside⟩
    · obtain ⟨key, outside⟩ := List.mem_filter.1 left
      refine List.mem_filter.2 ⟨key, decide_eq_true fun before => ?_⟩
      exact of_decide_eq_true outside (IdSet.mem_union.2 (.inl before))

theorem Reaching.mem_iff_of_done {reached : IdSet}
    (reaching : Reaching links origin [] reached) (cell : String) :
    cell ∈ reached ↔ links.DependsOn cell origin := by
  refine ⟨reaching.sound cell, fun depends => ?_⟩
  induction depends using TransGen.head_induction_on with
  | single reads => exact (reaching.closed _ _ reads (.inl rfl)).resolve_left List.not_mem_nil
  | head reads _ ih => exact (reaching.closed _ _ reads (.inr ih)).resolve_left List.not_mem_nil

private theorem mem_reachFrom_iff (consistent : Consistent links) {rounds : Nat}
    {pending : List String} {reached : IdSet} (reaching : Reaching links origin pending reached)
    (room : pending.length + (links.unreached reached).length ≤ rounds) (cell : String) :
    cell ∈ links.reachFrom rounds pending reached ↔ links.DependsOn cell origin := by
  fun_induction links.reachFrom rounds pending reached with
  | case1 pending reached =>
      have done : pending = [] := List.length_eq_zero_iff.1 (by omega)
      exact (done ▸ reaching).mem_iff_of_done cell
  | case2 => exact reaching.mem_iff_of_done cell
  | case3 rounds here pending reached fresh ih =>
      have shrunk := length_unreached_round consistent here reached
      refine ih (reaching.round consistent) ?_
      change ((links.freshReaders reached here).toList ++ pending).length +
        (links.unreached (reached.union (links.freshReaders reached here))).length ≤ rounds
      rw [List.length_append]
      rw [List.length_cons] at room
      omega

theorem mem_dependents_iff (consistent : Consistent links) (acyclic : links.Acyclic)
    (cell : String) : cell ∈ links.dependents origin ↔ links.DependsOn cell origin := by
  have room : [origin].length + (links.unreached ∅).length ≤ links.sources.size + 1 := by
    have filtered := List.length_filter_le (fun reader => decide (reader ∉ (∅ : IdSet)))
      links.sources.keys
    rw [Table.length_keys] at filtered
    rw [List.length_singleton, unreached]
    omega
  rw [dependents, IdSet.mem_erase, mem_reachFrom_iff consistent .start room]
  refine ⟨And.left, fun depends => ⟨depends, ?_⟩⟩
  intro same
  subst same
  exact acyclic cell depends

end Reaching

/-! ### Placing the dependents -/

section Placing

variable {links : Links} {among : IdSet}

theorem ready_iff {placed : List String} {cell : String} :
    links.ready among placed cell = true ↔
      ∀ source, links.Reads cell source → source ∈ among → source ∈ placed := by
  simp only [ready, List.all_eq_true, Bool.or_eq_true, decide_eq_true_iff, List.contains_iff_mem]
  constructor
  · intro every source reads member
    exact (every source reads).resolve_left fun outside => outside member
  · intro every source reads
    by_cases member : source ∈ among
    · exact .inr (every source reads member)
    · exact .inl member

/-- What holds between two rounds: a placed cell stands behind its sources, and a cell
is next in line exactly if nothing that it reads from is left to place. -/
structure Placing (links : Links) (among : IdSet) (waiting placed : List String) :
    Prop where
  unique : (placed ++ waiting).Nodup
  within : ∀ cell ∈ placed ++ waiting, cell ∈ among
  sourcesFirst : ∀ before cell behind, placed = before ++ cell :: behind →
    ∀ source, links.Reads cell source → source ∈ among → source ∈ before
  ready : ∀ cell ∈ waiting, links.ready among placed cell = true
  complete : ∀ cell ∈ among, links.ready among placed cell = true → cell ∈ placed ++ waiting

/-- The cells that wait for the placed one last. -/
def released (links : Links) (among : IdSet) (placed : List String) (cell : String) :
    IdSet :=
  (links.readersOf cell).filter fun reader => reader ∈ among && links.ready among placed reader

theorem mem_released (consistent : Consistent links) {placed : List String}
    {reader cell : String} :
    reader ∈ links.released among placed cell ↔
      links.Reads reader cell ∧ reader ∈ among ∧ links.ready among placed reader = true := by
  rw [released, IdSet.mem_filter, ← consistent.inverse, Bool.and_eq_true, decide_eq_true_iff]
  rfl

private theorem ready_mono {placed : List String} {cell next : String}
    (ready : links.ready among placed cell = true) :
    links.ready among (placed ++ [next]) cell = true :=
  ready_iff.2 fun source reads member =>
    List.mem_append_left _ (ready_iff.1 ready source reads member)

private theorem Placing.ready_of_placed {waiting placed : List String}
    (placing : Placing links among waiting placed) {cell : String} (member : cell ∈ placed) :
    links.ready among placed cell = true := by
  obtain ⟨before, behind, split⟩ := List.append_of_mem member
  refine ready_iff.2 fun source reads inside => ?_
  rw [split]
  exact List.mem_append_left _ (placing.sourcesFirst before cell behind split source reads inside)

theorem Placing.start (links : Links) (among : IdSet) :
    Placing links among (among.filter (links.ready among [])).toList [] where
  unique := IdSet.nodup_toList _
  within cell member := (IdSet.mem_filter.1 member).1
  sourcesFirst before cell behind split := by simp at split
  ready cell member := (IdSet.mem_filter.1 member).2
  complete cell member ready := IdSet.mem_filter.2 ⟨member, ready⟩

private theorem Placing.not_mem_of_released (consistent : Consistent links)
    (acyclic : links.Acyclic) {cell : String} {waiting placed : List String}
    (placing : Placing links among (cell :: waiting) placed) {reader : String}
    (member : reader ∈ links.released among (placed ++ [cell]) cell) :
    reader ∉ (placed ++ [cell]) ++ waiting := by
  have reads := ((mem_released consistent).1 member).1
  have unplaced : cell ∉ placed := fun earlier =>
    (List.nodup_append.1 placing.unique).2.2 cell earlier cell List.mem_cons_self rfl
  have inside : cell ∈ among := placing.within cell (List.mem_append_right _ List.mem_cons_self)
  -- Before this round the cell was not placed, so its readers were not ready.
  intro present
  rw [List.append_assoc, List.singleton_append] at present
  rcases List.mem_append.1 present with earlier | later
  · exact unplaced (ready_iff.1 (placing.ready_of_placed earlier) cell reads inside)
  · rcases List.mem_cons.1 later with rfl | later
    · exact acyclic reader (.single reads)
    · have ready := placing.ready reader (List.mem_cons_of_mem cell later)
      exact unplaced (ready_iff.1 ready cell reads inside)

private theorem Placing.sourcesFirst_snoc {cell : String} {waiting placed : List String}
    (placing : Placing links among (cell :: waiting) placed) :
    ∀ before other behind, placed ++ [cell] = before ++ other :: behind →
      ∀ source, links.Reads other source → source ∈ among → source ∈ before := by
  intro before other behind split source reads inside
  rcases List.eq_nil_or_concat behind with rfl | ⟨behind, last, rfl⟩
  · obtain ⟨rfl, same⟩ := List.append_inj' split rfl
    cases same
    exact ready_iff.1 (placing.ready cell List.mem_cons_self) source reads inside
  · have inner : placed ++ [cell] = (before ++ other :: behind) ++ [last] := by
      rw [split, List.concat_eq_append, List.append_assoc, List.cons_append]
    exact placing.sourcesFirst before other behind (List.append_inj' inner rfl).1 source reads
      inside

theorem Placing.round (consistent : Consistent links) (acyclic : links.Acyclic)
    {cell : String} {waiting placed : List String}
    (placing : Placing links among (cell :: waiting) placed) :
    Placing links among (waiting ++ (links.released among (placed ++ [cell]) cell).toList)
      (placed ++ [cell]) where
  unique := by
    rw [← List.append_assoc]
    refine List.nodup_append.2 ⟨by simpa using placing.unique, IdSet.nodup_toList _, ?_⟩
    rintro reader present _ member rfl
    exact placing.not_mem_of_released consistent acyclic member present
  within other member := by
    rw [← List.append_assoc] at member
    rcases List.mem_append.1 member with old | fresh
    · exact placing.within other (by simpa using old)
    · exact ((mem_released consistent).1 fresh).2.1
  sourcesFirst := placing.sourcesFirst_snoc
  ready other member := by
    rcases List.mem_append.1 member with old | fresh
    · exact ready_mono (placing.ready other (List.mem_cons_of_mem cell old))
    · exact ((mem_released consistent).1 fresh).2.2
  complete other inside ready := by
    by_cases before : links.ready among placed other = true
    · have present := placing.complete other inside before
      simp only [List.mem_append, List.mem_cons] at present ⊢
      tauto
    · have reads : links.Reads other cell := by
        by_contra unread
        refine before (ready_iff.2 fun source reads member => ?_)
        rcases List.mem_append.1 (ready_iff.1 ready source reads member) with placed | last
        · exact placed
        · exact absurd (List.mem_singleton.1 last ▸ reads) unread
      have fresh := (mem_released consistent).2 ⟨reads, inside, ready⟩
      exact List.mem_append_right _ (List.mem_append_right _ fresh)

/-- With nobody in line, a cell that is not placed would read from another such cell,
and so on without end. -/
private theorem Placing.all_of_waiting_nil (acyclic : links.Acyclic) {placed : List String}
    (placing : Placing links among [] placed) (cell : String) (inside : cell ∈ among) :
    cell ∈ placed := by
  induction cell using acyclic.wellFounded.induction with
  | _ cell ih =>
      have ready := ready_iff.2 fun source reads member => ih source reads member
      simpa using placing.complete cell inside ready

/-- With as many places taken as there are cells, every cell is placed. -/
private theorem Placing.all_of_full {waiting placed : List String}
    (placing : Placing links among waiting placed) (full : among.size ≤ placed.length)
    (cell : String) (inside : cell ∈ among) : cell ∈ placed := by
  have unique := (List.nodup_append.1 placing.unique).1
  have included : placed ⊆ among.toList := fun other member =>
    placing.within other (List.mem_append_left _ member)
  exact ((unique.subperm included).perm_of_length_le full).mem_iff.2 inside

private theorem placeFrom_spec (consistent : Consistent links) (acyclic : links.Acyclic)
    {rounds : Nat} {waiting placed : List String}
    (placing : Placing links among waiting placed)
    (room : among.size ≤ placed.length + rounds) :
    (∃ remaining, Placing links among remaining (links.placeFrom among rounds waiting placed)) ∧
      ∀ cell ∈ among, cell ∈ links.placeFrom among rounds waiting placed := by
  fun_induction links.placeFrom among rounds waiting placed with
  | case1 waiting placed => exact ⟨⟨waiting, placing⟩, placing.all_of_full room⟩
  | case2 => exact ⟨⟨[], placing⟩, placing.all_of_waiting_nil acyclic⟩
  | case3 rounds cell waiting placed _ next ih =>
      refine ih (placing.round consistent acyclic) ?_
      rw [List.length_append, List.length_singleton]
      omega

theorem updateOrder_spec (consistent : Consistent links) (acyclic : links.Acyclic)
    (origin : String) : IsUpdateOrder links origin (links.updateOrder origin) := by
  have room : (links.dependents origin).size ≤
      ([] : List String).length + (links.dependents origin).size := Nat.le_add_left _ _
  obtain ⟨⟨remaining, placing⟩, all⟩ :=
    placeFrom_spec consistent acyclic (Placing.start links (links.dependents origin)) room
  have mem_iff : ∀ cell, cell ∈ links.updateOrder origin ↔ cell ∈ links.dependents origin :=
    fun cell => ⟨fun member => placing.within cell (List.mem_append_left _ member), all cell⟩
  refine ⟨(List.nodup_append.1 placing.unique).1, fun cell => ?_, ?_⟩
  · rw [mem_iff, mem_dependents_iff consistent acyclic]
  · intro before cell behind split source reads member
    exact placing.sourcesFirst before cell behind split source reads ((mem_iff source).1 member)

end Placing

end Spreadsheet.Links
