import Mathlib.Data.List.Basic
import Spreadsheet.Proofs.Collection.Table
import Spreadsheet.Proofs.Json.Depth
import Spreadsheet.Proofs.Json.Number
import Spreadsheet.Proofs.Json.Reader
import Spreadsheet.Proofs.Json.Text
import Spreadsheet.Proofs.Text.Letters

/-! What is written of a value is read as the value again, with `null` for every double that is
not finite and with the members of objects in the order of their keys. -/

set_option autoImplicit false

namespace Spreadsheet.Json

/-! ### Values -/

/-- Wherever a value may begin and is not too deep, the text of this one is taken in. -/
def Readable (levels : Nat) (value : Json) : Prop :=
  ∀ ⦃goal : Json Letters⦄ ⦃state : ReadState⦄ ⦃outer : List Frame⦄ ⦃rest : List Char⦄,
    Awaits levels state outer → outer.length + value.depth ≤ levels → Stops rest →
      Reads levels goal (.complete value.asRead outer) rest →
        Reads levels goal state (render value ++ rest)

section Values

variable {levels : Nat} {goal : Json Letters} {state : ReadState} {outer : List Frame}
  {rest : List Char}

theorem readable_of_scalar {value : Json} {c : Char} {text : List Char}
    (written : render value = c :: text) (visible : isBlank c = false)
    (scanned : ∀ rest, Stops rest →
      Token.scan? (c :: text ++ rest) = some (.scalar value.asRead, rest)) :
    Readable levels value := by
  intro goal state outer rest awaits _ stops reads
  rw [written]
  exact .token visible (scanned rest stops) (awaits _ nofun) reads

theorem reads_text (s : String) {next : ReadState}
    (stepped : state.step levels (.text (.ofText s)) = .ok next)
    (reads : Reads levels goal next rest) : Reads levels goal state (renderString s ++ rest) :=
  @Reads.token levels goal state next (.text (.ofText s)) '"'
    (s.toList.flatMap escapeChar ++ ['"']) rest rfl (scan?_renderString s rest) stepped reads

theorem readable_of_number {value : Json} {c : Char} {text : List Char}
    (written : render value = c :: text) (begins : c = '-' ∨ isDigit c = true)
    (scanned : ∀ rest, Stops rest →
      Token.scan? (render value ++ rest) = some (.scalar value.asRead, rest)) :
    Readable levels value := by
  have visible : isBlank c = false := by
    rw [← Bool.not_eq_true]
    intro blank
    simp only [isBlank, Bool.or_eq_true, beq_iff_eq] at blank
    rcases begins with rfl | digit
    · simp at blank
    · rcases blank with ((rfl | rfl) | rfl) | rfl <;> cases digit
  exact readable_of_scalar written visible (written ▸ scanned)

private theorem readable_int {n : Int}
    (short : (Text.decimal n.natAbs).length ≤ Integer.maxDigits) :
    Readable levels (.int n) := by
  obtain ⟨first, digits, shape⟩ := List.exists_cons_of_ne_nil
    (show renderInt n ≠ [] by simp [renderInt, Text.decimal, Nat.toDigits_ne_nil])
  refine readable_of_number shape ?_ fun rest stops => scan?_renderInt stops short
  have member : first ∈ renderInt n := shape ▸ List.mem_cons_self
  rw [renderInt, List.mem_append] at member
  rcases member with sign | digit
  · split at sign <;> simp_all
  · exact .inr (isDigit_of_mem_decimal digit)

private theorem readable_float {x : Double} (finite : x.isFinite = true) :
    Readable levels (.float x) := by
  obtain ⟨n, formed, strict, text, value⟩ := x.exists_numeral_text finite
  obtain ⟨first, digits, shape, ascii⟩ := strict.text_eq_cons
  have written : render (.float x) = (if x.negative then ['-'] else []) ++ first :: digits := by
    rw [render, renderFloat_of_finite finite, text, shape]
  have scanned := fun rest (stops : Stops rest) => scan?_renderFloat stops finite
  cases negative : x.negative with
  | true =>
      rw [negative] at written
      exact readable_of_number written (.inl rfl) scanned
  | false =>
      rw [negative] at written
      exact readable_of_number written (.inr (isDigit_eq first ▸ ascii)) scanned

/-- The items behind the first one, which are taken in one after the other. -/
theorem reads_items {items : List Json} (readable : ∀ item ∈ items, Readable levels item)
    (room : ∀ item ∈ items, outer.length + 1 + item.depth ≤ levels)
    {taken : List (Json Letters)} {value : Json Letters}
    (reads : Reads levels goal
      (.complete (.array (taken.reverse ++ value :: items.map asRead)) outer) rest) :
    Reads levels goal (.complete value (.array taken :: outer))
      ((items.map render).flatMap (fun text => ',' :: ' ' :: text) ++ ']' :: rest) := by
  induction items generalizing taken value with
  | nil =>
      refine .single rfl rfl rfl ?_
      rwa [List.reverse_cons]
  | cons item items ih =>
      rw [List.forall_mem_cons] at readable room
      rw [List.map_cons, List.flatMap_cons, List.append_assoc, List.cons_append,
        List.cons_append]
      refine .single rfl rfl rfl (.blank rfl
        (readable.1 (awaits_nextValue levels _) room.1 ?_ ?_))
      · cases items with
        | nil => exact stops_of_head (.inr (.inl rfl))
        | cons => exact stops_of_head (.inl rfl)
      · refine ih readable.2 room.2 ?_
        rwa [List.reverse_cons, List.append_assoc]

private theorem readable_array {items : List Json}
    (readable : ∀ item ∈ items, Readable levels item) :
    Readable levels (.array items) := by
  intro goal state outer rest awaits shallow stops reads
  have room : ∀ item ∈ items, outer.length + 1 + item.depth ≤ levels := by
    intro item among
    have inside := depth_lt_of_mem_items among
    omega
  rw [render, renderItems_eq, List.append_assoc, List.cons_append, List.singleton_append]
  rw [asRead_array] at reads
  refine .single rfl rfl (awaits.open_array (Nat.lt_of_lt_of_le
    (Nat.lt_add_of_pos_right (depth_pos _)) shallow)) ?_
  cases items with
  | nil => exact .single rfl rfl rfl reads
  | cons item items =>
      rw [List.forall_mem_cons] at readable room
      rw [List.map_cons, commaSeparated_cons, List.append_assoc]
      refine readable.1 (awaits_firstItem levels outer) room.1 ?_
        (reads_items readable.2 room.2 reads)
      cases items with
      | nil => exact stops_of_head (.inr (.inl rfl))
      | cons => exact stops_of_head (.inl rfl)

private theorem reads_members {members : List (String × Json)}
    (readable : ∀ member ∈ members, Readable levels member.2)
    (room : ∀ member ∈ members, outer.length + 1 + member.2.depth ≤ levels)
    {taken : List (Letters × Json Letters)} {key : Letters} {value : Json Letters}
    (nodup : (taken.map Prod.fst ++ key :: members.map fun member =>
      Letters.ofText member.1).Nodup)
    (reads : Reads levels goal (.complete (.object (taken ++ (key, value) ::
      members.map fun member => (.ofText member.1, asRead member.2))) outer) rest) :
    Reads levels goal (.complete value (.object taken key :: outer))
      ((members.map memberText).flatMap (fun text => ',' :: ' ' :: text) ++ '\x7d' :: rest) := by
  have absent : key ∉ taken.map Prod.fst := by
    rw [List.nodup_append] at nodup
    exact fun member => nodup.2.2 key member key List.mem_cons_self rfl
  have added : setMember taken key value = taken ++ [(key, value)] :=
    Table.setRow_of_not_mem absent value
  induction members generalizing taken key value with
  | nil =>
      refine .single rfl rfl rfl ?_
      rwa [added]
  | cons member members ih =>
      rw [List.forall_mem_cons] at readable room
      rw [List.map_cons, List.flatMap_cons, List.append_assoc, List.cons_append,
        List.cons_append, memberText, List.append_assoc, List.cons_append, List.cons_append]
      refine .single rfl rfl rfl (.blank rfl (reads_text _ rfl ?_))
      refine .single rfl rfl rfl (.blank rfl
        (readable.1 (awaits_nextValue levels _) room.1 ?_ ?_))
      · cases members with
        | nil => exact stops_of_head (.inr (.inr rfl))
        | cons => exact stops_of_head (.inl rfl)
      · rw [added]
        have apart : ((taken ++ [(key, value)]).map Prod.fst ++ Letters.ofText member.1 ::
            members.map fun member => Letters.ofText member.1).Nodup := by
          rwa [List.map_append, List.append_assoc]
        have absent : Letters.ofText member.1 ∉ (taken ++ [(key, value)]).map Prod.fst := by
          rw [List.nodup_append] at apart
          exact fun inside => apart.2.2 _ inside _ List.mem_cons_self rfl
        refine ih readable.2 room.2 apart ?_ absent (Table.setRow_of_not_mem absent _)
        rwa [List.append_assoc]

private theorem readable_object {members : List (String × Json)}
    (nodup : (members.map Prod.fst).Nodup)
    (readable : ∀ member ∈ members, Readable levels member.2) :
    Readable levels (.object members) := by
  intro goal state outer rest awaits shallow stops reads
  have permuted := sortByKey_perm members
  have nodup : ((sortByKey members).map fun member => Letters.ofText member.1).Nodup := by
    have distinct := ((permuted.map Prod.fst).nodup_iff.2 nodup).map Letters.ofText_injective
    rwa [List.map_map] at distinct
  have readable : ∀ member ∈ sortByKey members, Readable levels member.2 :=
    fun member inside => readable member (permuted.mem_iff.1 inside)
  have room : ∀ member ∈ sortByKey members, outer.length + 1 + member.2.depth ≤ levels := by
    intro member among
    have inside := depth_lt_of_mem_members (permuted.mem_iff.1 among)
    omega
  rw [render_object, List.append_assoc, List.cons_append, List.singleton_append]
  rw [asRead_object] at reads
  refine .single rfl rfl (awaits.open_object (Nat.lt_of_lt_of_le
    (Nat.lt_add_of_pos_right (depth_pos _)) shallow)) ?_
  generalize sortByKey members = rows at nodup readable room reads
  cases rows with
  | nil => exact .single rfl rfl rfl reads
  | cons member rows =>
      rw [List.forall_mem_cons] at readable room
      rw [List.map_cons, commaSeparated_cons, memberText, List.append_assoc, List.append_assoc,
        List.cons_append, List.cons_append]
      refine reads_text _ rfl (.single rfl rfl rfl (.blank rfl ?_))
      refine readable.1 (awaits_nextValue levels _) room.1 ?_
        (reads_members readable.2 room.2 nodup reads)
      cases rows with
      | nil => exact stops_of_head (.inr (.inr rfl))
      | cons => exact stops_of_head (.inl rfl)

theorem readable_null : Readable levels .null := readable_of_scalar rfl rfl fun _ _ => rfl

theorem Writable.readable {value : Json} (writable : Writable value) :
    Readable levels value.finite := by
  induction writable with
  | null => exact readable_null
  | bool value =>
      cases value with
      | false => exact readable_of_scalar rfl rfl fun rest _ => rfl
      | true => exact readable_of_scalar rfl rfl fun rest _ => rfl
  | int short => exact readable_int short
  | float value =>
      rcases finite_float value with none | ⟨same, finite⟩
      · exact none ▸ readable_null
      · rw [same]
        exact readable_float finite
  | string value =>
      intro goal state outer rest awaits _ _ reads
      exact reads_text value (awaits _ nofun) reads
  | array _ readable =>
      rw [finite, finiteItems_eq]
      exact readable_array (List.forall_mem_map.2 readable)
  | object nodup _ readable =>
      rw [finite, finiteMembers_eq]
      refine readable_object ?_ (List.forall_mem_map.2 readable)
      rwa [List.map_map]

theorem Writable.read_render {value : Json} (writable : Writable value)
    (shallow : value.depth ≤ levels) :
    read levels (render value.finite) = .ok value.finite.asRead := by
  have reads : Reads levels value.finite.asRead (.nextValue []) (render value.finite ++ []) := by
    refine writable.readable (awaits_nextValue levels []) ?_ stops_nil .done
    rwa [List.length_nil, Nat.zero_add, writable.depth_finite]
  rw [List.append_nil] at reads
  exact reads.read_eq

/-! ### The characters that are written -/

private theorem printable_commaSeparated {texts : List (List Char)}
    (printable : ∀ text ∈ texts, ∀ c ∈ text, Printable c) :
    ∀ c ∈ commaSeparated texts, Printable c := by
  cases texts with
  | nil => exact nofun
  | cons first others =>
      rw [List.forall_mem_cons] at printable
      rw [commaSeparated_cons]
      intro c member
      rw [List.mem_append, List.mem_flatMap] at member
      rcases member with here | ⟨text, among, inside⟩
      · exact printable.1 c here
      · rcases List.mem_cons.1 inside with rfl | inside
        · decide
        · rcases List.mem_cons.1 inside with rfl | inside
          · decide
          · exact printable.2 text among c inside

theorem printable_of_isDigit {c : Char} (digit : isDigit c = true) : Printable c := by
  simp only [isDigit, Bool.and_eq_true, decide_eq_true_eq, Char.le_def,
    UInt32.le_iff_toNat_le] at digit
  exact printable_iff.2 ⟨Nat.le_trans (by decide) digit.1, Nat.le_trans digit.2 (by decide)⟩

private theorem printable_renderInt (n : Int) : ∀ c ∈ renderInt n, Printable c := by
  intro c member
  rw [renderInt, List.mem_append] at member
  rcases member with sign | digit
  · have sign : c = '-' := by split at sign <;> simp_all
    exact sign ▸ by decide
  · exact printable_of_isDigit (isDigit_of_mem_decimal digit)

private theorem printable_renderFloat {x : Double} (finite : x.isFinite = true) :
    ∀ c ∈ renderFloat x, Printable c := by
  obtain ⟨n, formed, strict, text, value⟩ := x.exists_numeral_text finite
  intro c member
  rw [renderFloat_of_finite finite, text, List.mem_append] at member
  rcases member with sign | member
  · have sign : c = '-' := by split at sign <;> simp_all
    exact sign ▸ by decide
  · rcases strict.ascii_or_sign formed member with digit | sign
    · exact printable_of_isDigit (isDigit_eq c ▸ digit)
    · simp only [List.mem_cons, List.not_mem_nil, or_false] at sign
      rcases sign with rfl | rfl | rfl | rfl | rfl <;> decide

theorem Writable.printable {value : Json} (writable : Writable value) :
    ∀ c ∈ render value.finite, Printable c := by
  have between : ∀ {opens closes : Char} {texts : List (List Char)}, Printable opens →
      Printable closes → (∀ text ∈ texts, ∀ c ∈ text, Printable c) →
      ∀ c ∈ opens :: commaSeparated texts ++ [closes], Printable c := by
    intro opens closes texts first last inside c member
    rw [List.cons_append, List.mem_cons, List.mem_append, List.mem_singleton] at member
    rcases member with rfl | member | rfl
    · exact first
    · exact printable_commaSeparated inside c member
    · exact last
  have word : ∀ c ∈ "null".toList, Printable c := by simp [Printable]
  induction writable with
  | null => exact word
  | bool value => cases value <;> simp [finite, render, Printable]
  | int short => exact printable_renderInt _
  | float value =>
      rcases finite_float value with none | ⟨same, finite⟩
      · exact none ▸ word
      · rw [same]
        exact printable_renderFloat finite
  | string value => exact printable_renderString value
  | array _ printable =>
      rw [finite, finiteItems_eq, render, renderItems_eq]
      refine between (by decide) (by decide) fun text member => ?_
      obtain ⟨_, shown, rfl⟩ := List.mem_map.1 member
      obtain ⟨item, among, rfl⟩ := List.mem_map.1 shown
      exact printable item among
  | @object members _ _ printable =>
      rw [finite, finiteMembers_eq, render_object]
      refine between (by decide) (by decide) fun text member c inside => ?_
      obtain ⟨_, shown, rfl⟩ := List.mem_map.1 member
      obtain ⟨row, among, rfl⟩ := List.mem_map.1 ((sortByKey_perm _).mem_iff.1 shown)
      rw [memberText, List.mem_append] at inside
      rcases inside with key | inside
      · exact printable_renderString row.1 c key
      · rcases List.mem_cons.1 inside with rfl | inside
        · decide
        · rcases List.mem_cons.1 inside with rfl | inside
          · decide
          · exact printable row among c inside

end Values

end Spreadsheet.Json
