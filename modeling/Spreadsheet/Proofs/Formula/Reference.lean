import Spreadsheet.Proofs.Formula.Operand
import Spreadsheet.Proofs.Formula.Traversal
import Spreadsheet.Sheet.Basic

/-! References and identifiers are the same texts. The references of a formula are those of its
text, and the walk over the tree meets all of them. -/

set_option autoImplicit false

namespace Spreadsheet

private theorem Sheet.set_ne_invalidId {id : String} (valid : CellId.isValid id = true)
    (sheet : Sheet)
    (text other : String) : (sheet.set id text).2 ≠ .error (.invalidId other) := by
  rw [set, if_neg (by simp [valid])]
  cases Cell.ofText text with
  | error => exact nofun
  | ok cell? =>
      cases cell? with
      | none =>
          dsimp only
          rw [delete, if_neg (by simp [valid])]
          split <;> exact nofun
      | some cell =>
          dsimp only
          split <;> exact nofun

namespace Formula

section Tokens

variable {text : List Char} {tokens : List Token} {tree : Formula} {id : String}

private theorem Token.referent?_leaf? (token : Token) :
    token.leaf?.bind referent? = some id ↔ token = .reference id.toList := by
  cases token with
  | reference cell =>
      have same : String.ofList cell = id ↔ cell = id.toList := by
        rw [← String.toList_inj, String.toList_ofList]
      simp [leaf?, referent?, same]
  | _ => simp [leaf?, referent?]

/-- The references of a tree are the references among the tokens it is derived from. -/
theorem Derives.mem_references_iff {level : Level} (derived : Derives level tokens tree) :
    id ∈ tree.references ↔ .reference id.toList ∈ tokens := by
  have atomic (tree : Formula) (inner : tree.precedence < 4) : tree.referent? = none := by
    cases tree with
    | reference => simp [precedence] at inner
    | _ => rfl
  rw [references, IdSet.mem_ofList, derived.filterMap_subtrees atomic, List.mem_filterMap]
  simp only [Token.referent?_leaf?, exists_eq_right]

theorem mem_references_iff_subtree : id ∈ tree.references ↔ .reference id ∈ tree.subtrees := by
  rw [references, IdSet.mem_ofList, List.mem_filterMap]
  constructor
  · rintro ⟨inside, member, shape⟩
    cases inside <;> cases shape
    exact member
  · exact fun member => ⟨_, member, rfl⟩

theorem Writes.isValid_of_mem_references (writes : Writes text tree)
    (member : id ∈ tree.references) : CellId.isValid id = true :=
  CellId.isValid_iff.2 (writes.valid_of_reference (mem_references_iff_subtree.1 member))

/-- An identifier behind the marker is a reference to its cell, and no other text is one to the
cell that it names. -/
theorem isValid_iff_parse :
    CellId.isValid id = true ↔ parse ('=' :: id.toList) = .ok (.reference id) := by
  rw [parse_eq_ok_iff]
  constructor
  · intro valid
    have derived := Derives.reference id.toList
    have splits := derived.splits (List.forall_mem_singleton.2 (CellId.isValid_iff.1 valid))
    rw [String.ofList_toList] at derived
    exact ⟨_, by simpa [Token.text] using splits, derived.toSum⟩
  · intro writes
    exact writes.isValid_of_mem_references (mem_references_iff_subtree.2 (List.mem_singleton.2 rfl))

end Tokens

/-- Identifiers are the texts that read as references to themselves. The references of a tree are
those that it mentions, and the walk over it meets just these; if it was read, they are those of the
tokens of its text, and identifiers that every sheet takes. -/
theorem references_are_identifiers :
    (∀ id : String, CellId.isValid id = true ↔ parse ('=' :: id.toList) = .ok (.reference id)) ∧
    (∀ (tree : Formula) (id : String), (id ∈ tree.references ↔ tree.Mentions id) ∧
      ∃ visited, (∀ other, Ends (Walk.round 0) ⟨[(0, tree)], []⟩ other ↔ other = visited) ∧
        (id ∈ tree.references ↔ ∃ node ∈ visited, node.2 = .reference id)) ∧
    ∀ (text : List Char) (tree : Formula), parse text = .ok tree →
      ∃ tokens, Splits (Text.trim text) tokens ∧
        (∀ other, Splits (Text.trim text) other → other = tokens) ∧
        ∀ id : String, (id ∈ tree.references ↔ .reference id.toList ∈ tokens) ∧
          (id ∈ tree.references → CellId.isValid id = true ∧
            ∀ (sheet : Sheet) (contents other : String),
              (sheet.set id contents).2 ≠ .error (.invalidId other)) := by
  refine ⟨fun _ => isValid_iff_parse, fun tree id => ⟨mem_references_iff, ?_⟩, ?_⟩
  · refine ⟨_, ends_walk_iff 0 tree, ?_⟩
    rw [mem_references_iff_subtree, ← map_snd_placed 0 0, List.mem_map]
  · intro text tree read
    have writes := parse_eq_ok_iff.1 read
    obtain ⟨tokens, splits, derived⟩ := parse_eq_ok_iff.1 read
    refine ⟨.equals :: tokens, splits, fun _ => splits.unique, fun id => ⟨?_, fun member => ?_⟩⟩
    · rw [derived.mem_references_iff, List.mem_cons, or_iff_right nofun]
    · have valid := writes.isValid_of_mem_references member
      exact ⟨valid, fun sheet => sheet.set_ne_invalidId valid⟩

/-- The mark of an exponent begins no reference, and a reference may stand twice. -/
theorem references_behind_exponent :
    ∃ tree, parse "= -A1*(ZD11-2E5)/A1".toList = .ok tree ∧
      ∀ id : String, (id ∈ tree.references ↔ id = "A1" ∨ id = "ZD11") ∧
        (id ∈ tree.references → CellId.isValid id = true) := by
  have read : parse "= -A1*(ZD11-2E5)/A1".toList = .ok (.binary .div
      (.binary .mul (.negate (.reference "A1"))
        (.binary .sub (.reference "ZD11") (.number (.ofDecimal false 2 5))))
      (.reference "A1")) := by decide +kernel
  obtain ⟨tokens, splits, -, agree⟩ := references_are_identifiers.2.2 _ _ read
  obtain ⟨-, rfl⟩ := (Scan.splits_iff 0).1 splits
  have scanned : (Scan.ofText (Text.trim "= -A1*(ZD11-2E5)/A1".toList)).tokens.map Prod.snd =
      [.equals, .operator .sub, .reference "A1".toList, .operator .mul, .opening,
        .reference "ZD11".toList, .operator .sub,
        .number ⟨['2'], false, [], some ⟨'E', none, ['5']⟩⟩, .closing, .operator .div,
        .reference "A1".toList] := by decide +kernel
  refine ⟨_, read, fun id => ⟨?_, fun member => ((agree id).2 member).1⟩⟩
  rw [(agree id).1, ← Scan.ofText, scanned]
  simp only [List.mem_cons, reduceCtorEq, Token.reference.injEq, String.toList_inj,
    List.not_mem_nil, or_false, false_or]
  tauto

end Formula

end Spreadsheet
