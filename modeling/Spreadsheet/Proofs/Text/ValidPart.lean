import Mathlib.Tactic.SplitIfs
import Spreadsheet.Proofs.Text.Utf8

/-! Where octets stop being a text. Every list of octets is the octets of a text and a rest that
begins with no character; the reader gives the text and marks the rest. -/

set_option autoImplicit false

namespace Spreadsheet.Text.Utf8

/-! ### Only the octets of a character are read as one -/

section Char

variable {n : Nat}

theorem toNat_ofNat (valid : n.isValidChar) : (Char.ofNat n).toNat = n := by
  rw [Char.ofNat, dif_pos valid]
  rfl

theorem toUInt8_eq {b : UInt8} (same : n = b.toNat) : n.toUInt8 = b := by
  rw [← UInt8.toNat_inj, toNat_octet (same ▸ b.toNat_lt), same]

private theorem encodeChar_one {x : UInt8} (low : x.toNat < 0x80) :
    encodeChar (Char.ofNat x.toNat) = [x] := by
  have value := toNat_ofNat (n := x.toNat) (.inl (by omega))
  simp only [encodeChar, value, if_pos low, toUInt8_eq rfl]

private theorem encodeChar_two {x y : UInt8} (lead : 0xC2 ≤ x.toNat ∧ x.toNat ≤ 0xDF)
    (last : 0x80 ≤ y.toNat ∧ y.toNat ≤ 0xBF)
    (value : n = (x.toNat - 0xC0) * 0x40 + (y.toNat - 0x80)) :
    encodeChar (Char.ofNat n) = [x, y] := by
  simp only [encodeChar, toNat_ofNat (n := n) (.inl (by omega))]
  rw [if_neg (by omega), if_pos (by omega), toUInt8_eq (b := x) (by omega),
    toUInt8_eq (b := y) (by omega)]

private theorem encodeChar_three {x y z : UInt8} (lead : 0xE0 ≤ x.toNat ∧ x.toNat ≤ 0xEF)
    (second : 0x80 ≤ y.toNat ∧ y.toNat ≤ 0xBF) (last : 0x80 ≤ z.toNat ∧ z.toNat ≤ 0xBF)
    (value : n = ((x.toNat - 0xE0) * 0x40 + (y.toNat - 0x80)) * 0x40 + (z.toNat - 0x80))
    (long : 0x800 ≤ n) (valid : n.isValidChar) : encodeChar (Char.ofNat n) = [x, y, z] := by
  simp only [encodeChar, toNat_ofNat valid]
  rw [if_neg (by omega), if_neg (by omega), if_pos (by omega), toUInt8_eq (b := x) (by omega),
    toUInt8_eq (b := y) (by omega), toUInt8_eq (b := z) (by omega)]

private theorem encodeChar_four {w x y z : UInt8} (lead : 0xF0 ≤ w.toNat ∧ w.toNat ≤ 0xF4)
    (second : 0x80 ≤ x.toNat ∧ x.toNat ≤ 0xBF) (third : 0x80 ≤ y.toNat ∧ y.toNat ≤ 0xBF)
    (last : 0x80 ≤ z.toNat ∧ z.toNat ≤ 0xBF)
    (value : n = (((w.toNat - 0xF0) * 0x40 + (x.toNat - 0x80)) * 0x40 + (y.toNat - 0x80)) * 0x40 +
      (z.toNat - 0x80))
    (long : 0x10000 ≤ n) (valid : n.isValidChar) : encodeChar (Char.ofNat n) = [w, x, y, z] := by
  simp only [encodeChar, toNat_ofNat valid]
  rw [if_neg (by omega), if_neg (by omega), if_neg (by omega), toUInt8_eq (b := w) (by omega),
    toUInt8_eq (b := x) (by omega), toUInt8_eq (b := y) (by omega), toUInt8_eq (b := z) (by omega)]

end Char

/-- A first octet of several, and what the reader takes behind it. The bounds of the second octet
keep out characters that are shorter, surrogates, and what is beyond the last character. -/
inductive Lead (b : UInt8) : State → Prop where
  | two {bits : Nat} : b.toNat = 0xC0 + bits → 2 ≤ bits → bits < 0x20 →
      Lead b (.inside 0 0x80 0xBF bits)
  | three {least greatest bits : Nat} : b.toNat = 0xE0 + bits → bits < 0x10 → 0x80 ≤ least →
      greatest ≤ 0xBF → (bits = 0 → 0xA0 ≤ least) → (bits = 0xD → greatest ≤ 0x9F) →
      Lead b (.inside 1 least greatest bits)
  | four {least greatest bits : Nat} : b.toNat = 0xF0 + bits → bits < 5 → 0x80 ≤ least →
      greatest ≤ 0xBF → (bits = 0 → 0x90 ≤ least) → (bits = 4 → greatest ≤ 0x8F) →
      Lead b (.inside 2 least greatest bits)

/-- The first octet completes a character, begins one of several octets, or is marked. -/
theorem first_cases (b : UInt8) :
    (b.toNat < 0x80 ∧ first b = ([some (Char.ofNat b.toNat)], .start)) ∨
      (∃ state, first b = ([], state) ∧ Lead b state) ∨ first b = ([none], .start) := by
  by_cases ascii : b.toNat < 0x80
  · exact .inl ⟨ascii, by simp [first, ascii]⟩
  · refine .inr ?_
    simp only [first, if_neg ascii]
    split_ifs
    any_goals exact .inl ⟨_, rfl, by constructor <;> omega⟩
    exact .inr rfl

section Head

variable {owed least greatest bits : Nat} {octets : List UInt8} {c : Char}

/-- The piece that a reader completes first. -/
def headFrom (state : State) (octets : List UInt8) : Option (Option Char) :=
  (piecesFrom state octets).head?

theorem headFrom_inside_zero (read : headFrom (.inside 0 least greatest bits) octets = some (some c)) :
    ∃ next rest, octets = next :: rest ∧ (least ≤ next.toNat ∧ next.toNat ≤ greatest) ∧
      c = Char.ofNat (bits * 0x40 + (next.toNat - 0x80)) := by
  cases octets with
  | nil => cases read
  | cons next rest =>
      by_cases within : least ≤ next.toNat ∧ next.toNat ≤ greatest
      · refine ⟨next, rest, rfl, within, ?_⟩
        simpa [headFrom, piecesFrom, step, within, eq_comm] using read
      · simp [headFrom, piecesFrom, step, within] at read

theorem headFrom_inside_succ
    (read : headFrom (.inside (owed + 1) least greatest bits) octets = some (some c)) :
    ∃ next rest, octets = next :: rest ∧ (least ≤ next.toNat ∧ next.toNat ≤ greatest) ∧
      headFrom (.inside owed 0x80 0xBF (bits * 0x40 + (next.toNat - 0x80))) rest =
        some (some c) := by
  cases octets with
  | nil => cases read
  | cons next rest =>
      by_cases within : least ≤ next.toNat ∧ next.toNat ≤ greatest
      · refine ⟨next, rest, rfl, within, ?_⟩
        simpa [headFrom, piecesFrom, step, within] using read
      · simp [headFrom, piecesFrom, step, within] at read

theorem Lead.encodeChar_of_headFrom {b : UInt8} {rest : List UInt8} {state : State}
    (lead : Lead b state) (read : headFrom state rest = some (some c)) : encodeChar c <+: b :: rest := by
  cases lead with
  | two value low high =>
      obtain ⟨x, rest, rfl, last, char⟩ := headFrom_inside_zero read
      rw [char, encodeChar_two (x := b) (y := x) (by omega) last (by omega)]
      exact ⟨rest, rfl⟩
  | three value high above below long surrogate =>
      obtain ⟨x, rest, rfl, second, read⟩ := headFrom_inside_succ read
      obtain ⟨y, rest, rfl, last, char⟩ := headFrom_inside_zero read
      rw [char, encodeChar_three (x := b) (y := x) (by omega) (by omega) last (by omega) (by omega)
        (by unfold Nat.isValidChar; omega)]
      exact ⟨rest, rfl⟩
  | four value high above below long beyond =>
      obtain ⟨x, rest, rfl, second, read⟩ := headFrom_inside_succ read
      obtain ⟨y, rest, rfl, third, read⟩ := headFrom_inside_succ read
      obtain ⟨z, rest, rfl, last, char⟩ := headFrom_inside_zero read
      rw [char, encodeChar_four (w := b) (x := x) (by omega) (by omega) third last (by omega)
        (by omega) (.inr (by omega))]
      exact ⟨rest, rfl⟩

theorem encodeChar_of_headFrom (read : headFrom .start octets = some (some c)) :
    encodeChar c <+: octets := by
  cases octets with
  | nil => cases read
  | cons b rest =>
      rw [headFrom, piecesFrom, step] at read
      rcases first_cases b with ⟨ascii, single⟩ | ⟨state, opens, lead⟩ | marked
      · simp only [single, List.cons_append, List.head?_cons, Option.some_inj] at read
        rw [← read, encodeChar_one ascii]
        exact ⟨rest, rfl⟩
      · rw [opens] at read
        exact lead.encodeChar_of_headFrom read
      · simp [marked] at read

/-- Inside a character there is always something to complete or to mark. -/
theorem headFrom_inside_ne_none : headFrom (.inside owed least greatest bits) octets ≠ none := by
  induction octets generalizing owed least greatest bits with
  | nil => exact nofun
  | cons next rest ih =>
      rw [headFrom, piecesFrom, step]
      by_cases within : least ≤ next.toNat ∧ next.toNat ≤ greatest
      · cases owed with
        | zero => simp [within]
        | succ owed => simpa [within, headFrom] using ih
      · simp [within]

private theorem headFrom_start_ne_none (filled : octets ≠ []) : headFrom .start octets ≠ none := by
  obtain ⟨b, rest, rfl⟩ := List.exists_cons_of_ne_nil filled
  rw [headFrom, piecesFrom, step]
  rcases first_cases b with ⟨_, single⟩ | ⟨state, opens, lead⟩ | marked
  · simp [single]
  · rw [opens]
    cases lead <;> exact headFrom_inside_ne_none
  · simp [marked]

end Head

/-! ### The text in front, and the rest -/

section Rest

variable {valid : List Char} {octets rest : List UInt8}

theorem pieces_encode_append (valid : List Char) (rest : List UInt8) :
    pieces (encode valid ++ rest) = valid.map some ++ pieces rest := by
  induction valid with
  | nil => rfl
  | cons c later ih =>
      rw [encode, List.flatMap_cons, List.append_assoc, pieces, piecesFrom_encodeChar]
      exact congrArg (some c :: ·) ih

theorem decodeLossy_encode_append (valid : List Char) (rest : List UInt8) :
    decodeLossy (encode valid ++ rest) = valid ++ decodeLossy rest := by
  simp [decodeLossy, pieces_encode_append, Function.comp_def]

private theorem encodeChar_ne_nil (c : Char) : encodeChar c ≠ [] := by
  simp only [encodeChar]
  split_ifs <;> simp

theorem exists_encode_append (octets : List UInt8) :
    ∃ valid rest, octets = encode valid ++ rest ∧ ∀ c, ¬ encodeChar c <+: rest := by
  by_cases begins : ∃ c, encodeChar c <+: octets
  · obtain ⟨c, behind, whole⟩ := begins
    obtain ⟨valid, rest, split, stuck⟩ := exists_encode_append behind
    exact ⟨c :: valid, rest, by simp [encode, ← whole, split], stuck⟩
  · exact ⟨[], octets, rfl, not_exists.1 begins⟩
termination_by octets.length
decreasing_by simpa [← whole, List.length_pos_iff] using encodeChar_ne_nil c

/-- What begins with no character is marked. -/
theorem headFrom_of_stuck (stuck : ∀ c, ¬ encodeChar c <+: rest) (filled : rest ≠ []) :
    headFrom .start rest = some none := by
  cases read : headFrom .start rest with
  | none => exact absurd read (headFrom_start_ne_none filled)
  | some piece =>
      cases piece with
      | none => rfl
      | some c => exact absurd (encodeChar_of_headFrom read) (stuck c)

theorem decode_of_stuck (stuck : ∀ c, ¬ encodeChar c <+: rest) (filled : rest ≠ []) :
    decode (encode valid ++ rest) = .error (encode valid).length := by
  obtain ⟨later, marked⟩ := List.head?_eq_some_iff.1 (headFrom_of_stuck stuck filled)
  have shape : pieces (encode valid ++ rest) = valid.map some ++ none :: later :=
    (pieces_encode_append valid rest).trans (congrArg _ marked)
  have front : validPart (encode valid ++ rest) = valid := by
    simp [validPart, shape]
  simp [decode, shape, front]

theorem decode_eq_ok_iff {text : List Char} : decode octets = .ok text ↔ encode text = octets := by
  constructor
  · intro read
    obtain ⟨valid, rest, rfl, stuck⟩ := exists_encode_append octets
    by_cases filled : rest = []
    · rw [filled, List.append_nil, decode_encode] at read
      cases read
      rw [filled, List.append_nil]
    · rw [decode_of_stuck stuck filled] at read
      cases read
  · intro written
    rw [← written, decode_encode]

end Rest

/-! ### Line feeds -/

section Feed

variable {state : State} {owed least greatest bits : Nat}

/-- No line feed is taken into a character that has begun. -/
def State.Parts : State → Prop
  | .start => True
  | .inside _ least _ _ => 0x0A < least

theorem parts_first (b : UInt8) : (first b).2.Parts := by
  rcases first_cases b with ⟨_, single⟩ | ⟨state, opens, lead⟩ | marked
  · rw [single]
    trivial
  · rw [opens]
    cases lead <;> simp only [State.Parts] <;> omega
  · rw [marked]
    trivial

theorem State.Parts.step (parts : state.Parts) (b : UInt8) : (step state b).2.Parts := by
  cases state with
  | start => exact parts_first b
  | inside owed least greatest bits =>
      rw [Utf8.step]
      by_cases within : least ≤ b.toNat ∧ b.toNat ≤ greatest
      · cases owed with
        | zero => simp [within, State.Parts]
        | succ owed => simp [within, State.Parts]
      · simpa [within] using parts_first b

private theorem State.Parts.step_feed (parts : state.Parts) (rest : List UInt8) :
    piecesFrom state (0x0A :: rest) = piecesFrom state [] ++ some '\n' :: piecesFrom .start rest := by
  cases state with
  | start => rfl
  | inside owed least greatest bits =>
      have outside : ¬ (least ≤ (0x0A : UInt8).toNat ∧ (0x0A : UInt8).toNat ≤ greatest) :=
        fun within => absurd parts (Nat.not_lt.2 within.1)
      simp only [piecesFrom, Utf8.step, if_neg outside]
      rfl

private theorem State.Parts.piecesFrom_append (parts : state.Parts) (above below : List UInt8) :
    piecesFrom state (above ++ 0x0A :: below) =
      piecesFrom state above ++ some '\n' :: piecesFrom .start below := by
  induction above generalizing state with
  | nil => exact parts.step_feed below
  | cons b rest ih =>
      rw [List.cons_append, piecesFrom, ih (parts.step b), piecesFrom, List.append_assoc]

/-- Octets can be cut at a line feed before they are read. -/
theorem decodeLossy_append_feed (above below : List UInt8) :
    decodeLossy (above ++ 0x0A :: below) = decodeLossy above ++ '\n' :: decodeLossy below := by
  have parts : State.start.Parts := trivial
  simp [decodeLossy, pieces, parts.piecesFrom_append]

end Feed

end Spreadsheet.Text.Utf8
