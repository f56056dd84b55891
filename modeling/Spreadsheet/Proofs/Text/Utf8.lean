import Mathlib.Data.UInt
import Spreadsheet.Text.Utf8

/-! A text is read back from its octets. -/

set_option autoImplicit false

namespace Spreadsheet.Text.Utf8

theorem toNat_octet {n : Nat} (small : n < 0x100) : n.toUInt8.toNat = n := by
  rw [Nat.toUInt8, UInt8.toNat_ofNat', Nat.mod_eq_of_lt small]

/-! ### The first octet of a character -/

section First

variable {k : Nat}

private theorem first_of_ascii (low : k < 0x80) :
    first k.toUInt8 = ([some (Char.ofNat k)], .start) := by
  have octet : k.toUInt8.toNat = k := toNat_octet (by omega)
  simp only [first, octet, if_pos low]

private theorem first_of_two (low : 2 ≤ k) (high : k < 0x20) :
    first (0xC0 + k).toUInt8 = ([], .inside 0 0x80 0xBF k) := by
  have octet : (0xC0 + k).toUInt8.toNat = 0xC0 + k := toNat_octet (by omega)
  simp only [first, octet, Nat.add_sub_cancel_left]
  rw [if_neg (by omega), if_pos (by omega)]

/-- What follows the first of three octets makes neither a character of two octets nor a
surrogate. -/
theorem first_of_three (high : k < 0x10) :
    ∃ least greatest, first (0xE0 + k).toUInt8 = ([], .inside 1 least greatest k) ∧
      ∀ next < 0x40, (k = 0 → 0x20 ≤ next) → (k = 0xD → next < 0x20) →
        least ≤ 0x80 + next ∧ 0x80 + next ≤ greatest := by
  have octet : (0xE0 + k).toUInt8.toNat = 0xE0 + k := toNat_octet (by omega)
  simp only [first, octet, Nat.add_sub_cancel_left]
  rw [if_neg (by omega), if_neg (by omega)]
  by_cases short : k = 0
  · subst short
    exact ⟨0xA0, 0xBF, rfl, by omega⟩
  · by_cases surrogate : k = 0xD
    · subst surrogate
      exact ⟨0x80, 0x9F, rfl, by omega⟩
    · rw [if_neg (by omega), if_neg (by omega), if_pos (by omega)]
      exact ⟨0x80, 0xBF, rfl, by omega⟩

/-- What follows the first of four octets makes neither a character of three octets nor one
beyond the last. -/
theorem first_of_four (high : k < 5) :
    ∃ least greatest, first (0xF0 + k).toUInt8 = ([], .inside 2 least greatest k) ∧
      ∀ next < 0x40, (k = 0 → 0x10 ≤ next) → (k = 4 → next < 0x10) →
        least ≤ 0x80 + next ∧ 0x80 + next ≤ greatest := by
  have octet : (0xF0 + k).toUInt8.toNat = 0xF0 + k := toNat_octet (by omega)
  simp only [first, octet, Nat.add_sub_cancel_left]
  rw [if_neg (by omega), if_neg (by omega), if_neg (by omega), if_neg (by omega),
    if_neg (by omega)]
  by_cases short : k = 0
  · subst short
    exact ⟨0x90, 0xBF, rfl, by omega⟩
  · rw [if_neg (by omega)]
    by_cases last : k = 4
    · subst last
      exact ⟨0x80, 0x8F, rfl, by omega⟩
    · rw [if_pos (by omega)]
      exact ⟨0x80, 0xBF, rfl, by omega⟩

end First

/-! ### The octets behind it -/

section Behind

variable {least greatest bits next : Nat} {rest : List UInt8}

theorem piecesFrom_inside_succ {owed : Nat} (small : next < 0x40)
    (within : least ≤ 0x80 + next ∧ 0x80 + next ≤ greatest) :
    piecesFrom (.inside (owed + 1) least greatest bits) ((0x80 + next).toUInt8 :: rest) =
      piecesFrom (.inside owed 0x80 0xBF (bits * 0x40 + next)) rest := by
  have octet : (0x80 + next).toUInt8.toNat = 0x80 + next := toNat_octet (by omega)
  simp only [piecesFrom, step, octet, if_pos within, Nat.add_sub_cancel_left, List.nil_append]

theorem piecesFrom_inside_zero (small : next < 0x40)
    (within : least ≤ 0x80 + next ∧ 0x80 + next ≤ greatest) :
    piecesFrom (.inside 0 least greatest bits) ((0x80 + next).toUInt8 :: rest) =
      some (Char.ofNat (bits * 0x40 + next)) :: piecesFrom .start rest := by
  have octet : (0x80 + next).toUInt8.toNat = 0x80 + next := toNat_octet (by omega)
  simp only [piecesFrom, step, octet, if_pos within, Nat.add_sub_cancel_left, List.cons_append,
    List.nil_append]

theorem piecesFrom_start {b : UInt8} {state : State} (opens : first b = ([], state)) :
    piecesFrom .start (b :: rest) = piecesFrom state rest := by
  simp only [piecesFrom, step, opens, List.nil_append]

end Behind

/-! ### Characters and texts -/

theorem piecesFrom_encodeChar (c : Char) (rest : List UInt8) :
    piecesFrom .start (encodeChar c ++ rest) = some c :: piecesFrom .start rest := by
  have valid : c.toNat < 0xD800 ∨ 0xDFFF < c.toNat ∧ c.toNat < 0x110000 := c.valid
  have char : ∀ n, n = c.toNat → Char.ofNat n = c := by
    rintro n rfl
    exact Char.ofNat_toNat c
  unfold encodeChar
  dsimp only
  generalize c.toNat = n at valid char ⊢
  have last : n % 0x40 < 0x40 := Nat.mod_lt n (by omega)
  have middle : n / 0x40 % 0x40 < 0x40 := Nat.mod_lt _ (by omega)
  -- The number of octets is that of the range that the character is in.
  split
  · rename_i ascii
    simp only [List.cons_append, List.nil_append, piecesFrom, step, first_of_ascii ascii,
      char n rfl]
  · split
    · simp only [List.cons_append, List.nil_append]
      rw [piecesFrom_start (first_of_two (by omega) (by omega)),
        piecesFrom_inside_zero last (by omega), char _ (by omega)]
    · split
      · obtain ⟨least, greatest, opens, within⟩ := first_of_three (k := n / 0x1000) (by omega)
        simp only [List.cons_append, List.nil_append]
        rw [piecesFrom_start opens,
          piecesFrom_inside_succ middle (within _ middle (by omega) (by omega)),
          piecesFrom_inside_zero last (by omega), char _ (by omega)]
      · obtain ⟨least, greatest, opens, within⟩ := first_of_four (k := n / 0x40000) (by omega)
        have second : n / 0x1000 % 0x40 < 0x40 := Nat.mod_lt _ (by omega)
        simp only [List.cons_append, List.nil_append]
        rw [piecesFrom_start opens,
          piecesFrom_inside_succ second (within _ second (by omega) (by omega)),
          piecesFrom_inside_succ middle (by omega), piecesFrom_inside_zero last (by omega),
          char _ (by omega)]

theorem pieces_encode (cs : List Char) : pieces (encode cs) = cs.map some := by
  induction cs with
  | nil => rfl
  | cons c rest ih =>
      rw [encode, List.flatMap_cons, pieces, piecesFrom_encodeChar, List.map_cons]
      exact congrArg (some c :: ·) ih

theorem decodeLossy_encode (cs : List Char) : decodeLossy (encode cs) = cs := by
  rw [decodeLossy, pieces_encode, List.map_map]
  exact List.map_id cs

theorem encode_append (first second : List Char) :
    encode (first ++ second) = encode first ++ encode second := List.flatMap_append

theorem length_encode_of_ascii {cs : List Char} (ascii : ∀ c ∈ cs, c.toNat < 0x80) :
    (encode cs).length = cs.length := by
  induction cs with
  | nil => rfl
  | cons c rest ih =>
      rw [List.forall_mem_cons] at ascii
      have single : encodeChar c = [c.toNat.toUInt8] := if_pos ascii.1
      rw [encode, List.flatMap_cons, single, ← encode, List.length_append, ih ascii.2,
        List.length_singleton, List.length_cons, Nat.add_comm]

/-- The octet of a line feed is part of no other character. -/
theorem feed_of_mem_encodeChar {c : Char} (member : 0x0A ∈ encodeChar c) : c = '\n' := by
  have apart : ∀ n : Nat, 0x80 ≤ n → n < 0x100 → 0x0A ≠ n.toUInt8 := by
    intro n high low same
    have value := congrArg UInt8.toNat same
    rw [toNat_octet low] at value
    change 10 = n at value
    omega
  have valid : c.toNat < 0xD800 ∨ 0xDFFF < c.toNat ∧ c.toNat < 0x110000 := c.valid
  by_cases ascii : c.toNat < 0x80
  · simp only [encodeChar, if_pos ascii, List.mem_singleton] at member
    have value := congrArg UInt8.toNat member
    rw [toNat_octet (by omega)] at value
    exact Char.toNat_inj.1 value.symm
  · exfalso
    simp only [encodeChar, if_neg ascii] at member
    split at member
    · simp only [List.mem_cons, List.not_mem_nil, or_false] at member
      rcases member with same | same <;> exact apart _ (by omega) (by omega) same
    · split at member
      · simp only [List.mem_cons, List.not_mem_nil, or_false] at member
        rcases member with same | same | same <;> exact apart _ (by omega) (by omega) same
      · simp only [List.mem_cons, List.not_mem_nil, or_false] at member
        rcases member with same | same | same | same <;> exact apart _ (by omega) (by omega) same

theorem feed_of_mem_encode {cs : List Char} (member : 0x0A ∈ encode cs) : '\n' ∈ cs := by
  obtain ⟨c, among, inside⟩ := List.mem_flatMap.1 member
  exact feed_of_mem_encodeChar inside ▸ among

theorem count_feed_encode (cs : List Char) : (encode cs).count 0x0A = cs.count '\n' := by
  induction cs with
  | nil => rfl
  | cons c rest ih =>
      have single : (encodeChar c).count 0x0A = if c = '\n' then 1 else 0 := by
        split
        · rename_i feed
          rw [feed]
          rfl
        · rename_i other
          exact List.count_eq_zero.2 fun member => other (feed_of_mem_encodeChar member)
      simp only [encode, List.flatMap_cons, List.count_append, single] at ih ⊢
      rw [ih, List.count_cons, Nat.add_comm]
      simp

theorem decode_encode (cs : List Char) : decode (encode cs) = .ok cs := by
  have whole : (cs.map some).all Option.isSome = true := by
    simp
  rw [decode, pieces_encode, if_pos whole, List.filterMap_map]
  simp

end Spreadsheet.Text.Utf8
