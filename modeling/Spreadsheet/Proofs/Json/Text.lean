import Mathlib.Data.List.Basic
import Mathlib.Data.UInt
import Spreadsheet.Json.Printer
import Spreadsheet.Json.Token

/-! Strings in JSON text: what stands for a character is read as that character, whatever
follows, and is printable ASCII. -/

set_option autoImplicit false

namespace Spreadsheet.Json

/-- The characters of ASCII that are neither control characters nor the last one. -/
def Printable (c : Char) : Prop := ' ' ≤ c ∧ c ≤ '~'

instance (c : Char) : Decidable (Printable c) := inferInstanceAs (Decidable (' ' ≤ c ∧ c ≤ '~'))

theorem printable_iff {c : Char} : Printable c ↔ 0x20 ≤ c.toNat ∧ c.toNat ≤ 0x7E := by
  rw [Printable, Char.le_def, Char.le_def, UInt32.le_iff_toNat_le, UInt32.le_iff_toNat_le]
  rfl

/-! ### Hexadecimal units -/

section Units

variable {n : Nat}

private theorem hexValue?_digitChar :
    ∀ digit < 16, hexValue? (Nat.digitChar digit) = some digit := by
  decide

private theorem printable_digitChar : ∀ digit < 16, Printable (Nat.digitChar digit) := by
  decide

theorem hexDigits_four (n : Nat) :
    Text.hexDigits 4 n = [Nat.digitChar (n / 0x1000 % 16), Nat.digitChar (n / 0x100 % 16),
      Nat.digitChar (n / 0x10 % 16), Nat.digitChar (n % 16)] := by
  simp only [Text.hexDigits, List.nil_append, List.cons_append, Nat.div_div_eq_div_mul]

private theorem unit?_hexDigits (small : n < 0x10000) :
    unit? (Nat.digitChar (n / 0x1000 % 16)) (Nat.digitChar (n / 0x100 % 16))
      (Nat.digitChar (n / 0x10 % 16)) (Nat.digitChar (n % 16)) = some n := by
  have digit : ∀ m, hexValue? (Nat.digitChar (m % 16)) = some (m % 16) :=
    fun m => hexValue?_digitChar _ (Nat.mod_lt m (by decide))
  simp only [unit?, digit, Option.bind_eq_bind, Option.bind_some, Option.pure_def,
    Option.some.injEq]
  omega

theorem scanPieces_escapeUnit (small : n < 0x10000) (rest : List Char) :
    scanPieces (escapeUnit n ++ rest) = consPiece (.unit n) (scanPieces rest) := by
  rw [escapeUnit, hexDigits_four]
  simp only [List.cons_append, List.nil_append, scanPieces, unit?_hexDigits small]

theorem printable_escapeUnit (n : Nat) : ∀ c ∈ escapeUnit n, Printable c := by
  have digit : ∀ m, Printable (Nat.digitChar (m % 16)) :=
    fun m => printable_digitChar _ (Nat.mod_lt m (by decide))
  rw [escapeUnit, hexDigits_four]
  simp only [List.mem_cons, List.not_mem_nil, or_false]
  rintro c (rfl | rfl | rfl | rfl | rfl | rfl)
  · decide
  · decide
  all_goals exact digit _

end Units

/-! ### Characters -/

/-- The text is read as a character, and so is all that follows it. -/
def ReadsAs (text : List Char) (c : Char) : Prop :=
  ∃ pieces, (∀ rest, scanPieces (text ++ rest) =
      (scanPieces rest).map fun found => (pieces ++ found.1, found.2)) ∧
    ∀ more, joinPieces (pieces ++ more) = .char c :: joinPieces more

section Characters

variable {c : Char}

theorem consPiece_eq (piece : Piece) (found : Option (List Piece × List Char)) :
    consPiece piece found = found.map fun found => ([piece] ++ found.1, found.2) := by
  cases found <;> rfl

theorem readsAs_of_letter {letter : Char} (means : escape? letter = some c)
    (other : letter ≠ 'u') : ReadsAs ['\\', letter] c := by
  refine ⟨[.char c], fun rest => ?_, fun more => rfl⟩
  rw [← consPiece_eq, List.cons_append, List.cons_append, List.nil_append, scanPieces.eq_4, means]
  rintro a b c d rest rfl
  exact absurd rfl other

private theorem readsAs_self (printable : Printable c) (quote : c ≠ '"') (stroke : c ≠ '\\') :
    ReadsAs [c] c := by
  have visible : ¬ (c = '\\' ∨ c.toNat < 0x20) := by
    rintro (same | low)
    · exact stroke same
    · exact Nat.not_lt.2 (printable_iff.1 printable).1 low
  refine ⟨[.char c], fun rest => ?_, fun more => rfl⟩
  rw [← consPiece_eq, List.cons_append, List.nil_append, scanPieces.eq_5, if_neg visible]
  · exact quote
  · rintro a b d e rest rfl
    exact absurd rfl stroke
  · rintro letter rest rfl
    exact absurd rfl stroke

/-- A unit that is no half of a pair is a character of its own, even next to other units. -/
theorem joinPieces_unit {n : Nat} (whole : isHighSurrogate n = false)
    (single : isLowSurrogate n = false) (more : List Piece) :
    joinPieces (.unit n :: more) = .char (Char.ofNat n) :: joinPieces more := by
  have char : letterOfUnit n = .char (Char.ofNat n) := by
    rw [letterOfUnit, whole, single]
    rfl
  cases more with
  | nil => exact congrArg (· :: []) char
  | cons piece rest =>
      cases piece with
      | char other => exact congrArg (· :: joinPieces (.char other :: rest)) char
      | unit low =>
          rw [joinPieces, whole, char]
          rfl

private theorem readsAs_escapeUnit (small : c.toNat < 0x10000) :
    ReadsAs (escapeUnit c.toNat) c := by
  have valid : c.toNat < 0xD800 ∨ 0xDFFF < c.toNat ∧ c.toNat < 0x110000 := c.valid
  refine ⟨[.unit c.toNat], fun rest => ?_, fun more => ?_⟩
  · rw [scanPieces_escapeUnit small, consPiece_eq]
  · rw [List.singleton_append, joinPieces_unit, Char.ofNat_toNat]
    · simp only [isHighSurrogate, Bool.and_eq_false_iff, decide_eq_false_iff_not]
      omega
    · simp only [isLowSurrogate, Bool.and_eq_false_iff, decide_eq_false_iff_not]
      omega

private theorem readsAs_pair (large : 0x10000 ≤ c.toNat) :
    ReadsAs (escapeUnit (0xD800 + (c.toNat - 0x10000) / 0x400) ++
      escapeUnit (0xDC00 + (c.toNat - 0x10000) % 0x400)) c := by
  have valid : c.toNat < 0xD800 ∨ 0xDFFF < c.toNat ∧ c.toNat < 0x110000 := c.valid
  have high : (c.toNat - 0x10000) / 0x400 < 0x400 := by omega
  have low : (c.toNat - 0x10000) % 0x400 < 0x400 := Nat.mod_lt _ (by decide)
  refine ⟨[.unit (0xD800 + (c.toNat - 0x10000) / 0x400),
    .unit (0xDC00 + (c.toNat - 0x10000) % 0x400)], fun rest => ?_, fun more => ?_⟩
  · rw [List.append_assoc, scanPieces_escapeUnit (by omega), scanPieces_escapeUnit (by omega),
      consPiece_eq, consPiece_eq, Option.map_map]
    rfl
  · have pair : (isHighSurrogate (0xD800 + (c.toNat - 0x10000) / 0x400) &&
        isLowSurrogate (0xDC00 + (c.toNat - 0x10000) % 0x400)) = true := by
      simp only [isHighSurrogate, isLowSurrogate, Bool.and_eq_true, decide_eq_true_eq]
      omega
    have whole : 0x10000 + (0xD800 + (c.toNat - 0x10000) / 0x400 - 0xD800) * 0x400 +
        (0xDC00 + (c.toNat - 0x10000) % 0x400 - 0xDC00) = c.toNat := by
      omega
    rw [List.cons_append, List.cons_append, List.nil_append, joinPieces, pair, if_pos rfl, whole,
      Char.ofNat_toNat]

private theorem readsAs_escapeChar (c : Char) : ReadsAs (escapeChar c) c := by
  unfold escapeChar
  split
  · rename_i own
    rcases own with rfl | rfl
    · exact readsAs_of_letter rfl (by decide)
    · exact readsAs_of_letter rfl (by decide)
  · rename_i other
    rw [not_or] at other
    split
    · rename_i feed
      exact feed ▸ readsAs_of_letter rfl (by decide)
    · split
      · rename_i back
        exact back ▸ readsAs_of_letter rfl (by decide)
      · split
        · rename_i tab
          exact tab ▸ readsAs_of_letter rfl (by decide)
        · split
          · rename_i step
            exact step ▸ readsAs_of_letter rfl (by decide)
          · split
            · rename_i page
              exact page ▸ readsAs_of_letter rfl (by decide)
            · split
              · rename_i printable
                exact readsAs_self printable other.1 other.2
              · split
                · rename_i small
                  exact readsAs_escapeUnit small
                · rename_i large
                  exact readsAs_pair (Nat.not_lt.1 large)

private theorem printable_escapeChar (c : Char) : ∀ written ∈ escapeChar c, Printable written := by
  have stroke : ∀ letter, Printable letter → ∀ written ∈ ['\\', letter], Printable written := by
    intro letter printable written member
    simp only [List.mem_cons, List.not_mem_nil, or_false] at member
    rcases member with rfl | rfl
    · decide
    · exact printable
  unfold escapeChar
  split
  · rename_i own
    refine stroke c ?_
    rcases own with rfl | rfl <;> decide
  · repeat' split
    · exact stroke _ (by decide)
    · exact stroke _ (by decide)
    · exact stroke _ (by decide)
    · exact stroke _ (by decide)
    · exact stroke _ (by decide)
    · rename_i printable
      intro written member
      rw [List.mem_singleton] at member
      exact member ▸ printable
    · exact printable_escapeUnit _
    · intro written member
      exact (List.mem_append.1 member).elim (printable_escapeUnit _ _) (printable_escapeUnit _ _)

end Characters

/-! ### Strings -/

/-- A string ends at the quote behind its characters. -/
theorem scanPieces_escaped (cs rest : List Char) :
    ∃ pieces, scanPieces (cs.flatMap escapeChar ++ '"' :: rest) = some (pieces, rest) ∧
      joinPieces pieces = cs.map Letter.char := by
  induction cs with
  | nil => exact ⟨[], by simp [scanPieces], rfl⟩
  | cons c others ih =>
      obtain ⟨behind, scanned, joined⟩ := ih
      obtain ⟨pieces, reads, means⟩ := readsAs_escapeChar c
      refine ⟨pieces ++ behind, ?_, ?_⟩
      · rw [List.flatMap_cons, List.append_assoc, reads, scanned]
        rfl
      · rw [means, joined, List.map_cons]

theorem scan?_renderString (s : String) (rest : List Char) :
    Token.scan? (renderString s ++ rest) = some (.text (Letters.ofText s), rest) := by
  obtain ⟨pieces, scanned, joined⟩ := scanPieces_escaped s.toList rest
  have shape : renderString s ++ rest = '"' :: (s.toList.flatMap escapeChar ++ '"' :: rest) := by
    simp [renderString]
  rw [shape]
  simp only [Token.scan?, scanned, Option.map_some, joined, Letters.ofText]

theorem printable_renderString (s : String) : ∀ c ∈ renderString s, Printable c := by
  intro c member
  simp only [renderString, List.cons_append, List.mem_cons, List.mem_append, List.mem_flatMap,
    List.not_mem_nil, or_false] at member
  rcases member with rfl | ⟨source, _, inside⟩ | rfl
  · decide
  · exact printable_escapeChar source c inside
  · decide

end Spreadsheet.Json
