import Spreadsheet.Proofs.Text.LineCount
import Spreadsheet.Proofs.Text.ValidPart
import Spreadsheet.Sheet.File

/-! The line that is reported of a sheet file that is no text. It is counted by line feeds alone,
and so it is the line of the record only if no other line breaks are in front of it. -/

set_option autoImplicit false

namespace Spreadsheet.Sheet

private theorem exists_rdropWhile_append {α : Type} {p : α → Bool} {c : α} (stop : p c = false)
    (front more : List α) : ∃ behind, (front ++ c :: more).rdropWhile p = front ++ c :: behind := by
  induction more using List.reverseRecOn with
  | nil => exact ⟨[], List.rdropWhile_concat_neg _ _ _ (by simp [stop])⟩
  | append_singleton before last ih =>
      rw [← List.cons_append, ← List.append_assoc]
      cases on : p last with
      | false => exact ⟨before ++ [last], by simp [on]⟩
      | true => rwa [List.rdropWhile_concat_pos _ _ _ on]

section Feeds

variable {row rest : List UInt8}

theorem splitFeeds_ne_nil (octets : List UInt8) : splitFeeds octets ≠ [] := by
  cases octets with
  | nil => exact List.cons_ne_nil _ _
  | cons b rest =>
      rw [splitFeeds]
      split
      · exact List.cons_ne_nil _ _
      · split <;> exact List.cons_ne_nil _ _

theorem splitFeeds_cons {b : UInt8} {later : List (List UInt8)} (other : b ≠ 0x0A)
    (split : splitFeeds rest = row :: later) : splitFeeds (b :: rest) = (b :: row) :: later := by
  rw [splitFeeds, if_neg other, split]

private theorem splitFeeds_append_feed (octets below : List UInt8) :
    splitFeeds (octets ++ 0x0A :: below) = splitFeeds octets ++ splitFeeds below := by
  induction octets with
  | nil => rfl
  | cons b rest ih =>
      by_cases feed : b = 0x0A
      · simp [splitFeeds, feed, ih]
      · obtain ⟨row, later, split⟩ := List.exists_cons_of_ne_nil (splitFeeds_ne_nil rest)
        rw [split, List.cons_append] at ih
        rw [List.cons_append, splitFeeds_cons feed ih, splitFeeds_cons feed split,
          List.cons_append]

private theorem length_splitFeeds (octets : List UInt8) :
    (splitFeeds octets).length = octets.count 0x0A + 1 := by
  induction octets with
  | nil => rfl
  | cons b rest ih =>
      by_cases feed : b = 0x0A
      · simp [splitFeeds, feed, ih]
      · obtain ⟨row, later, split⟩ := List.exists_cons_of_ne_nil (splitFeeds_ne_nil rest)
        rw [split] at ih
        rw [splitFeeds_cons feed split, List.count_cons_of_ne feed, ← ih]
        rfl

private theorem exists_splitFeeds_append (plain : 0x0A ∉ row) (rest : List UInt8) :
    ∃ more later, splitFeeds (row ++ rest) = (row ++ more) :: later := by
  induction row with
  | nil => exact List.exists_cons_of_ne_nil (splitFeeds_ne_nil rest)
  | cons b row ih =>
      obtain ⟨other, plain⟩ := not_or.1 (mt List.mem_cons.2 plain)
      obtain ⟨more, later, split⟩ := ih plain
      exact ⟨more, later, splitFeeds_cons (Ne.symm other) split⟩

end Feeds

section Undecodable

open Text.Utf8

variable (valid : List Char) {b : UInt8} (rest : List UInt8)

/-- The row of a place is the one with as many line feeds in front of it. -/
theorem exists_row (other : b ≠ 0x0A) :
    ∃ more, (splitFeeds (encode valid ++ b :: rest))[(encode valid).count 0x0A]? =
      some (encode (Text.lastRow valid) ++ b :: more) := by
  have unbroken : 0x0A ∉ encode (Text.lastRow valid) :=
    fun member => Text.ne_feed_of_mem_lastRow (feed_of_mem_encode member) rfl
  have plain : 0x0A ∉ encode (Text.lastRow valid) ++ [b] := by simp [unbroken, Ne.symm other]
  obtain ⟨more, later, split⟩ := exists_splitFeeds_append plain rest
  simp only [List.append_assoc, List.singleton_append] at split
  refine ⟨more, ?_⟩
  rcases Text.exists_append_lastRow valid with whole | ⟨before, cut⟩
  · rw [whole] at split unbroken ⊢
    rw [split, List.count_eq_zero.2 unbroken]
    rfl
  · have octets : encode valid = encode before ++ 0x0A :: encode (Text.lastRow valid) := by
      conv_lhs => rw [cut]
      simp only [encode, List.flatMap_append, List.flatMap_cons]
      rfl
    have place : (encode valid).count 0x0A = (splitFeeds (encode before)).length := by
      simp [octets, length_splitFeeds, List.count_eq_zero.2 unbroken]
    rw [place, octets, List.append_assoc, List.cons_append, splitFeeds_append_feed, split,
      List.getElem?_append_right (Nat.le_refl _), Nat.sub_self]
    rfl

variable (stuck : ∀ c, ¬ encodeChar c <+: b :: rest)

include stuck

private theorem utf8Error_of_stuck :
    (utf8Error (encode valid ++ b :: rest) (encode valid).length).lineNumber =
        valid.count '\n' + 1 ∧
      Text.lastRow valid <+:
        (utf8Error (encode valid ++ b :: rest) (encode valid).length).line.toList := by
  have front : (encode valid ++ b :: rest).take (encode valid).length = encode valid :=
    List.take_left
  have feed : b ≠ 0x0A := by
    rintro rfl
    exact stuck '\n' ⟨rest, rfl⟩
  have carriage : (b == 0x0D) = false := by
    rw [beq_eq_false_iff_ne]
    rintro rfl
    exact stuck '\r' ⟨rest, rfl⟩
  obtain ⟨more, row⟩ := exists_row valid rest feed
  refine ⟨by simp only [utf8Error, front, count_feed_encode], ?_⟩
  obtain ⟨behind, stripped⟩ :=
    exists_rdropWhile_append (p := (· == 0x0D)) carriage (encode (Text.lastRow valid)) more
  rw [List.rdropWhile] at stripped
  simp only [utf8Error, front, row, Option.getD_some, stripped, decodeLossy_encode_append,
    String.toList_ofList]
  exact List.prefix_append _ _

end Undecodable

theorem load_of_read {disk : Disk} {path : Path} {octets : List UInt8}
    (read : disk.read path = .ok octets) :
    load disk path = (ofOctets octets).mapError FileError.record := by
  simp [load, read, Except.mapError, bind, Except.bind]

/-- A file that is no text is refused with the octets in front of the first one that belongs to no
character. The line is counted by the line feeds in front of it, and what is reported of it begins
behind the last of them. It is the line of the record that the octet would be in if and only if no
other line breaks are in front of it. -/
theorem load_counts_line_feeds {disk : Disk} {path : Path} {octets : List UInt8}
    (read : disk.read path = .ok octets) (noText : ∀ text, Text.Utf8.encode text ≠ octets) :
    ∃ valid rest error, octets = Text.Utf8.encode valid ++ rest ∧
      (∀ c, ¬ Text.Utf8.encodeChar c <+: rest) ∧
      load disk path = .error (.record error) ∧
      error.fault = .notUtf8 (Text.Utf8.encode valid).length ∧
      error.lineNumber = valid.count '\n' + 1 ∧ Text.lastRow valid <+: error.line.toList ∧
      ∀ c, Text.isLineBreak c = false → ∃ before record,
        Text.lines (valid ++ [c]) = before ++ [record ++ [c]] ∧
        error.lineNumber ≤ before.length + 1 ∧
        (error.lineNumber = before.length + 1 ↔ Text.ByFeeds valid) ∧
        (Text.ByFeeds valid → record = Text.lastRow valid) := by
  obtain ⟨valid, rest, whole, stuck⟩ := Text.Utf8.exists_encode_append octets
  cases rest with
  | nil => exact absurd whole.symm (by simpa using noText valid)
  | cons b rest =>
      obtain ⟨number, line⟩ := utf8Error_of_stuck valid rest stuck
      have refused : ofOctets octets =
          .error (utf8Error octets (Text.Utf8.encode valid).length) := by
        simp only [ofOctets, whole, Text.Utf8.decode_of_stuck stuck (List.cons_ne_nil b rest)]
      rw [← whole] at number line
      refine ⟨valid, b :: rest, _, whole, stuck, ?_, rfl, number, line, fun c plain => ?_⟩
      · rw [load_of_read read, refused]
        rfl
      · obtain ⟨before, cut⟩ := @Text.exists_lines_append valid c plain
        obtain ⟨behind, exactly⟩ := @Text.count_feed_lt_length_lines valid c plain
        rw [cut, List.length_append, List.length_singleton] at behind exactly
        rw [number]
        exact ⟨before, _, cut, behind, exactly, Text.ByFeeds.lastLine_eq⟩

/-- A file with a character on its second line that is cut off. -/
theorem load_counts_line_feeds_of_cut_character :
    let octets := Text.octets "A1:1\nB1:" ++ [0xE2, 0x82]
    let disk := (⟨∅, []⟩ : Disk).put ["s.txt"] (.file octets)
    ∃ valid rest, octets = Text.Utf8.encode valid ++ rest ∧
      (∀ c, ¬ Text.Utf8.encodeChar c <+: rest) ∧
      load disk ⟨0, ["s.txt"]⟩ = .error (.record ⟨.notUtf8 8, 2, "B1:\uFFFD"⟩) ∧
      2 = valid.count '\n' + 1 ∧ Text.lastRow valid <+: "B1:\uFFFD".toList := by
  intro octets disk
  have read : disk.read ⟨0, ["s.txt"]⟩ = .ok octets := by decide +kernel
  have noText (text : List Char) : Text.Utf8.encode text ≠ octets := by
    intro written
    have decoded : Text.Utf8.decode octets = .error 8 := by decide +kernel
    rw [Text.Utf8.decode_eq_ok_iff.2 written] at decoded
    cases decoded
  have reported : load disk ⟨0, ["s.txt"]⟩ =
      .error (.record ⟨.notUtf8 8, 2, "B1:\uFFFD"⟩) := by
    have refused : ofOctets octets = .error ⟨.notUtf8 8, 2, "B1:\uFFFD"⟩ := by decide +kernel
    rw [load_of_read read, refused]
    rfl
  obtain ⟨valid, rest, error, whole, stuck, refused, _, number, row, _⟩ :=
    load_counts_line_feeds read noText
  obtain rfl : ⟨.notUtf8 8, 2, "B1:\uFFFD"⟩ = error := by simpa [reported] using refused
  exact ⟨valid, rest, whole, stuck, reported, number, row⟩

/-- A carriage return ends a line, but the line is not counted, and what is reported begins in front
of it. -/
theorem load_overlooks_carriage_return :
    let octets := Text.octets "A1:1\rB1:" ++ [0xFF]
    let disk := (⟨∅, []⟩ : Disk).put ["s.txt"] (.file octets)
    load disk ⟨0, ["s.txt"]⟩ = .error (.record ⟨.notUtf8 8, 1, "A1:1\rB1:\uFFFD"⟩) ∧
      Text.lines "A1:1\rB1:x".toList = ["A1:1".toList, "B1:x".toList] ∧
      ¬ "B1:".toList <+: "A1:1\rB1:\uFFFD".toList := by
  intro octets disk
  have read : disk.read ⟨0, ["s.txt"]⟩ = .ok octets := by decide +kernel
  have refused : ofOctets octets = .error ⟨.notUtf8 8, 1, "A1:1\rB1:\uFFFD"⟩ := by decide +kernel
  refine ⟨?_, by decide, by decide⟩
  rw [load_of_read read, refused]
  rfl

end Spreadsheet.Sheet
