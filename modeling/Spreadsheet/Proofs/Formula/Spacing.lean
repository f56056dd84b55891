import Mathlib.Data.List.Chain
import Spreadsheet.Proofs.Formula.Grammar

/-! Which blanks between the tokens of a formula matter: none. Two operands never stand
side by side in the grammar, so no token runs into the next one when the blanks go. -/

set_option autoImplicit false

namespace Spreadsheet.Formula

/-! ### Where an operand ends -/

/-- Numerals and references: the tokens that more characters can make longer. -/
def Token.isOperand : Token → Bool
  | number _ => true
  | reference _ => true
  | _ => false

/-- The text is empty or begins with a skipped blank or a sign. -/
def Stops (rest : List Char) : Prop :=
  ∀ c ∈ rest.head?, isSkipped c = true ∨ (Token.ofSign? c).isSome = true

section Stops

variable {c : Char} {rest : List Char} {token : Token}

theorem not_continues_of_stop (stop : isSkipped c = true ∨ (Token.ofSign? c).isSome = true) :
    ¬ Numeral.Continues c ∧ ¬ CellId.isRowDigit c = true := by
  rcases stop with skipped | sign
  · simp only [isSkipped, Bool.or_eq_true, beq_iff_eq] at skipped
    rcases skipped with (((rfl | rfl) | rfl) | rfl) | rfl <;> unfold Numeral.Continues <;> decide
  · unfold Token.ofSign? at sign
    split at sign
    case h_8 => cases sign
    all_goals
      unfold Numeral.Continues
      decide

/-- A token is the longest one where it stands unless it is an operand that goes on. -/
theorem Token.longest_of_stops (formed : token.WellFormed)
    (stops : token.isOperand = true → Stops rest) : token.Longest rest := by
  suffices scanned : scan? (token.text ++ rest) = some (token, rest) from
    (scan?_eq_some_iff.1 scanned).2
  cases token with
  | equals => rfl
  | operator op => cases op <;> rfl
  | opening => rfl
  | closing => rfl
  | number n =>
      have ends : ∀ c ∈ rest.head?, ¬ Numeral.Continues c :=
        fun c first => (not_continues_of_stop (stops rfl c first)).1
      have scanned := Numeral.scan?_append_of_stops formed ends
      obtain ⟨c, tail, shape, begins⟩ := Numeral.WellFormed.text_eq_cons formed
      change scan? (n.text ++ rest) = _
      rw [shape, List.cons_append] at scanned ⊢
      rw [scan?, ofSign?_eq_none (.inl begins), scanned]
  | reference cell =>
      have scanned := CellId.scan?_append_of_valid formed rest
      have ends : rest.takeWhile CellId.isRowDigit = [] ∧ rest.dropWhile CellId.isRowDigit = rest := by
        cases rest with
        | nil => exact ⟨rfl, rfl⟩
        | cons c tail =>
            have other := (not_continues_of_stop (stops rfl c rfl)).2
            exact ⟨List.takeWhile_cons_of_neg other, List.dropWhile_cons_of_neg other⟩
      obtain ⟨c, tail, shape, letter⟩ := CellId.Valid.eq_cons formed
      rw [ends.1, ends.2, List.append_nil] at scanned
      change scan? (cell ++ rest) = _
      rw [shape, List.cons_append] at scanned ⊢
      rw [scan?, ofSign?_eq_none (.inr letter), numeral_scan?_eq_none letter, scanned]
      rfl

private theorem Token.text_of_not_operand (other : token.isOperand = false) :
    ∃ c, token.text = [c] ∧ (ofSign? c).isSome = true := by
  cases token with
  | equals => exact ⟨_, rfl, rfl⟩
  | operator op => cases op <;> exact ⟨_, rfl, rfl⟩
  | opening => exact ⟨_, rfl, rfl⟩
  | closing => exact ⟨_, rfl, rfl⟩
  | number => cases other
  | reference => cases other

theorem Token.WellFormed.isBlank_of_mem_text (formed : token.WellFormed) (member : c ∈ token.text) :
    Text.isBlank c = false := by
  cases token with
  | equals => rw [List.mem_singleton.1 member]; rfl
  | operator op => rw [List.mem_singleton.1 member]; cases op <;> rfl
  | opening => rw [List.mem_singleton.1 member]; rfl
  | closing => rw [List.mem_singleton.1 member]; rfl
  | number n => exact Numeral.WellFormed.isBlank_of_mem_text formed c member
  | reference cell => exact (CellId.Valid.of_mem formed member).1

/-- No token goes on over a blank, so what stands behind one does not matter. -/
theorem Token.Longest.of_skipped (longest : token.Longest rest) (skipped : isSkipped c = true)
    (more : List Char) : token.Longest (rest ++ c :: more) := by
  refine ⟨longest.formed, fun other formed starts => longest.longest other formed ?_⟩
  rw [← List.append_assoc] at starts
  by_cases short : other.text.length ≤ (token.text ++ rest).length
  · exact List.prefix_of_prefix_length_le starts (List.prefix_append _ _) short
  · have reaches : token.text ++ rest ++ [c] <+: token.text ++ rest ++ c :: more :=
      (List.prefix_append_right_inj _).2 ⟨more, rfl⟩
    have included : token.text ++ rest ++ [c] <+: other.text := by
      refine List.prefix_of_prefix_length_le reaches starts ?_
      rw [List.length_append, List.length_singleton]
      omega
    have visible := formed.isBlank_of_mem_text (included.subset (by simp : c ∈ _ ++ [c]))
    rw [isBlank_of_isSkipped skipped] at visible
    cases visible

end Stops

/-! ### Tokens with any blanks -/

/-- These tokens one after the other, with any skipped blanks before, between and behind
them, or with none. -/
inductive Spaced : List Char → List Token → Prop where
  | nil : Spaced [] []
  | skip {c : Char} {cs : List Char} {tokens : List Token} : isSkipped c = true →
      Spaced cs tokens → Spaced (c :: cs) tokens
  | token {token : Token} {rest : List Char} {tokens : List Token} : token.WellFormed →
      Spaced rest tokens → Spaced (token.text ++ rest) (token :: tokens)

/-- No two operands side by side. -/
def Apart (tokens : List Token) : Prop :=
  tokens.IsChain fun token next => token.isOperand = true → next.isOperand = false

section Spaced

variable {cs : List Char} {tokens : List Token}

theorem Splits.spaced (splits : Splits cs tokens) : Spaced cs tokens := by
  induction splits with
  | nil => exact .nil
  | skip skipped _ ih => exact .skip skipped ih
  | token longest _ ih => exact .token longest.formed ih

theorem Spaced.append {more : List Char} {others : List Token} (spaced : Spaced cs tokens)
    (behind : Spaced more others) : Spaced (cs ++ more) (tokens ++ others) := by
  induction spaced with
  | nil => exact behind
  | skip skipped _ ih => exact .skip skipped ih
  | token formed _ ih =>
      rw [List.append_assoc]
      exact .token formed ih

theorem Spaced.stops (spaced : Spaced cs tokens)
    (other : ∀ token ∈ tokens.head?, token.isOperand = false) : Stops cs := by
  cases spaced with
  | nil => exact fun c first => by cases first
  | skip skipped =>
      rintro c ⟨⟩
      exact .inl skipped
  | @token token rest tokens =>
      obtain ⟨c, shape, sign⟩ := Token.text_of_not_operand (other token rfl)
      rw [shape]
      rintro c ⟨⟩
      exact .inr sign

private theorem Splits.append_of_skipped {c : Char} {more : List Char} {others : List Token}
    (splits : Splits cs tokens) (skipped : isSkipped c = true) (behind : Splits more others) :
    Splits (cs ++ c :: more) (tokens ++ others) := by
  induction splits with
  | nil => exact .skip skipped behind
  | skip first _ ih => exact .skip first ih
  | token longest _ ih =>
      rw [List.append_assoc]
      exact .token (longest.of_skipped skipped more) ih

theorem splits_append_of_skipped {blanks : List Char} (skipped : ∀ c ∈ blanks, isSkipped c = true)
    (behind : Splits cs tokens) : Splits (blanks ++ cs) tokens := by
  induction blanks with
  | nil => exact behind
  | cons c rest ih =>
      rw [List.forall_mem_cons] at skipped
      exact .skip skipped.1 (ih skipped.2)

/-- Operands that no other operand follows are found again, whatever the blanks. -/
theorem Spaced.splits (spaced : Spaced cs tokens) (apart : Apart tokens) : Splits cs tokens := by
  induction spaced with
  | nil => exact .nil
  | skip skipped _ ih => exact .skip skipped (ih apart)
  | @token token rest tokens formed behind ih =>
      refine .token (Token.longest_of_stops formed fun operand => ?_) (ih apart.tail)
      exact behind.stops fun next first => apart.rel_head? first operand

end Spaced

/-! ### Formulas -/

theorem Apart.sign {token : Token} {tokens others : List Token} (first : Apart tokens)
    (second : Apart others) (sign : token.isOperand = false) :
    Apart (tokens ++ token :: others) := by
  refine List.isChain_append.2 ⟨first, second.cons fun next _ operand => ?_, ?_⟩
  · rw [sign] at operand
    cases operand
  · rintro last _ next ⟨⟩ _
    exact sign

theorem Derives.apart {level : Level} {tokens : List Token} {tree : Formula}
    (derived : Derives level tokens tree) : Apart tokens := by
  induction derived with
  | sum _ ih => exact ih
  | additive _ _ _ leftIH rightIH => exact leftIH.sign rightIH rfl
  | product _ ih => exact ih
  | multiplicative _ _ _ leftIH rightIH => exact leftIH.sign rightIH rfl
  | unary _ ih => exact ih
  | negate _ ih => exact Apart.sign .nil ih rfl
  | number => exact .singleton _
  | reference => exact .singleton _
  | group _ ih => exact Apart.sign (Apart.sign .nil ih rfl) .nil rfl

theorem Derives.unique {level : Level} {tokens : List Token} {first second : Formula}
    (derived : Derives level tokens first) (other : Derives level tokens second) :
    first = second := by
  -- The reader takes both derivations to one state, and the state shows the tree.
  have firstReads := derived.reads
  have secondReads := other.reads
  cases level with
  | sum =>
      obtain ⟨sum, value, rfl, behind⟩ := firstReads []
      obtain ⟨_, _, rfl, again⟩ := secondReads []
      rw [behind] at again
      cases again
      rfl
  | product =>
      have behind := firstReads none []
      rw [secondReads none []] at behind
      cases behind
      rfl
  | unary =>
      have behind := firstReads .none []
      rw [secondReads .none []] at behind
      cases behind
      rfl
  | atom =>
      have behind := firstReads .none []
      rw [secondReads .none []] at behind
      cases behind
      rfl

theorem Writes.of_spaced {text other : List Char} {tokens : List Token} {tree : Formula}
    (writes : Writes text tree) (splits : Splits (Text.trim text) tokens)
    (spaced : Spaced (Text.trim other) tokens) : Writes other tree := by
  obtain ⟨rest, marked, derived⟩ := writes
  have same : tokens = .equals :: rest := marked.unique splits
  subst same
  exact ⟨rest, spaced.splits (Apart.sign .nil derived.apart rfl), derived⟩

section Blanks

variable {text other before blanks behind : List Char} {us vs : List Token}
  (narrow : Text.trim text = before ++ behind)
  (wide : Text.trim other = before ++ (blanks ++ behind))
  (skipped : ∀ c ∈ blanks, isSkipped c = true) (first : Splits before us)
  (second : Splits behind vs)

include narrow wide skipped first second

private theorem Writes.without_blanks {tree : Formula} (writes : Writes other tree) :
    Writes text tree := by
  cases blanks with
  | nil =>
      rw [List.nil_append] at wide
      rwa [Writes, narrow, ← wide]
  | cons c rest =>
      rw [List.forall_mem_cons] at skipped
      -- With a blank between them the two parts are cut apart, whatever they hold.
      have splits : Splits (Text.trim other) (us ++ vs) := by
        rw [wide]
        exact first.append_of_skipped skipped.1 (splits_append_of_skipped skipped.2 second)
      refine writes.of_spaced splits ?_
      rw [narrow]
      exact first.spaced.append second.spaced

private theorem Writes.with_blanks (splits : Splits (before ++ behind) (us ++ vs)) {tree : Formula}
    (writes : Writes text tree) : Writes other tree := by
  refine writes.of_spaced (narrow ▸ splits) ?_
  rw [wide]
  exact first.spaced.append (splits_append_of_skipped skipped second).spaced

end Blanks

/-- The reader accepts exactly the texts of the grammar and gives their trees, and no list
of tokens has two. Blanks may be put in between two tokens of a text, and left out between
two tokens of a formula, without a change to the tree that the reader gives. -/
theorem parse_follows_grammar :
    (∀ text tree, parse text = .ok tree ↔ Writes text tree) ∧
    (∀ level tokens first second, Derives level tokens first → Derives level tokens second →
      first = second) ∧
    ∀ text other before blanks behind us vs, Text.trim text = before ++ behind →
      Text.trim other = before ++ (blanks ++ behind) → (∀ c ∈ blanks, isSkipped c = true) →
      Splits before us → Splits behind vs →
      (Splits (before ++ behind) (us ++ vs) →
        ∀ tree, parse other = .ok tree ↔ parse text = .ok tree) ∧
      ∀ tree, parse other = .ok tree → parse text = .ok tree := by
  refine ⟨fun _ _ => parse_eq_ok_iff, fun _ _ _ _ => Derives.unique, ?_⟩
  intro text other before blanks behind us vs narrow wide skipped first second
  simp only [parse_eq_ok_iff]
  have removing : ∀ tree, Writes other tree → Writes text tree :=
    fun tree => Writes.without_blanks narrow wide skipped first second
  refine ⟨fun splits tree => ⟨removing tree, ?_⟩, removing⟩
  exact Writes.with_blanks narrow wide skipped first second splits

end Spreadsheet.Formula
