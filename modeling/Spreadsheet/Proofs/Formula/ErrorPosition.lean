import Spreadsheet.Proofs.Formula.Rendering

/-! An error stands at the first place where a text stops to be the beginning of a formula. -/

set_option autoImplicit false

namespace Spreadsheet.Formula

/-! ### Beginnings of formulas -/

/-- Some formula that is read has these tokens. -/
def Accepted (tokens : List Token) : Prop :=
  ∃ text tree, parse text = .ok tree ∧ Splits (Text.trim text) tokens

section Accepted

variable {tokens : List Token} {state : ReadState}

theorem accepted_iff :
    Accepted tokens ↔ (∀ token ∈ tokens, token.WellFormed) ∧
      ∃ state tree, ReadState.start.behind? tokens = some state ∧ state.formula? = some tree := by
  constructor
  · rintro ⟨text, tree, parsed, splits⟩
    obtain ⟨rest, marked, derived⟩ := parse_eq_ok_iff.1 parsed
    have same : tokens = .equals :: rest := marked.unique splits
    obtain ⟨state, reached, finished⟩ := formula?_behind_iff.2 ⟨rest, same, derived⟩
    exact ⟨splits.wellFormed, state, tree, reached, finished⟩
  · rintro ⟨formed, state, tree, reached, finished⟩
    obtain ⟨rest, rfl, derived⟩ := formula?_behind_iff.1 ⟨state, reached, finished⟩
    have splits := derived.splits (List.forall_mem_cons.1 formed).2
    exact ⟨_, tree, parse_eq_ok_iff.2 ⟨rest, splits, derived⟩, splits⟩

/-- Behind an operand the open parentheses are closed one after the other. -/
private theorem exists_completion_of_operator (outer : List Pending)
    (sum : Option (Formula × Operator)) (value : Formula) :
    ∃ more : List Token, (∀ token ∈ more, token.WellFormed) ∧ ∃ final tree,
      (ReadState.operator sum value outer).behind? more = some final ∧
        final.formula? = some tree := by
  induction outer generalizing sum value with
  | nil => exact ⟨[], nofun, _, _, rfl, rfl⟩
  | cons pending outer ih =>
      obtain ⟨more, formed, final, tree, reached, finished⟩ := ih pending.sum
        (joined pending.product (negated pending.minuses (joined sum value)))
      exact ⟨.closing :: more, List.forall_mem_cons.2 ⟨trivial, formed⟩, final, tree, reached,
        finished⟩

/-- From every state some tokens lead to a formula. -/
private theorem exists_completion (state : ReadState) :
    ∃ more : List Token, (∀ token ∈ more, token.WellFormed) ∧ ∃ final tree,
      state.behind? more = some final ∧ final.formula? = some tree := by
  have cell : CellId.Valid "A1".toList := CellId.isValid_iff.1 (by decide +kernel)
  cases state with
  | start =>
      refine ⟨[.equals, .reference ['A', '1']], ?_, _, _, rfl, rfl⟩
      exact List.forall_mem_cons.2 ⟨trivial, List.forall_mem_singleton.2 cell⟩
  | operand pending outer =>
      obtain ⟨more, formed, final, tree, reached, finished⟩ := exists_completion_of_operator outer
        pending.sum (joined pending.product (negated pending.minuses
          (.reference (String.ofList ['A', '1']))))
      exact ⟨.reference ['A', '1'] :: more, List.forall_mem_cons.2 ⟨cell, formed⟩, final, tree,
        reached, finished⟩
  | operator sum value outer => exact exists_completion_of_operator outer sum value

theorem exists_accepted (formed : ∀ token ∈ tokens, token.WellFormed)
    (reached : ReadState.start.behind? tokens = some state) :
    ∃ more, Accepted (tokens ++ more) := by
  obtain ⟨more, others, final, tree, onward, finished⟩ := exists_completion state
  refine ⟨more, accepted_iff.2 ⟨List.forall_mem_append.2 ⟨formed, others⟩, final, tree, ?_,
    finished⟩⟩
  rw [ReadState.behind?_append, reached, Option.bind_some, onward]

theorem Accepted.exists_state {more : List Token} (accepted : Accepted (tokens ++ more)) :
    ∃ state, ReadState.start.behind? tokens = some state := by
  obtain ⟨_, state, tree, reached, _⟩ := accepted_iff.1 accepted
  rw [ReadState.behind?_append, Option.bind_eq_some_iff] at reached
  exact ⟨reached.choose, reached.choose_spec.1⟩

/-- A token is refused exactly where no formula goes on with it. -/
theorem step?_eq_none_iff {token : Token} (formed : ∀ token ∈ tokens, token.WellFormed)
    (wellFormed : token.WellFormed) (reached : ReadState.start.behind? tokens = some state) :
    state.step? token = none ↔ ∀ more, ¬ Accepted (tokens ++ token :: more) := by
  constructor
  · intro refused more accepted
    obtain ⟨_, final, tree, whole, _⟩ := accepted_iff.1 accepted
    rw [ReadState.behind?_append, reached, Option.bind_some, ReadState.behind?_cons, refused]
      at whole
    cases whole
  · intro never
    refine Option.eq_none_iff_forall_ne_some.2 fun next stepped => ?_
    have further : ReadState.start.behind? (tokens ++ [token]) = some next := by
      rw [ReadState.behind?_append, reached, Option.bind_some, ReadState.behind?_cons, stepped]
      rfl
    obtain ⟨more, accepted⟩ := exists_accepted
      (List.forall_mem_append.2 ⟨formed, List.forall_mem_singleton.2 wellFormed⟩) further
    rw [List.append_assoc] at accepted
    exact never more accepted

theorem formula?_eq_none_iff (formed : ∀ token ∈ tokens, token.WellFormed)
    (reached : ReadState.start.behind? tokens = some state) :
    state.formula? = none ↔ ¬ Accepted tokens := by
  rw [accepted_iff, and_iff_right formed, ← Option.not_isSome_iff_eq_none,
    Option.isSome_iff_exists]
  simp [reached]

end Accepted

/-! ### Cutting off the beginning of a text -/

/-- In front of the rest the text is these tokens, each the longest where it begins, with skipped
blanks before, between and behind them. -/
inductive Cuts (rest : List Char) : List Char → List Token → Prop where
  | nil : Cuts rest [] []
  | skip {c : Char} {cs : List Char} {tokens : List Token} : isSkipped c = true →
      Cuts rest cs tokens → Cuts rest (c :: cs) tokens
  | token {token : Token} {cs : List Char} {tokens : List Token} : token.Longest (cs ++ rest) →
      Cuts rest cs tokens → Cuts rest (token.text ++ cs) (token :: tokens)

section Cuts

variable {rest cs before : List Char} {tokens : List Token} {position : Nat}

theorem Cuts.wellFormed (cuts : Cuts rest before tokens) : ∀ token ∈ tokens, token.WellFormed := by
  induction cuts with
  | nil => exact nofun
  | skip _ _ ih => exact ih
  | token longest _ ih => exact List.forall_mem_cons.2 ⟨longest.formed, ih⟩

/-- The scan finds the tokens that are cut off and goes on with the rest. -/
theorem Cuts.ofTextAt_append (cuts : Cuts rest before tokens) (position : Nat) :
    ∃ located : List (Nat × Token), located.map Prod.snd = tokens ∧
      Scan.ofTextAt position (before ++ rest) =
        ⟨located ++ (Scan.ofTextAt (position + before.length) rest).tokens,
          (Scan.ofTextAt (position + before.length) rest).stuck⟩ := by
  induction cuts generalizing position with
  | nil => exact ⟨[], rfl, rfl⟩
  | @skip c cs tokens skipped _ ih =>
      obtain ⟨located, same, scanned⟩ := ih (position + 1)
      refine ⟨located, same, ?_⟩
      rw [List.cons_append, Scan.ofTextAt_skip position skipped, scanned, List.length_cons,
        Nat.add_right_comm, Nat.add_assoc position]
  | @token token cs tokens longest _ ih =>
      obtain ⟨located, same, scanned⟩ := ih (position + token.text.length)
      refine ⟨(position, token) :: located, by rw [List.map_cons, same], ?_⟩
      rw [List.append_assoc, Scan.ofTextAt_token position longest, scanned, List.length_append,
        Nat.add_assoc]
      rfl

theorem exists_cuts_of_token {token : Token} {place : Nat} {first second : List (Nat × Token)}
    (listed : (Scan.ofTextAt position cs).tokens = first ++ (place, token) :: second) :
    ∃ before behind, cs = before ++ (token.text ++ behind) ∧ place = position + before.length ∧
      Cuts (token.text ++ behind) before (first.map Prod.snd) ∧ token.Longest behind ∧
      Scan.ofTextAt (place + token.text.length) behind =
        ⟨second, (Scan.ofTextAt position cs).stuck⟩ := by
  fun_induction Scan.ofTextAt position cs generalizing first with
  | case1 => simp at listed
  | case2 position c rest skipped ih =>
      obtain ⟨before, behind, rfl, rfl, cuts, longest, onward⟩ := ih listed
      exact ⟨c :: before, behind, rfl, by rw [List.length_cons]; omega, .skip skipped cuts, longest,
        onward⟩
  | case3 => simp at listed
  | case4 position c rest visible found left scanned tail =>
      rename_i ih
      obtain ⟨whole, longest⟩ := Token.scan?_eq_some_iff.1 scanned
      cases first with
      | nil =>
          cases listed
          exact ⟨[], left, whole.symm, rfl, .nil, longest, rfl⟩
      | cons entry first =>
          obtain ⟨rfl, others⟩ := List.cons.inj listed
          obtain ⟨before, behind, rfl, rfl, cuts, further, onward⟩ := ih others
          refine ⟨found.text ++ before, behind, by rw [← whole, List.append_assoc], ?_,
            .token longest cuts, further, onward⟩
          rw [List.length_append, Nat.add_assoc]

private theorem exists_cuts_of_stuck {c : Char} {place : Nat}
    (stuck : (Scan.ofTextAt position cs).stuck = some (place, c)) :
    ∃ before behind, cs = before ++ c :: behind ∧ place = position + before.length ∧
      Cuts (c :: behind) before ((Scan.ofTextAt position cs).tokens.map Prod.snd) ∧
      isSkipped c = false ∧ Token.scan? (c :: behind) = none := by
  fun_induction Scan.ofTextAt position cs with
  | case1 => cases stuck
  | case2 position here rest skipped ih =>
      obtain ⟨before, behind, rfl, rfl, cuts, facts⟩ := ih stuck
      exact ⟨here :: before, behind, rfl, by rw [List.length_cons]; omega, .skip skipped cuts, facts⟩
  | case3 position here rest visible lost =>
      cases stuck
      exact ⟨[], rest, rfl, rfl, .nil, by simpa using visible, lost⟩
  | case4 position here rest visible found left scanned tail ih =>
      obtain ⟨whole, longest⟩ := Token.scan?_eq_some_iff.1 scanned
      obtain ⟨before, behind, rfl, rfl, cuts, facts⟩ := ih stuck
      refine ⟨found.text ++ before, behind, by rw [← whole, List.append_assoc], ?_,
        .token longest cuts, facts⟩
      rw [List.length_append, Nat.add_assoc]

theorem scan?_eq_none_iff :
    Token.scan? cs = none ↔ ∀ token : Token, token.WellFormed → ¬ token.text <+: cs := by
  constructor
  · rintro lost token formed ⟨behind, rfl⟩
    obtain ⟨found, left, scanned, _⟩ := Token.scan?_exact_or_longer formed behind
    rw [lost] at scanned
    cases scanned
  · intro never
    refine Option.eq_none_iff_forall_ne_some.2 fun (found, behind) scanned => ?_
    exact never found (Token.wellFormed_of_scan? scanned) ⟨behind, Token.scan?_append scanned⟩

theorem splits_nil_iff : Splits cs [] ↔ ∀ c ∈ cs, isSkipped c = true := by
  constructor
  · intro splits
    generalize none : ([] : List Token) = tokens at splits
    induction splits with
    | nil => exact nofun
    | skip skipped _ ih => exact List.forall_mem_cons.2 ⟨skipped, ih none⟩
    | token => cases none
  · intro skipped
    rw [← List.append_nil cs]
    exact splits_append_of_skipped skipped .nil

end Cuts

/-! ### Errors -/

/-- Why a text behind its outer blanks is no formula, with the position and the detail of the
error. -/
inductive Refusal : List Char → Nat → String → Prop where
  /-- The whole text is the beginning of longer formulas only. -/
  | ended {before blanks : List Char} {tokens more : List Token} {last : Token} :
      Cuts (last.text ++ blanks) before tokens → last.Longest blanks →
      (∀ c ∈ blanks, isSkipped c = true) →
      Splits (before ++ (last.text ++ blanks)) (tokens ++ [last]) →
      ¬ Accepted (tokens ++ [last]) → more ≠ [] → Accepted (tokens ++ [last] ++ more) →
      Refusal (before ++ (last.text ++ blanks)) before.length "unexpected end of formula"
  /-- Formulas go on with other characters than the first one of the rest, and no token begins
  with it. -/
  | character {before behind : List Char} {tokens more : List Token} {c : Char} :
      Cuts (c :: behind) before tokens → isSkipped c = false → Accepted (tokens ++ more) →
      (∀ token : Token, token.WellFormed → ¬ token.text <+: c :: behind) →
      Refusal (before ++ c :: behind) before.length
        ("unexpected character " ++ Text.quote (String.singleton c))
  /-- No formula goes on with the longest token of the rest. -/
  | token {before behind : List Char} {tokens more : List Token} {token : Token} :
      Cuts (token.text ++ behind) before tokens → token.Longest behind →
      Accepted (tokens ++ more) → (∀ further, ¬ Accepted (tokens ++ token :: further)) →
      Refusal (before ++ (token.text ++ behind)) before.length
        ("unexpected token " ++ Text.quote (String.ofList token.text))

section Refusal

variable {cs : List Char} {error : ParseError}

private theorem refusal_of_token {place : Nat} {token : Token}
    (refused : ReadState.start.run (Scan.ofText cs).tokens = .error (place, token)) :
    Refusal cs place ("unexpected token " ++ Text.quote (String.ofList token.text)) := by
  obtain ⟨first, second, state, listed, reached, lost⟩ := ReadState.run_eq_error_iff.1 refused
  obtain ⟨before, behind, rfl, rfl, cuts, longest, _⟩ := exists_cuts_of_token listed
  obtain ⟨more, viable⟩ := exists_accepted cuts.wellFormed reached
  rw [Nat.zero_add]
  exact .token cuts longest viable
    ((step?_eq_none_iff cuts.wellFormed longest.formed reached).1 lost)

private theorem refusal_of_character {state : ReadState} {place : Nat} {c : Char}
    (read : ReadState.start.run (Scan.ofText cs).tokens = .ok state)
    (stuck : (Scan.ofText cs).stuck = some (place, c)) :
    Refusal cs place ("unexpected character " ++ Text.quote (String.singleton c)) := by
  obtain ⟨before, behind, rfl, rfl, cuts, visible, lost⟩ := exists_cuts_of_stuck stuck
  obtain ⟨more, viable⟩ := exists_accepted cuts.wellFormed (ReadState.run_eq_ok_iff.1 read)
  rw [Nat.zero_add]
  exact .character cuts visible viable (scan?_eq_none_iff.1 lost)

private theorem refusal_of_end {state : ReadState} (marked : cs.head? = some '=')
    (read : ReadState.start.run (Scan.ofText cs).tokens = .ok state)
    (complete : (Scan.ofText cs).stuck = none) (unfinished : state.formula? = none) :
    Refusal cs (((Scan.ofText cs).tokens.getLast?.map Prod.fst).getD 0)
      "unexpected end of formula" := by
  have splits := Scan.splits_ofTextAt 0 cs complete
  have reached := ReadState.run_eq_ok_iff.1 read
  rcases List.eq_nil_or_concat (Scan.ofText cs).tokens with none | ⟨first, ⟨place, last⟩, listed⟩
  · -- The marker is not skipped, so there is a token.
    change Splits cs ((Scan.ofText cs).tokens.map Prod.snd) at splits
    rw [none] at splits
    have skipped := splits_nil_iff.1 splits '=' (List.mem_of_mem_head? marked)
    cases skipped
  · rw [List.concat_eq_append] at listed
    obtain ⟨before, blanks, rfl, rfl, cuts, longest, onward⟩ := exists_cuts_of_token listed
    change Splits _ ((Scan.ofText _).tokens.map Prod.snd) at splits
    rw [listed, List.map_append] at splits reached
    have skipped : ∀ c ∈ blanks, isSkipped c = true := by
      refine splits_nil_iff.1 ((Scan.splits_iff _).2 ⟨?_, congrArg (·.tokens.map Prod.snd) onward⟩)
      rw [onward]
      exact complete
    obtain ⟨more, viable⟩ := exists_accepted splits.wellFormed reached
    have short := (formula?_eq_none_iff splits.wellFormed reached).1 unfinished
    have further : more ≠ [] := by
      rintro rfl
      rw [List.append_nil] at viable
      exact short viable
    rw [listed, List.getLast?_append, Nat.zero_add]
    exact .ended cuts longest skipped splits short further viable

private theorem refusal_of_error (marked : cs.head? = some '=')
    (failed : ofScan (Scan.ofText cs) = .error error) :
    Refusal cs error.position error.detail := by
  unfold ofScan at failed
  split at failed
  · rename_i refused
    cases failed
    exact refusal_of_token refused
  · rename_i read
    split at failed
    · rename_i stuck
      cases failed
      exact refusal_of_character read stuck
    · rename_i complete
      split at failed
      · cases failed
      · rename_i unfinished
        cases failed
        exact refusal_of_end marked read complete unfinished

private theorem Refusal.exists_error {position : Nat} {detail : String}
    (refusal : Refusal cs position detail) :
    ∃ error, ofScan (Scan.ofText cs) = .error error ∧ error.position = position ∧
      error.detail = detail := by
  cases refusal with
  | @ended before blanks tokens more last cuts longest skipped splits short _ viable =>
      obtain ⟨located, _, scanned⟩ := cuts.ofTextAt_append 0
      obtain ⟨none, nothing⟩ := (Scan.splits_iff (0 + before.length + last.text.length)).1
        (splits_nil_iff.2 skipped)
      rw [Scan.ofTextAt_token _ longest, none, List.map_eq_nil_iff.1 nothing] at scanned
      obtain ⟨state, reached⟩ := viable.exists_state
      have read : ReadState.start.run (Scan.ofText (before ++ (last.text ++ blanks))).tokens =
          .ok state := by
        rw [ReadState.run_eq_ok_iff]
        have found := ((Scan.splits_iff 0).1 splits).2
        rwa [← found] at reached
      refine ⟨.unexpectedEnd before.length, ?_, rfl, rfl⟩
      rw [ofScan, read]
      dsimp only
      rw [Scan.ofText, scanned, (formula?_eq_none_iff splits.wellFormed reached).2 short]
      simp
  | @character before behind tokens more c cuts visible viable never =>
      obtain ⟨located, same, scanned⟩ := cuts.ofTextAt_append 0
      obtain ⟨state, reached⟩ := viable.exists_state
      have stuck : Scan.ofTextAt (0 + before.length) (c :: behind) =
          ⟨[], some (0 + before.length, c)⟩ := by
        rw [Scan.ofTextAt, if_neg (by simp [visible])]
        split
        · rfl
        · rename_i found
          rw [scan?_eq_none_iff.2 never] at found
          cases found
      have read : ReadState.start.run located = .ok state :=
        ReadState.run_eq_ok_iff.2 (same ▸ reached)
      refine ⟨.unexpectedCharacter c before.length, ?_, rfl, rfl⟩
      rw [Scan.ofText, scanned, stuck, List.append_nil, ofScan, read, Nat.zero_add]
  | @token before behind tokens more token cuts longest viable never =>
      obtain ⟨located, same, scanned⟩ := cuts.ofTextAt_append 0
      obtain ⟨state, reached⟩ := viable.exists_state
      have refused := (step?_eq_none_iff cuts.wellFormed longest.formed reached).2 never
      refine ⟨.unexpectedToken token.text before.length, ?_, rfl, rfl⟩
      rw [Scan.ofTextAt_token _ longest] at scanned
      have stops : ReadState.start.run (Scan.ofText (before ++ (token.text ++ behind))).tokens =
          .error (before.length, token) := by
        rw [ReadState.run_eq_error_iff, Scan.ofText, scanned, Nat.zero_add]
        exact ⟨located, _, state, rfl, same ▸ reached, refused⟩
      rw [ofScan, stops]

end Refusal

/-- A text with the marker is refused with the position and the detail that tell where it stops to
be the beginning of a formula, and why. -/
theorem parse_error_iff {text : List Char} (marked : (Text.trim text).head? = some '=')
    (position : Nat) (detail : String) :
    (∃ error, parse text = .error error ∧ error.position = position ∧ error.detail = detail) ↔
      Refusal (Text.trim text) position detail := by
  have parsed : parse text = ofScan (Scan.ofText (Text.trim text)) := by
    obtain ⟨rest, shape⟩ := List.head?_eq_some_iff.1 marked
    rw [parse, shape]
    rfl
  rw [parsed]
  constructor
  · rintro ⟨error, failed, rfl, rfl⟩
    exact refusal_of_error marked failed
  · exact Refusal.exists_error

/-- An opening parenthesis behind an operand. -/
theorem refusal_of_opening :
    (Text.trim " =A1 (5)".toList).head? = some '=' ∧
      Refusal (Text.trim " =A1 (5)".toList) 4 "unexpected token '('" := by
  have marked : (Text.trim " =A1 (5)".toList).head? = some '=' := by decide +kernel
  have failed : parse " =A1 (5)".toList = .error (.unexpectedToken ['('] 4) := by decide +kernel
  have detail : (ParseError.unexpectedToken ['('] 4).detail = "unexpected token '('" := by
    decide +kernel
  exact ⟨marked, (parse_error_iff marked 4 _).1 ⟨_, failed, rfl, detail⟩⟩

end Spreadsheet.Formula
