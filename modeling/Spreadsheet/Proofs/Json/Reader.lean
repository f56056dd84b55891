import Mathlib.Data.List.Basic
import Spreadsheet.Json.Reader

/-! Reading JSON text step by step: blanks are passed, and each token takes the reader on. -/

set_option autoImplicit false

namespace Spreadsheet.Json

/-- From where the reader stands it takes the text in, up to its end, and comes to a value. -/
inductive Reads (levels : Nat) (goal : Json Letters) : ReadState → List Char → Prop where
  | done : Reads levels goal (.complete goal []) []
  | blank {state : ReadState} {c : Char} {rest : List Char} : isBlank c = true →
      Reads levels goal state rest → Reads levels goal state (c :: rest)
  | token {state next : ReadState} {token : Token} {c : Char} {text rest : List Char} :
      isBlank c = false → Token.scan? (c :: text ++ rest) = some (token, rest) →
      state.step levels token = .ok next → Reads levels goal next rest →
        Reads levels goal state (c :: text ++ rest)

section Steps

variable {levels : Nat} {goal : Json Letters} {state next : ReadState} {rest : List Char}
  {outer : List Frame}

/-- As many steps as there are characters are enough, since no token is empty. -/
theorem Reads.tokensWithin {cs : List Char} (reads : Reads levels goal state cs) {steps : Nat}
    (enough : cs.length ≤ steps) :
    ∃ tokens, tokensWithin steps cs = (tokens, false) ∧
      state.run levels tokens = .ok (.complete goal []) := by
  induction reads generalizing steps with
  | done =>
      refine ⟨[], ?_, rfl⟩
      cases steps <;> rfl
  | @blank state c rest passed reads ih =>
      obtain ⟨steps, rfl⟩ := Nat.exists_eq_add_of_lt (Nat.lt_of_lt_of_le (Nat.succ_pos _) enough)
      rw [Nat.zero_add] at enough ⊢
      obtain ⟨tokens, cut, run⟩ := ih (Nat.le_of_succ_le enough)
      refine ⟨tokens, ?_, run⟩
      rw [Json.tokensWithin, List.dropWhile_cons_of_pos passed]
      rw [Json.tokensWithin] at cut
      exact cut
  | @token state next token c text rest visible scanned stepped reads ih =>
      rw [List.cons_append, List.length_cons, List.length_append] at enough
      obtain ⟨steps, rfl⟩ := Nat.exists_eq_add_of_lt (Nat.lt_of_lt_of_le (Nat.succ_pos _) enough)
      have enough : rest.length ≤ 0 + steps := by omega
      obtain ⟨tokens, cut, run⟩ := ih enough
      refine ⟨token :: tokens, ?_, ?_⟩
      · rw [List.cons_append] at scanned ⊢
        rw [Json.tokensWithin, List.dropWhile_cons_of_neg (by simp [visible])]
        simp only [scanned, cut]
      · rw [ReadState.run, stepped]
        exact run

theorem Reads.read_eq {cs : List Char} (reads : Reads levels goal (.nextValue []) cs) :
    read levels cs = .ok goal := by
  obtain ⟨tokens, cut, run⟩ := reads.tokensWithin (Nat.le_refl cs.length)
  simp only [read, Json.tokens, cut, run, bind, Except.bind]

theorem Reads.single {token : Token} {c : Char} (visible : isBlank c = false)
    (scanned : Token.scan? (c :: rest) = some (token, rest))
    (stepped : state.step levels token = .ok next) (reads : Reads levels goal next rest) :
    Reads levels goal state (c :: rest) :=
  @Reads.token levels goal state next token c [] rest visible scanned stepped reads

/-- A value may begin here. -/
def Awaits (levels : Nat) (state : ReadState) (outer : List Frame) : Prop :=
  ∀ token, token ≠ .closeArray → state.step levels token = beginValue levels outer token

theorem awaits_nextValue (levels : Nat) (outer : List Frame) :
    Awaits levels (.nextValue outer) outer :=
  fun _ _ => rfl

theorem awaits_firstItem (levels : Nat) (outer : List Frame) :
    Awaits levels (.firstItem outer) (.array [] :: outer) := by
  intro token other
  cases token with
  | closeArray => exact absurd rfl other
  | _ => rfl

theorem Awaits.open_array (awaits : Awaits levels state outer) (shallow : outer.length < levels) :
    state.step levels .openArray = .ok (.firstItem outer) := by
  rw [awaits _ (by simp), beginValue, if_pos shallow]

theorem Awaits.open_object (awaits : Awaits levels state outer) (shallow : outer.length < levels) :
    state.step levels .openObject = .ok (.firstKey outer) := by
  rw [awaits _ (by simp), beginValue, if_pos shallow]

/-! ### Too many brackets -/

private theorem tokensWithin_replicate (count : Nat) (rest : List Char) {steps : Nat}
    (enough : (List.replicate count '[' ++ rest).length ≤ steps) :
    ∃ tokens stuck, tokensWithin steps (List.replicate count '[' ++ rest) =
      (List.replicate count .openArray ++ tokens, stuck) := by
  induction count generalizing steps with
  | zero => exact ⟨_, _, rfl⟩
  | succ count ih =>
      rw [List.replicate_succ, List.cons_append, List.length_cons] at enough
      obtain ⟨steps, rfl⟩ := Nat.exists_eq_add_of_lt (Nat.lt_of_lt_of_le (Nat.succ_pos _) enough)
      rw [Nat.zero_add] at enough ⊢
      obtain ⟨tokens, stuck, cut⟩ := ih (Nat.le_of_succ_le_succ enough)
      refine ⟨tokens, stuck, ?_⟩
      rw [List.replicate_succ, List.cons_append, tokensWithin,
        List.dropWhile_cons_of_neg (by decide)]
      simp only [Token.scan?, cut, List.replicate_succ, List.cons_append]

/-- Every bracket adds to what is open, up to the one that is too many. -/
theorem run_replicate (awaits : Awaits levels state outer) {count : Nat}
    (deep : levels < outer.length + count) (bounded : outer.length ≤ levels) (tokens : List Token) :
    state.run levels (List.replicate count .openArray ++ tokens) = .error (.tooDeep .array) := by
  induction count generalizing state outer with
  | zero => omega
  | succ count ih =>
      rw [List.replicate_succ, List.cons_append, ReadState.run]
      rcases Nat.lt_or_ge outer.length levels with shallow | full
      · rw [awaits.open_array shallow]
        refine ih (awaits_firstItem levels outer) ?_ shallow
        rw [List.length_cons]
        omega
      · rw [awaits _ (by simp), beginValue, if_neg (Nat.not_lt.2 full)]
        rfl

/-- A text that opens more arrays than may be open is not read to its end, whatever stands
there. -/
theorem read_replicate {count : Nat} (deep : levels < count) (rest : List Char) :
    read levels (List.replicate count '[' ++ rest) = .error (.tooDeep .array) := by
  obtain ⟨tokens, stuck, cut⟩ := tokensWithin_replicate count rest (Nat.le_refl _)
  rw [read, Json.tokens, cut]
  have refused := run_replicate (awaits_nextValue levels []) (Nat.lt_of_lt_of_eq deep
    (Nat.zero_add count).symm) (Nat.zero_le levels) tokens
  simp only [refused, bind, Except.bind]

end Steps

end Spreadsheet.Json
