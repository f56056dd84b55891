import Mathlib.Tactic.Common
import Spreadsheet.Formula.Parser
import Spreadsheet.Proofs.Formula.Token
import Spreadsheet.Proofs.Text.Blank

/-! The grammar of formulas, and that the reader accepts exactly its texts and builds
exactly its trees. -/

set_option autoImplicit false

namespace Spreadsheet.Formula

/-- What a derivation is of. Each level binds tighter than the one before. -/
inductive Level where
  | sum
  | product
  | unary
  | atom

/-- The grammar. Sums and products associate to the left, and parentheses leave no node. -/
inductive Derives : Level → List Token → Formula → Prop where
  | sum {tokens : List Token} {tree : Formula} : Derives .product tokens tree →
      Derives .sum tokens tree
  | additive {left right : List Token} {l r : Formula} {op : Operator} : op = .add ∨ op = .sub →
      Derives .sum left l → Derives .product right r →
      Derives .sum (left ++ .operator op :: right) (.binary op l r)
  | product {tokens : List Token} {tree : Formula} : Derives .unary tokens tree →
      Derives .product tokens tree
  | multiplicative {left right : List Token} {l r : Formula} {op : Operator} :
      op = .mul ∨ op = .div → Derives .product left l → Derives .unary right r →
      Derives .product (left ++ .operator op :: right) (.binary op l r)
  | unary {tokens : List Token} {tree : Formula} : Derives .atom tokens tree →
      Derives .unary tokens tree
  | negate {tokens : List Token} {tree : Formula} : Derives .unary tokens tree →
      Derives .unary (.operator .sub :: tokens) (.negate tree)
  | number (numeral : Numeral) : Derives .atom [.number numeral] (.number numeral.value)
  | reference (cell : List Char) :
      Derives .atom [.reference cell] (.reference (String.ofList cell))
  | group {tokens : List Token} {tree : Formula} : Derives .sum tokens tree →
      Derives .atom (.opening :: tokens ++ [.closing]) tree

/-- The text of a formula: the marker and a sum, outer blanks apart. -/
def Writes (text : List Char) (tree : Formula) : Prop :=
  ∃ tokens, Splits (Text.trim text) (.equals :: tokens) ∧ Derives .sum tokens tree

def ReadState.behind? (state : ReadState) (tokens : List Token) : Option ReadState :=
  tokens.foldlM ReadState.step? state

theorem ReadState.behind?_append (state : ReadState) (first second : List Token) :
    state.behind? (first ++ second) = (state.behind? first).bind (·.behind? second) :=
  List.foldlM_append

theorem ReadState.behind?_cons (state : ReadState) (token : Token) (tokens : List Token) :
    state.behind? (token :: tokens) = (state.step? token).bind (·.behind? tokens) :=
  List.foldlM_cons

theorem ReadState.run_eq_ok_iff {state final : ReadState} {tokens : List (Nat × Token)} :
    state.run tokens = .ok final ↔ state.behind? (tokens.map Prod.snd) = some final := by
  induction tokens generalizing state with
  | nil =>
      rw [run, Except.ok.injEq]
      exact Option.some_inj.symm
  | cons token rest ih =>
      obtain ⟨position, token⟩ := token
      rw [run, List.map_cons, behind?_cons]
      cases state.step? token with
      | none => simp
      | some next => exact ih

/-- A run is stopped by the first token that its state refuses. -/
theorem ReadState.run_eq_error_iff {state : ReadState} {tokens : List (Nat × Token)}
    {refused : Nat × Token} :
    state.run tokens = .error refused ↔ ∃ first second reached,
      tokens = first ++ refused :: second ∧
        state.behind? (first.map Prod.snd) = some reached ∧ reached.step? refused.2 = none := by
  induction tokens generalizing state with
  | nil => simp [run]
  | cons entry rest ih =>
      obtain ⟨position, token⟩ := entry
      rw [run]
      cases stepped : state.step? token with
      | none =>
          constructor
          · rintro ⟨⟩
            exact ⟨[], rest, state, rfl, rfl, stepped⟩
          · rintro ⟨first, second, reached, split, onward, lost⟩
            cases first with
            | nil => cases split; rfl
            | cons other first =>
                obtain ⟨rfl, rfl⟩ := List.cons.inj split
                rw [List.map_cons, behind?_cons, stepped] at onward
                cases onward
      | some next =>
          change next.run rest = _ ↔ _
          rw [ih]
          constructor
          · rintro ⟨first, second, reached, rfl, onward, lost⟩
            refine ⟨(position, token) :: first, second, reached, rfl, ?_, lost⟩
            rw [List.map_cons, behind?_cons, stepped]
            exact onward
          · rintro ⟨first, second, reached, split, onward, lost⟩
            cases first with
            | nil =>
                cases split
                cases onward
                rw [stepped] at lost
                cases lost
            | cons other first =>
                obtain ⟨rfl, rfl⟩ := List.cons.inj split
                rw [List.map_cons, behind?_cons, stepped] at onward
                exact ⟨first, second, reached, rfl, onward, lost⟩

/-! ### Texts of the grammar are accepted -/

section Complete

private theorem negated_negate (count : Nat) (formula : Formula) :
    negated count (.negate formula) = negated (count + 1) formula := by
  induction count with
  | zero => rfl
  | succ count ih =>
      rw [negated, ih]
      rfl

/-- The reader goes over the tokens of a level and has their tree behind them. -/
def Level.Reads : Level → List Token → Formula → Prop
  | .sum, tokens, tree => ∀ outer, ∃ sum value, joined sum value = tree ∧
      (ReadState.operand .none outer).behind? tokens = some (.operator sum value outer)
  | .product, tokens, tree => ∀ sum outer,
      (ReadState.operand ⟨sum, .none, 0⟩ outer).behind? tokens = some (.operator sum tree outer)
  | .unary, tokens, tree => ∀ pending outer,
      (ReadState.operand pending outer).behind? tokens = some (pending.complete outer tree)
  | .atom, tokens, tree => ∀ pending outer,
      (ReadState.operand pending outer).behind? tokens = some (pending.complete outer tree)

theorem Derives.reads {level : Level} {tokens : List Token} {tree : Formula}
    (derived : Derives level tokens tree) : level.Reads tokens tree := by
  induction derived with
  | sum _ ih => exact fun outer => ⟨.none, _, rfl, ih .none outer⟩
  | @additive left right l r op additive _ _ leftIH rightIH =>
      intro outer
      obtain ⟨sum, value, whole, behind⟩ := leftIH outer
      refine ⟨some (l, op), r, rfl, ?_⟩
      rw [ReadState.behind?_append, behind, Option.bind_some, ReadState.behind?_cons]
      rcases additive with rfl | rfl
      · rw [ReadState.step?, Option.bind_some, whole, rightIH]
      · rw [ReadState.step?, Option.bind_some, whole, rightIH]
  | product _ ih => exact fun sum outer => ih ⟨sum, .none, 0⟩ outer
  | @multiplicative left right l r op multiplicative _ _ leftIH rightIH =>
      intro sum outer
      rw [ReadState.behind?_append, leftIH, Option.bind_some, ReadState.behind?_cons]
      rcases multiplicative with rfl | rfl
      · rw [ReadState.step?, Option.bind_some, rightIH]
        rfl
      · rw [ReadState.step?, Option.bind_some, rightIH]
        rfl
  | unary _ ih => exact ih
  | negate _ ih =>
      intro pending outer
      rw [ReadState.behind?_cons, ReadState.step?, Option.bind_some, ih, Pending.complete,
        Pending.complete, negated_negate]
  | number numeral => exact fun pending outer => rfl
  | reference cell => exact fun pending outer => rfl
  | @group tokens tree _ ih =>
      intro pending outer
      obtain ⟨sum, value, whole, behind⟩ := ih (pending :: outer)
      rw [List.cons_append, ReadState.behind?_cons, ReadState.step?, Option.bind_some,
        ReadState.behind?_append, behind, Option.bind_some, ReadState.behind?_cons,
        ReadState.step?, whole]
      rfl

end Complete

/-! ### Only texts of the grammar are accepted -/

section Sound

/-- The tokens of what waits in a sum. -/
inductive BeforeProduct : Option (Formula × Operator) → List Token → Prop where
  | nothing : BeforeProduct none []
  | waiting {tokens : List Token} {left : Formula} {op : Operator} : op = .add ∨ op = .sub →
      Derives .sum tokens left → BeforeProduct (some (left, op)) (tokens ++ [.operator op])

inductive BeforeUnary : Option (Formula × Operator) → List Token → Prop where
  | nothing : BeforeUnary none []
  | waiting {tokens : List Token} {left : Formula} {op : Operator} : op = .mul ∨ op = .div →
      Derives .product tokens left → BeforeUnary (some (left, op)) (tokens ++ [.operator op])

/-- The tokens of what waits on one level of parentheses. -/
inductive BeforeOperand : Pending → List Token → Prop where
  | mk {sum product : Option (Formula × Operator)} {us vs : List Token} (minuses : Nat) :
      BeforeProduct sum us → BeforeUnary product vs →
      BeforeOperand ⟨sum, product, minuses⟩
        (us ++ vs ++ List.replicate minuses (.operator .sub))

/-- The tokens up to the innermost open parenthesis. -/
inductive Opened : List Pending → List Token → Prop where
  | nil : Opened [] []
  | cons {pending : Pending} {outer : List Pending} {us vs : List Token} : Opened outer us →
      BeforeOperand pending vs → Opened (pending :: outer) (us ++ vs ++ [.opening])

/-- The tokens that lead from the marker to a state. -/
inductive Read : ReadState → List Token → Prop where
  | operand {pending : Pending} {outer : List Pending} {us vs : List Token} : Opened outer us →
      BeforeOperand pending vs → Read (.operand pending outer) (us ++ vs)
  | operator {sum : Option (Formula × Operator)} {value : Formula} {outer : List Pending}
      {us vs ws : List Token} : Opened outer us → BeforeProduct sum vs →
      Derives .product ws value → Read (.operator sum value outer) (us ++ (vs ++ ws))

theorem BeforeProduct.joined {sum : Option (Formula × Operator)} {value : Formula}
    {us vs : List Token} (before : BeforeProduct sum us) (derived : Derives .product vs value) :
    Derives .sum (us ++ vs) (joined sum value) := by
  cases before with
  | nothing => exact .sum derived
  | waiting additive left =>
      rw [List.append_assoc]
      exact .additive additive left derived

theorem BeforeUnary.joined {product : Option (Formula × Operator)} {value : Formula}
    {us vs : List Token} (before : BeforeUnary product us) (derived : Derives .unary vs value) :
    Derives .product (us ++ vs) (joined product value) := by
  cases before with
  | nothing => exact .product derived
  | waiting multiplicative left =>
      rw [List.append_assoc]
      exact .multiplicative multiplicative left derived

private theorem derives_negated {tokens : List Token} {tree : Formula}
    (derived : Derives .unary tokens tree) (minuses : Nat) :
    Derives .unary (List.replicate minuses (.operator .sub) ++ tokens) (negated minuses tree) := by
  induction minuses with
  | zero => exact derived
  | succ count ih => exact .negate ih

theorem Opened.complete {pending : Pending} {outer : List Pending} {operand : Formula}
    {us vs ws : List Token} (opened : Opened outer us) (before : BeforeOperand pending vs)
    (derived : Derives .atom ws operand) :
    Read (pending.complete outer operand) (us ++ (vs ++ ws)) := by
  cases before with
  | mk minuses sums products =>
      simp only [List.append_assoc]
      exact .operator opened sums (products.joined (derives_negated (.unary derived) minuses))

theorem BeforeOperand.bare {sum product : Option (Formula × Operator)} {us vs : List Token}
    (sums : BeforeProduct sum us) (products : BeforeUnary product vs) :
    BeforeOperand ⟨sum, product, 0⟩ (us ++ vs) := by
  simpa using BeforeOperand.mk 0 sums products

theorem BeforeOperand.minus {pending : Pending} {tokens : List Token}
    (before : BeforeOperand pending tokens) :
    BeforeOperand { pending with minuses := pending.minuses + 1 }
      (tokens ++ [.operator .sub]) := by
  cases before with
  | mk minuses sums products =>
      rw [List.append_assoc, ← List.replicate_succ']
      exact .mk (minuses + 1) sums products

theorem BeforeOperand.nothing : BeforeOperand .none [] := .bare .nothing .nothing

theorem Read.opening {pending : Pending} {outer : List Pending} {us vs : List Token}
    (opened : Opened outer us) (before : BeforeOperand pending vs) :
    Read (.operand .none (pending :: outer)) (us ++ (vs ++ [.opening])) := by
  have inside := Read.operand (.cons opened before) .nothing
  rwa [List.append_nil, List.append_assoc] at inside

section Operator

variable {sum : Option (Formula × Operator)} {value : Formula} {outer : List Pending}
  {us vs ws : List Token} {op : Operator}

theorem Read.additive (opened : Opened outer us) (sums : BeforeProduct sum vs)
    (derived : Derives .product ws value) (additive : op = .add ∨ op = .sub) :
    Read (.operand ⟨some (Formula.joined sum value, op), none, 0⟩ outer)
      (us ++ (vs ++ ws ++ [.operator op])) := by
  have before := BeforeOperand.bare (.waiting additive (sums.joined derived)) .nothing
  rw [List.append_nil] at before
  exact .operand opened before

theorem Read.multiplicative (opened : Opened outer us) (sums : BeforeProduct sum vs)
    (derived : Derives .product ws value) (multiplicative : op = .mul ∨ op = .div) :
    Read (.operand ⟨sum, some (value, op), 0⟩ outer) (us ++ (vs ++ ws ++ [.operator op])) := by
  have before := BeforeOperand.bare sums (.waiting multiplicative derived)
  rw [← List.append_assoc] at before
  exact .operand opened before

end Operator

theorem Read.step {state next : ReadState} {token : Token} {tokens : List Token}
    (read : Read state tokens) (stepped : state.step? token = some next) :
    Read next (tokens ++ [token]) := by
  cases read with
  | @operand pending outer us vs opened before =>
      rw [List.append_assoc]
      cases token with
      | number numeral => cases stepped; exact opened.complete before (.number numeral)
      | reference cell => cases stepped; exact opened.complete before (.reference cell)
      | opening => cases stepped; exact .opening opened before
      | operator op =>
          cases op with
          | sub => cases stepped; exact .operand opened before.minus
          | add => cases stepped
          | mul => cases stepped
          | div => cases stepped
      | equals => cases stepped
      | closing => cases stepped
  | @operator sum value outer us vs ws opened sums product =>
      rw [List.append_assoc]
      cases token with
      | operator op =>
          cases op with
          | add => cases stepped; exact .additive opened sums product (.inl rfl)
          | sub => cases stepped; exact .additive opened sums product (.inr rfl)
          | mul => cases stepped; exact .multiplicative opened sums product (.inl rfl)
          | div => cases stepped; exact .multiplicative opened sums product (.inr rfl)
      | closing =>
          -- What is read since the parenthesis becomes an atom of the level around it.
          cases opened with
          | nil => cases stepped
          | cons around before =>
              cases stepped
              have whole := around.complete before (.group (sums.joined product))
              simpa using whole
      | number => cases stepped
      | reference => cases stepped
      | opening => cases stepped
      | equals => cases stepped

theorem Read.behind {state next : ReadState} {tokens more : List Token}
    (read : Read state tokens) (reached : state.behind? more = some next) :
    Read next (tokens ++ more) := by
  induction more generalizing state tokens with
  | nil =>
      cases reached
      rwa [List.append_nil]
  | cons token rest ih =>
      rw [ReadState.behind?_cons, Option.bind_eq_some_iff] at reached
      obtain ⟨middle, stepped, onward⟩ := reached
      rw [List.append_cons]
      exact ih (read.step stepped) onward

private theorem Read.derives {state : ReadState} {tokens : List Token} {tree : Formula}
    (read : Read state tokens) (finished : state.formula? = some tree) :
    Derives .sum tokens tree := by
  cases read with
  | operand => cases finished
  | operator opened sums product =>
      cases opened with
      | nil =>
          cases finished
          exact sums.joined product
      | cons => cases finished

end Sound

/-! ### The reader -/

theorem formula?_behind_iff {tokens : List Token} {tree : Formula} :
    (∃ state, ReadState.start.behind? tokens = some state ∧ state.formula? = some tree) ↔
      ∃ rest, tokens = .equals :: rest ∧ Derives .sum rest tree := by
  constructor
  · intro accepted
    obtain ⟨state, reached, finished⟩ := accepted
    cases tokens with
    | nil => cases reached; cases finished
    | cons token rest =>
        rw [ReadState.behind?_cons] at reached
        cases token with
        | equals =>
            exact ⟨rest, rfl, ((Read.operand .nil .nothing).behind reached).derives finished⟩
        | operator => cases reached
        | opening => cases reached
        | closing => cases reached
        | number => cases reached
        | reference => cases reached
  · intro marked
    obtain ⟨rest, rfl, derived⟩ := marked
    obtain ⟨sum, value, whole, behind⟩ := derived.reads []
    exact ⟨.operator sum value [], behind, congrArg some whole⟩

private theorem ofScan_eq_ok_iff {scan : Scan} {tree : Formula} :
    ofScan scan = .ok tree ↔
      scan.stuck = none ∧
        ∃ state, ReadState.start.behind? (scan.tokens.map Prod.snd) = some state ∧
          state.formula? = some tree := by
  simp only [← ReadState.run_eq_ok_iff]
  unfold ofScan
  cases ReadState.start.run scan.tokens with
  | error refusal => simp
  | ok state =>
      cases scan.stuck with
      | some stuck => simp
      | none => cases finished : state.formula? <;> simp [finished]

theorem isBlank_of_isSkipped {c : Char} (skipped : isSkipped c = true) :
    Text.isBlank c = true := by
  simp only [isSkipped, Bool.or_eq_true, beq_iff_eq] at skipped
  rcases skipped with (((rfl | rfl) | rfl) | rfl) | rfl <;> rfl

/-- The marker comes first in a text without outer blanks. -/
theorem eq_cons_of_splits {text : List Char} {tokens : List Token}
    (splits : Splits (Text.trim text) (.equals :: tokens)) :
    ∃ rest, Text.trim text = '=' :: rest := by
  generalize whole : Text.trim text = cs at splits
  generalize marked : Token.equals :: tokens = all at splits
  cases splits with
  | nil => cases marked
  | skip skipped =>
      have visible := Text.isBlank_of_trim whole
      rw [isBlank_of_isSkipped skipped] at visible
      cases visible
  | @token token rest =>
      cases marked
      exact ⟨rest, rfl⟩

theorem Writes.head?_eq {text : List Char} {tree : Formula} (writes : Writes text tree) :
    (Text.trim text).head? = some '=' := by
  obtain ⟨tokens, splits, _⟩ := writes
  obtain ⟨rest, shape⟩ := eq_cons_of_splits splits
  rw [shape, List.head?_cons]

theorem writes_trim_iff {text : List Char} {tree : Formula} :
    Writes (Text.trim text) tree ↔ Writes text tree := by
  rw [Writes, Writes, Text.trim_trim]

/-- The reader accepts the texts of the grammar and gives their trees. -/
theorem parse_eq_ok_iff {text : List Char} {tree : Formula} :
    parse text = .ok tree ↔ Writes text tree := by
  have accepted : ∀ cs, ofScan (Scan.ofText cs) = .ok tree ↔
      ∃ tokens, Splits cs (.equals :: tokens) ∧ Derives .sum tokens tree := by
    intro cs
    rw [ofScan_eq_ok_iff, formula?_behind_iff]
    constructor
    · intro scanned
      obtain ⟨complete, tokens, found, derived⟩ := scanned
      exact ⟨tokens, (Scan.splits_iff 0).2 ⟨complete, found⟩, derived⟩
    · intro derivation
      obtain ⟨tokens, splits, derived⟩ := derivation
      obtain ⟨complete, found⟩ := (Scan.splits_iff 0).1 splits
      exact ⟨complete, tokens, found, derived⟩
  constructor
  · intro parsed
    unfold parse at parsed
    split at parsed
    · rename_i rest shape
      rw [Writes, shape]
      exact (accepted ('=' :: rest)).1 parsed
    · cases parsed
  · intro written
    obtain ⟨tokens, splits, derived⟩ := written
    obtain ⟨rest, shape⟩ := eq_cons_of_splits splits
    rw [parse, shape]
    exact (accepted ('=' :: rest)).2 ⟨tokens, shape ▸ splits, derived⟩

end Spreadsheet.Formula
