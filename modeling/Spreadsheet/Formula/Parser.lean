import Spreadsheet.Formula.Token
import Spreadsheet.Text.Blank
import Spreadsheet.Text.Quoted

/-!
# Reading formulas

Formula text is read one token at a time. Between tokens the reader knows the
operands that still wait for their right-hand side, on the current level and on
every level of parentheses around it; a token that cannot follow is refused on
the spot, so an error always stands at the first place where no formula goes on.
-/

set_option autoImplicit false

namespace Spreadsheet

/-- Why a text is no formula. Positions count the characters of the text without
its outer blanks. -/
inductive ParseError where
  | missingMarker
  | unexpectedCharacter (c : Char) (position : Nat)
  | unexpectedToken (token : List Char) (position : Nat)
  | unexpectedEnd (position : Nat)
deriving DecidableEq, Repr

namespace ParseError

def position : ParseError → Nat
  | missingMarker => 0
  | unexpectedCharacter _ position => position
  | unexpectedToken _ position => position
  | unexpectedEnd position => position

def detail : ParseError → String
  | missingMarker => "Formula must start with " ++ Text.quote "="
  | unexpectedCharacter c _ => "unexpected character " ++ Text.quote (String.singleton c)
  | unexpectedToken token _ => "unexpected token " ++ Text.quote (String.ofList token)
  | unexpectedEnd _ => "unexpected end of formula"

def message (error : ParseError) : String :=
  s!"Formula parse error: {error.detail} (at position {error.position})"

end ParseError

namespace Formula

/-- What waits for an operand on one level of parentheses: a sum so far and its
sign, a product so far and its sign, and the minus signs in front of the operand. -/
structure Pending where
  sum : Option (Formula × Operator)
  product : Option (Formula × Operator)
  minuses : Nat
deriving DecidableEq

def Pending.none : Pending := ⟨.none, .none, 0⟩

/-- Where the reader stands between two tokens. -/
inductive ReadState where
  /-- Before the sign that marks a formula. -/
  | start
  /-- Before an operand; `outer` waits outside the open parentheses. -/
  | operand (pending : Pending) (outer : List Pending)
  /-- Behind an operand that ends the product `value`. -/
  | operator (sum : Option (Formula × Operator)) (value : Formula) (outer : List Pending)
deriving DecidableEq

def negated : Nat → Formula → Formula
  | 0, formula => formula
  | count + 1, formula => .negate (negated count formula)

/-- A formula with what waited for it on its left. -/
def joined : Option (Formula × Operator) → Formula → Formula
  | .none, formula => formula
  | some (left, op), formula => .binary op left formula

def Pending.complete (pending : Pending) (outer : List Pending) (operand : Formula) : ReadState :=
  .operator pending.sum (joined pending.product (negated pending.minuses operand)) outer

/-- The state behind one more token, or nothing if the token cannot follow. -/
def ReadState.step? : ReadState → Token → Option ReadState
  | start, .equals => some (operand .none [])
  | operand pending outer, .number numeral => some (pending.complete outer (.number numeral.value))
  | operand pending outer, .reference cell =>
    some (pending.complete outer (.reference (String.ofList cell)))
  | operand pending outer, .operator .sub =>
    some (operand { pending with minuses := pending.minuses + 1 } outer)
  | operand pending outer, .opening => some (operand .none (pending :: outer))
  | operator sum value outer, .operator .add =>
    some (operand ⟨some (joined sum value, .add), .none, 0⟩ outer)
  | operator sum value outer, .operator .sub =>
    some (operand ⟨some (joined sum value, .sub), .none, 0⟩ outer)
  | operator sum value outer, .operator .mul => some (operand ⟨sum, some (value, .mul), 0⟩ outer)
  | operator sum value outer, .operator .div => some (operand ⟨sum, some (value, .div), 0⟩ outer)
  | operator sum value (pending :: outer), .closing =>
    some (pending.complete outer (joined sum value))
  | _, _ => .none

def ReadState.formula? : ReadState → Option Formula
  | operator sum value [] => some (joined sum value)
  | _ => .none

/-- The state behind some tokens, or the first token that is refused with its
position. -/
def ReadState.run (state : ReadState) : List (Nat × Token) → Except (Nat × Token) ReadState
  | [] => .ok state
  | (position, token) :: rest =>
    match state.step? token with
    | some next => next.run rest
    | .none => .error (position, token)

def ofScan (scan : Scan) : Except ParseError Formula :=
  match ReadState.start.run scan.tokens with
  | .error (position, token) => .error (.unexpectedToken token.text position)
  | .ok state =>
    match scan.stuck with
    | some (position, c) => .error (.unexpectedCharacter c position)
    | .none =>
      match state.formula? with
      | some formula => .ok formula
      | .none => .error (.unexpectedEnd ((scan.tokens.getLast?.map Prod.fst).getD 0))

/-- The formula that a text writes. Outer blanks do not count. -/
def parse (text : List Char) : Except ParseError Formula :=
  match Text.trim text with
  | '=' :: rest => ofScan (Scan.ofText ('=' :: rest))
  | _ => .error .missingMarker

end Formula

end Spreadsheet
