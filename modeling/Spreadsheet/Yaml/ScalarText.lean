import Spreadsheet.Yaml.Cursor
import Spreadsheet.Yaml.Error

/-!
# Scalar texts

The texts of quoted, plain and block scalars as they stand in a document: escapes are
resolved, and line breaks inside a scalar are folded.
-/

set_option autoImplicit false

namespace Spreadsheet.Yaml

/-- What a folded line break means: nothing if lines are left out behind it, else a
space; a break that keeps its form stays. -/
def folded (lineBreak : Char) (later : List Char) : List Char :=
  if lineBreak = '\n' then (if later = [] then [' '] else later) else lineBreak :: later

/-- The line breaks from the cursor on, with the blanks in front of them. Documents
must not begin or end among them. -/
def quotedBreaks : Nat → Cursor → Except Error (List Char × Cursor)
  | 0, cursor => .ok ([], cursor)
  | steps + 1, cursor =>
    if cursor.atSeparator then .error .malformed
    else
      let cursor := cursor.skipWhile fun c => c == ' ' || c == '\t'
      match cursor.lineBreak? with
      | none => .ok ([], cursor)
      | some (c, cursor) => do
        let (later, cursor) ← quotedBreaks steps cursor
        pure (c :: later, cursor)

def escape? (c : Char) : Option Char :=
  [('0', '\x00'), ('a', '\x07'), ('b', '\x08'), ('t', '\t'), ('\t', '\t'), ('n', '\n'),
    ('v', '\x0b'), ('f', '\x0c'), ('r', '\r'), ('e', '\x1b'), (' ', ' '), ('"', '"'),
    ('\\', '\\'), ('/', '/'), ('N', '\x85'), ('_', '\xa0'), ('L', '\u2028'),
    ('P', '\u2029')].lookup c

def escapeWidth? (c : Char) : Option Nat := [('x', 2), ('u', 4), ('U', 8)].lookup c

def hexValue? (c : Char) : Option Nat :=
  if '0' ≤ c ∧ c ≤ '9' then some (c.toNat - '0'.toNat)
  else if 'a' ≤ c ∧ c ≤ 'f' then some (c.toNat - 'a'.toNat + 10)
  else if 'A' ≤ c ∧ c ≤ 'F' then some (c.toNat - 'A'.toNat + 10)
  else none

def hexNumber (cs : List Char) : Nat :=
  cs.foldl (fun n c => 16 * n + (hexValue? c).getD 0) 0

def escaped (cursor : Cursor) : Except Error (List Char × Cursor) :=
  match cursor.rest with
  | [] => .error .malformed
  | c :: rest =>
    match escape? c with
    | some c => .ok ([c], cursor.next)
    | none =>
      match escapeWidth? c with
      | some width =>
        let digits := rest.take width
        if digits.length < width ∨ !digits.all (hexValue? · |>.isSome) then .error .malformed
        else if 0x80000000 ≤ hexNumber digits then .error .hugeCharacter
        else if 0x110000 ≤ hexNumber digits then .error .noCharacter
        else .ok ([Char.ofNat (hexNumber digits)], cursor.skip (width + 1))
      | none =>
        match cursor.lineBreak? with
        | some (_, cursor) => quotedBreaks cursor.rest.length cursor
        | none => .error .malformed

/-- The text up to the closing quote, from the cursor on. Only between double quotes
a backslash has a meaning; between single ones a quote is written twice. -/
def quotedText (double : Bool) : Nat → Cursor → Except Error (List Char × Cursor)
  | 0, _ => .error .malformed
  | steps + 1, cursor =>
    match cursor.rest with
    | [] => .error .malformed
    | c :: rest =>
      if c = ' ' ∨ c = '\t' ∨ isBreak c then
        let (blanks, cursor) := cursor.takeWhile fun c => c == ' ' || c == '\t'
        match cursor.lineBreak? with
        | none => do
          let (text, cursor) ← quotedText double steps cursor
          pure (blanks ++ text, cursor)
        | some (c, cursor) => do
          let (later, cursor) ← quotedBreaks steps cursor
          let (text, cursor) ← quotedText double steps cursor
          pure (folded c later ++ text, cursor)
      else if !double ∧ c = '\'' ∧ rest.head? = some '\'' then do
        let (text, cursor) ← quotedText double steps (cursor.skip 2)
        pure ('\'' :: text, cursor)
      else if c = (if double then '"' else '\'') then .ok ([], cursor.next)
      else if double ∧ c = '\\' then do
        let (meant, cursor) ← escaped cursor.next
        let (text, cursor) ← quotedText double steps cursor
        pure (meant ++ text, cursor)
      else do
        let (text, cursor) ← quotedText double steps cursor.next
        pure (c :: text, cursor)

def endsPlain (flow : Bool) (c : Char) (following : Option Char) : Bool :=
  c == ' ' || c == '\t' || isBreak c ||
  (c == ':' && (endsWord following ||
    (flow && following.any fun f => [',', '[', ']', '\x7b', '\x7d'].contains f))) ||
  (flow && [',', '?', '[', ']', '\x7b', '\x7d'].contains c)

/-- The word of a plain scalar at the start of a text. -/
def plainWord (flow : Bool) : List Char → List Char
  | [] => []
  | c :: rest => if endsPlain flow c rest.head? then [] else c :: plainWord flow rest

/-- The line breaks behind a line of a plain scalar, with the spaces between them. The
flag tells that a document begins or ends behind one of them. -/
def plainBreaks : Nat → Cursor → List Char × Cursor × Bool
  | 0, cursor => ([], cursor, false)
  | steps + 1, cursor =>
    let cursor := cursor.skipWhile (· == ' ')
    match cursor.lineBreak? with
    | none => ([], cursor, false)
    | some (c, cursor) =>
      if cursor.atSeparator then ([c], cursor, true)
      else
        let (later, cursor, ended) := plainBreaks steps cursor
        (c :: later, cursor, ended)

/-- What stands between two words of a plain scalar: what it means, the cursor behind
it, and whether it holds a line break. It means nothing where a document begins or
ends. -/
def plainSpaces (steps : Nat) (cursor : Cursor) : List Char × Cursor × Bool :=
  let (spaces, cursor) := cursor.takeWhile (· == ' ')
  match cursor.lineBreak? with
  | none => (spaces, cursor, false)
  | some (c, cursor) =>
    if cursor.atSeparator then ([], cursor, true)
    else
      match plainBreaks steps cursor with
      | (_, cursor, true) => ([], cursor, true)
      | (later, cursor, false) => (folded c later, cursor, true)

/-- The text of a plain scalar from the cursor on, with what stands before its first
word; the cursor behind it; and whether a line break came last. -/
def plainText (flow : Bool) (indent : Int) :
    Nat → List Char → Bool → Cursor → List Char × Cursor × Bool
  | 0, _, broken, cursor => ([], cursor, broken)
  | steps + 1, spaces, broken, cursor =>
    if cursor.peek 0 = some '#' then ([], cursor, broken)
    else
      match plainWord flow cursor.rest with
      | [] => ([], cursor, broken)
      | word =>
        match plainSpaces (steps + 1) (cursor.skip word.length) with
        | (between, cursor, broken) =>
          if between = [] ∨ cursor.peek 0 = some '#' ∨ (!flow ∧ (cursor.column : Int) < indent) then
            (spaces ++ word, cursor, broken)
          else
            let (later, cursor, broken) := plainText flow indent steps between broken cursor
            (spaces ++ word ++ later, cursor, broken)

/-- The line breaks in front of a line of a block scalar that is indented by `indent`
columns. -/
def blockBreaks (indent : Nat) : Nat → Cursor → List Char × Cursor
  | 0, cursor => ([], cursor)
  | steps + 1, cursor =>
    let spaces := (cursor.rest.takeWhile (· == ' ')).length
    let cursor := cursor.skip (min spaces (indent - cursor.column))
    match cursor.lineBreak? with
    | none => ([], cursor)
    | some (c, cursor) =>
      let (later, cursor) := blockBreaks indent steps cursor
      (c :: later, cursor)

/-- The line breaks and spaces in front of a block scalar, with the greatest column
that the spaces reach. -/
def blockIndentation : Nat → Cursor → List Char × Nat × Cursor
  | 0, cursor => ([], 0, cursor)
  | steps + 1, cursor =>
    let cursor := cursor.skipWhile (· == ' ')
    match cursor.lineBreak? with
    | none => ([], cursor.column, cursor)
    | some (c, after) =>
      let (later, column, behind) := blockIndentation steps after
      (c :: later, max cursor.column column, behind)

/-- The lines of a block scalar from the cursor on, `pending` being the line breaks in
front of them; what the last line break means, and those behind it. -/
def blockLines (fold : Bool) (indent : Nat) :
    Nat → List Char → Cursor → List Char × List Char × List Char × Cursor
  | 0, pending, cursor => ([], [], pending, cursor)
  | steps + 1, pending, cursor =>
    if cursor.column ≠ indent ∨ cursor.rest = [] then ([], [], pending, cursor)
    else
      let leading := cursor.peek 0
      let (line, cursor) := cursor.takeWhile (!isBreak ·)
      let (lineBreak, cursor) := match cursor.lineBreak? with
        | some (c, cursor) => ([c], cursor)
        | none => ([], cursor)
      let (breaks, cursor) := blockBreaks indent (steps + 1) cursor
      if cursor.column = indent ∧ cursor.rest ≠ [] then
        let flush (c : Option Char) : Bool := c != some ' ' && c != some '\t'
        let between :=
          if fold ∧ lineBreak = ['\n'] ∧ flush leading ∧ flush (cursor.peek 0) then
            (if breaks = [] then [' '] else [])
          else lineBreak
        let (later, last, behind, cursor) := blockLines fold indent steps breaks cursor
        (pending ++ line ++ between ++ later, last, behind, cursor)
      else (pending ++ line, lineBreak, breaks, cursor)

/-- The marks behind the sign of a block scalar: whether its last line breaks are all
kept or all dropped, and its indentation, in either order. -/
def blockMarks (cursor : Cursor) : Except Error (Option Bool × Option Nat × Cursor) := do
  let keep (cursor : Cursor) : Option Bool × Cursor :=
    match cursor.peek 0 with
    | some '+' => (some true, cursor.next)
    | some '-' => (some false, cursor.next)
    | _ => (none, cursor)
  let width (cursor : Cursor) : Option Nat × Cursor :=
    match cursor.peek 0 with
    | some c =>
      if '0' ≤ c ∧ c ≤ '9' then (some (c.toNat - '0'.toNat), cursor.next) else (none, cursor)
    | none => (none, cursor)
  let (kept, cursor) := keep cursor
  let (indent, cursor) := width cursor
  let (kept, cursor) := if kept = none ∧ indent ≠ none then keep cursor else (kept, cursor)
  if indent = some 0 then throw .malformed
  if !(endsLine (cursor.peek 0) || cursor.peek 0 == some ' ') then throw .malformed
  pure (kept, indent, cursor)

/-- A block scalar behind its sign, inside a block that is indented by `outer`. -/
def blockText (fold : Bool) (outer : Int) (cursor : Cursor) :
    Except Error (List Char × Cursor) := do
  let (kept, increment, cursor) ← blockMarks cursor
  let cursor := cursor.skipWhile (· == ' ')
  let cursor := if cursor.peek 0 = some '#' then cursor.skipWhile (!isBreak ·) else cursor
  if !endsLine (cursor.peek 0) then throw .malformed
  let cursor := (cursor.lineBreak?.map Prod.snd).getD cursor
  let least := max 1 (outer + 1).toNat
  let steps := cursor.rest.length + 1
  let (indent, breaks, cursor) := match increment with
    | none =>
      let (breaks, column, cursor) := blockIndentation steps cursor
      (max least column, breaks, cursor)
    | some increment =>
      let (breaks, cursor) := blockBreaks (least + increment - 1) steps cursor
      (least + increment - 1, breaks, cursor)
  let (text, last, behind, cursor) := blockLines fold indent steps breaks cursor
  let ending := match kept with
    | some false => []
    | none => last
    | some true => last ++ behind
  pure (text ++ ending, cursor)

end Spreadsheet.Yaml
