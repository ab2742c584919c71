import EventFilter.Yaml.Cursor
import EventFilter.Yaml.Fault

/-!
The texts of YAML scalars: plain, quoted and block style.

Each reader takes the position where the scalar begins and gives its text and the position after
it. Loops are bounded by the number of characters that are left, of which every round takes one.
-/

namespace EventFilter.Yaml.Scalar

def fold (first : Text) (others : Text) : Text :=
  if first != ['\n'] then first ++ others
  else if others.isEmpty then [' ']
  else others

/-! Plain scalars. -/

def endsPlain (inFlow : Bool) (character : Char) (following : Option Char) : Bool :=
  endsWord (some character) ||
    (character == ':' && (endsWord following || (inFlow && following.any isFlowMark))) ||
    (inFlow && (isFlowMark character || character == '?'))

def plainRun (inFlow : Bool) : Text → Text
  | [] => []
  | character :: rest =>
    if endsPlain inFlow character rest.head? then [] else character :: plainRun inFlow rest

def plainBreaks? : Nat → Text → Cursor → Option Text × Cursor
  | 0, breaks, cursor => (some breaks, cursor)
  | rounds + 1, breaks, cursor =>
    if cursor.peek == some ' ' then plainBreaks? rounds breaks cursor.next
    else if cursor.peek.any isBreak then
      let (lineBreak, cursor) := cursor.lineBreak
      if cursor.atSeparator then (none, cursor)
      else plainBreaks? rounds (breaks ++ lineBreak) cursor
    else (some breaks, cursor)

def plainSpaces (cursor : Cursor) : Text × Cursor × Bool :=
  let (spaces, cursor) := cursor.takeWhile (· == ' ')
  if cursor.peek.any isBreak then
    let (lineBreak, cursor) := cursor.lineBreak
    if cursor.atSeparator then ([], cursor, true)
    else
      match plainBreaks? cursor.rest.length [] cursor with
      | (some breaks, cursor) => (fold lineBreak breaks, cursor, true)
      | (none, cursor) => ([], cursor, true)
  else (spaces, cursor, false)

/-- A plain scalar, the position after it, and whether a line ended before that position.
Continuation lines are indented by at least `indent`. -/
def plainFrom (inFlow : Bool) (indent : Nat) :
    Nat → Text → Text → Bool → Cursor → Text × Cursor × Bool
  | 0, text, _, crossed, cursor => (text, cursor, crossed)
  | rounds + 1, text, spaces, crossed, cursor =>
    let run := if cursor.peek == some '#' then [] else plainRun inFlow cursor.rest
    if run.isEmpty then (text, cursor, crossed)
    else
      let text := text ++ spaces ++ run
      let (spaces, cursor, crossed) := plainSpaces (cursor.advance run.length)
      if spaces.isEmpty || cursor.peek == some '#' || (!inFlow && cursor.column < indent) then
        (text, cursor, crossed)
      else plainFrom inFlow indent rounds text spaces crossed cursor

def plain (inFlow : Bool) (indent : Nat) (cursor : Cursor) : Text × Cursor × Bool :=
  plainFrom inFlow indent cursor.rest.length [] [] false cursor

/-! Quoted scalars. -/

def quotedBreaks? : Nat → Text → Cursor → Option (Text × Cursor)
  | 0, breaks, cursor => some (breaks, cursor)
  | rounds + 1, breaks, cursor =>
    if cursor.atSeparator then none
    else
      let cursor := cursor.skipWhile isSpaceOrTab
      if cursor.peek.any isBreak then
        let (lineBreak, cursor) := cursor.lineBreak
        quotedBreaks? rounds (breaks ++ lineBreak) cursor
      else some (breaks, cursor)

def quotedSpaces? (cursor : Cursor) : Option (Text × Cursor) := do
  let (spaces, cursor) := cursor.takeWhile isSpaceOrTab
  if cursor.peek.any isBreak then
    let (lineBreak, cursor) := cursor.lineBreak
    let (breaks, cursor) ← quotedBreaks? (cursor.rest.length + 1) [] cursor
    pure (fold lineBreak breaks, cursor)
  else pure (spaces, cursor)

def escapes : List (Char × Char) := [
  ('0', '\x00'), ('a', '\x07'), ('b', '\x08'), ('t', '\t'), ('\t', '\t'), ('n', '\n'),
  ('v', '\x0b'), ('f', '\x0c'), ('r', '\r'), ('e', '\x1b'), (' ', ' '), ('"', '"'), ('\\', '\\'),
  ('/', '/'), ('N', '\x85'), ('_', '\xa0'), ('L', '\u2028'), ('P', '\u2029')]

def numericEscapes : List (Char × Nat) := [('x', 2), ('u', 4), ('U', 8)]

def hexDigit? (character : Char) : Option Nat :=
  if Text.isAsciiDigit character then some (character.toNat - 48)
  else if 'a' ≤ character ∧ character ≤ 'f' then some (character.toNat - 87)
  else if 'A' ≤ character ∧ character ≤ 'F' then some (character.toNat - 55)
  else none

def hexNumber? (count : Nat) (text : Text) : Option Nat :=
  let digits := text.take count
  if digits.length = count then
    digits.foldlM (fun value digit => (hexDigit? digit).map (16 * value + ·)) 0
  else none

def lowSurrogate? : Text → Option Nat
  | '\\' :: 'u' :: digits =>
    (hexNumber? 4 digits).filter fun code => 0xdc00 ≤ code && code < 0xe000
  | _ => none

/-- A character by its number, which has `count` hexadecimal digits. One above U+FFFF can also be
written by two escapes, for its high and its low surrogate. -/
def numericEscape (count : Nat) (cursor : Cursor) : Except Fault (Text × Cursor) := do
  let code ← orMalformed (hexNumber? count cursor.rest)
  let cursor := cursor.advance count
  if code.isValidChar then pure ([Char.ofNat code], cursor)
  else if 0x10ffff < code then throw .noCharacter
  else if 0xdc00 ≤ code then throw .malformed
  else
    let low ← orMalformed (lowSurrogate? cursor.rest)
    let code := 0x10000 + (code - 0xd800) * 0x400 + (low - 0xdc00)
    pure ([Char.ofNat code], cursor.advance 6)

def escape (cursor : Cursor) : Except Fault (Text × Cursor) := do
  let letter ← orMalformed cursor.peek
  if let some character := escapes.lookup letter then
    pure ([character], cursor.next)
  else if let some count := numericEscapes.lookup letter then
    numericEscape count cursor.next
  else if isBreak letter then
    orMalformed (quotedBreaks? (cursor.rest.length + 1) [] cursor.lineBreak.2)
  else throw .malformed

def quotedFrom (mark : Char) : Nat → Text → Cursor → Except Fault (Text × Cursor)
  | 0, _, _ => .error .malformed
  | rounds + 1, text, cursor =>
    match cursor.rest with
    | [] => .error .malformed
    | first :: rest =>
      if first == mark then
        if mark == '\'' && rest.head? == some mark then
          quotedFrom mark rounds (text ++ [mark]) (cursor.advance 2)
        else .ok (text, cursor.next)
      else if mark == '"' && first == '\\' then do
        let (escaped, cursor) ← escape cursor.next
        quotedFrom mark rounds (text ++ escaped) cursor
      else if endsWord (some first) then do
        let (spaces, cursor) ← orMalformed (quotedSpaces? cursor)
        quotedFrom mark rounds (text ++ spaces) cursor
      else
        let (run, cursor) := cursor.takeWhile fun character =>
          character != mark && character != '\\' && !endsWord (some character)
        if run.isEmpty then quotedFrom mark rounds (text ++ [first]) cursor.next
        else quotedFrom mark rounds (text ++ run) cursor

def quoted (mark : Char) (cursor : Cursor) : Except Fault (Text × Cursor) :=
  quotedFrom mark cursor.rest.length [] cursor.next

/-! Block scalars. -/

inductive Chomping where
  | strip
  | clip
  | keep
deriving DecidableEq

def chomping? : Option Char → Option Chomping
  | some '+' => some .keep
  | some '-' => some .strip
  | _ => none

def increment? : Option Char → Option Nat
  | some character =>
    if Text.isAsciiDigit character && character != '0' then some (character.toNat - 48) else none
  | none => none

def blockHeader (cursor : Cursor) : Chomping × Option Nat × Cursor :=
  match chomping? cursor.peek with
  | some chomping =>
    match increment? cursor.next.peek with
    | some increment => (chomping, some increment, cursor.advance 2)
    | none => (chomping, none, cursor.next)
  | none =>
    match increment? cursor.peek with
    | some increment =>
      match chomping? cursor.next.peek with
      | some chomping => (chomping, some increment, cursor.advance 2)
      | none => (.clip, some increment, cursor.next)
    | none => (.clip, none, cursor)

def blockIndentation : Nat → Text → Nat → Cursor → Text × Nat × Cursor
  | 0, breaks, widest, cursor => (breaks, widest, cursor)
  | rounds + 1, breaks, widest, cursor =>
    if cursor.peek == some ' ' then
      blockIndentation rounds breaks (max widest cursor.next.column) cursor.next
    else if cursor.peek.any isBreak then
      let (lineBreak, cursor) := cursor.lineBreak
      blockIndentation rounds (breaks ++ lineBreak) widest cursor
    else (breaks, widest, cursor)

def blockBreaks (indent : Nat) : Nat → Text → Cursor → Text × Cursor
  | 0, breaks, cursor => (breaks, cursor)
  | rounds + 1, breaks, cursor =>
    let cursor := cursor.skipIndentation indent
    if cursor.peek.any isBreak then
      let (lineBreak, cursor) := cursor.lineBreak
      blockBreaks indent rounds (breaks ++ lineBreak) cursor
    else (breaks, cursor)

/-- The text of a block scalar up to its last line, the break that ends this line, the breaks
after it, and the position behind them. -/
def blockLines (folded : Bool) (indent : Nat) :
    Nat → Text → Text → Text → Cursor → Text × Text × Text × Cursor
  | 0, text, lineBreak, breaks, cursor => (text, lineBreak, breaks, cursor)
  | rounds + 1, text, lineBreak, breaks, cursor =>
    if cursor.column != indent || cursor.peek.isNone then (text, lineBreak, breaks, cursor)
    else
      let startsWithText := !cursor.peek.any isSpaceOrTab
      let (line, cursor) := cursor.takeWhile (!isBreak ·)
      let text := text ++ breaks ++ line
      let (lineBreak, cursor) := cursor.lineBreak
      let (breaks, cursor) := blockBreaks indent (cursor.rest.length + 1) [] cursor
      if cursor.column == indent && cursor.peek.isSome then
        let joint :=
          if folded && lineBreak == ['\n'] && startsWithText && !cursor.peek.any isSpaceOrTab then
            if breaks.isEmpty then [' '] else []
          else lineBreak
        blockLines folded indent rounds (text ++ joint) lineBreak breaks cursor
      else (text, lineBreak, breaks, cursor)

def chomp (chomping : Chomping) (lineBreak breaks : Text) : Text :=
  match chomping with
  | .strip => []
  | .clip => lineBreak
  | .keep => lineBreak ++ breaks

def block? (folded : Bool) (least : Nat) (cursor : Cursor) : Option (Text × Cursor) := do
  let (chomping, increment, cursor) := blockHeader cursor.next
  let cursor ← if cursor.peek == some ' ' || endsLine cursor.peek then cursor.finishLine? else none
  let rounds := cursor.rest.length + 1
  let (indent, breaks, cursor) :=
    match increment with
    | some increment =>
      let indent := least + increment - 1
      (indent, blockBreaks indent rounds [] cursor)
    | none =>
      let (breaks, widest, cursor) := blockIndentation rounds [] 0 cursor
      (max least widest, breaks, cursor)
  let (text, lineBreak, breaks, cursor) := blockLines folded indent rounds [] [] breaks cursor
  pure (text ++ chomp chomping lineBreak breaks, cursor)

end EventFilter.Yaml.Scalar
