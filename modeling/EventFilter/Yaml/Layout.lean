import EventFilter.Yaml.Token

/-!
The layout of a YAML text: which tokens its indentation and its colons stand for.

`Layout.read` reads a whole text. Where a mapping key could begin, the place is remembered; a
colon on the same line, at most 1024 characters later, turns it into a key.
-/

namespace EventFilter.Yaml

structure KeyPlace where
  tokenCount : Nat
  isRequired : Bool
  index : Nat
  line : Nat
  column : Nat

def KeyPlace.isStale (place : KeyPlace) (cursor : Cursor) : Bool :=
  place.line != cursor.line || 1024 < cursor.index - place.index

/-- The state between two tokens. The indentation of an open block collection is its column, and
-1 outside of all collections. -/
structure Layout where
  cursor : Cursor
  tokens : Array Token
  flowLevel : Nat
  indent : Int
  outerIndents : List Int
  allowsKey : Bool
  keyPlaces : List (Nat × KeyPlace)

namespace Layout

def start (text : Text) : Layout where
  cursor := Cursor.start text
  tokens := #[]
  flowLevel := 0
  indent := -1
  outerIndents := []
  allowsKey := true
  keyPlaces := []

def inFlow (layout : Layout) : Bool :=
  layout.flowLevel != 0

def emit (layout : Layout) (token : Token) : Layout :=
  { layout with tokens := layout.tokens.push token }

def emitHere (layout : Layout) (token : Token) (length : Nat) : Layout :=
  { layout with tokens := layout.tokens.push token, cursor := layout.cursor.advance length }

/-- Goes to the next token over spaces, comments and line breaks; a key may begin on a new line
of a block collection. -/
def skipGapFrom : Nat → Layout → Layout
  | 0, layout => layout
  | rounds + 1, layout =>
    let cursor := layout.cursor.skipSpaces
    let cursor := if cursor.peek == some '#' then cursor.skipWhile (!isBreak ·) else cursor
    if cursor.peek.any isBreak then
      skipGapFrom rounds { layout with
        cursor := cursor.lineBreak.2
        allowsKey := layout.allowsKey || !layout.inFlow }
    else { layout with cursor }

def skipGap (layout : Layout) : Layout :=
  let cursor := layout.cursor
  let cursor :=
    if cursor.index = 0 ∧ cursor.peek = some byteOrderMark then cursor.next else cursor
  skipGapFrom (cursor.rest.length + 1) { layout with cursor }

def dropStaleKeys? (layout : Layout) : Option Layout :=
  let (stale, fresh) := layout.keyPlaces.partition fun entry =>
    entry.2.isStale layout.cursor
  if stale.any (·.2.isRequired) then none else some { layout with keyPlaces := fresh }

def keyPlace? (layout : Layout) : Option KeyPlace :=
  layout.keyPlaces.lookup layout.flowLevel

def dropKey? (layout : Layout) : Option Layout :=
  if layout.keyPlace?.any KeyPlace.isRequired then none
  else some { layout with keyPlaces := layout.keyPlaces.filter (·.1 != layout.flowLevel) }

def rememberKey? (layout : Layout) : Option Layout :=
  if layout.allowsKey then do
    let place : KeyPlace := {
      tokenCount := layout.tokens.size
      isRequired := !layout.inFlow && layout.indent == layout.cursor.column
      index := layout.cursor.index
      line := layout.cursor.line
      column := layout.cursor.column }
    let layout ← layout.dropKey?
    pure { layout with keyPlaces := (layout.flowLevel, place) :: layout.keyPlaces }
  else some layout

def closeFrom (column indent : Int) (tokens : Array Token) :
    List Int → Int × List Int × Array Token
  | [] => (indent, [], tokens)
  | outer :: rest =>
    if column < indent then closeFrom column outer (tokens.push .blockEnd) rest
    else (indent, outer :: rest, tokens)

def closeTo (layout : Layout) (column : Int) : Layout :=
  if layout.inFlow then layout
  else
    let (indent, outerIndents, tokens) :=
      closeFrom column layout.indent layout.tokens layout.outerIndents
    { layout with indent, outerIndents, tokens }

/-- Opens a block collection at a column, if none is open there; its token goes to a place among
the tokens read so far. -/
def openAt (layout : Layout) (column place : Nat) (token : Token) : Layout :=
  if !layout.inFlow && layout.indent < column then
    { layout with
      indent := column
      outerIndents := layout.indent :: layout.outerIndents
      tokens := layout.tokens.insertIdxIfInBounds place token }
  else layout

def openHere (layout : Layout) (token : Token) : Layout :=
  layout.openAt layout.cursor.column layout.tokens.size token

def closeDocument? (layout : Layout) : Option Layout := do
  let layout ← (layout.closeTo (-1)).dropKey?
  pure { layout with allowsKey := false }

def openFlow? (layout : Layout) (token : Token) : Option Layout := do
  let layout ← layout.rememberKey?
  pure ({ layout with flowLevel := layout.flowLevel + 1, allowsKey := true }.emitHere token 1)

def closeFlow? (layout : Layout) (token : Token) : Option Layout := do
  let layout ← layout.dropKey?
  if layout.flowLevel = 0 then none
  else pure ({ layout with flowLevel := layout.flowLevel - 1, allowsKey := false }.emitHere token 1)

def flowEntry? (layout : Layout) : Option Layout := do
  let layout ← layout.dropKey?
  pure ({ layout with allowsKey := true }.emitHere .flowEntry 1)

def blockEntry? (layout : Layout) : Option Layout := do
  guard (layout.inFlow || layout.allowsKey)
  let layout ← (layout.openHere .blockSequenceStart).dropKey?
  pure ({ layout with allowsKey := true }.emitHere .blockEntry 1)

def key? (layout : Layout) : Option Layout := do
  guard (layout.inFlow || layout.allowsKey)
  let layout ← (layout.openHere .blockMappingStart).dropKey?
  pure ({ layout with allowsKey := !layout.inFlow }.emitHere .key 1)

def value? (layout : Layout) : Option Layout := do
  match layout.keyPlace? with
  | some place =>
    let layout := { layout with
      keyPlaces := layout.keyPlaces.filter (·.1 != layout.flowLevel)
      tokens := layout.tokens.insertIdxIfInBounds place.tokenCount .key
      allowsKey := false }
    pure ((layout.openAt place.column place.tokenCount .blockMappingStart).emitHere .value 1)
  | none =>
    guard (layout.inFlow || layout.allowsKey)
    let layout ← (layout.openHere .blockMappingStart).dropKey?
    pure ({ layout with allowsKey := !layout.inFlow }.emitHere .value 1)

def inline? (layout : Layout) (read : Cursor → Option (Token × Cursor)) : Option Layout := do
  let layout ← layout.rememberKey?
  let (token, cursor) ← read layout.cursor
  pure ({ layout with allowsKey := false, cursor }.emit token)

def plain? (layout : Layout) : Option Layout := do
  let layout ← layout.rememberKey?
  let (text, cursor, crossed) :=
    Scalar.plain layout.inFlow (layout.indent + 1).toNat layout.cursor
  pure ({ layout with allowsKey := crossed, cursor }.emit (.scalar text true))

def block? (layout : Layout) (folded : Bool) : Option Layout := do
  let layout ← layout.dropKey?
  let (text, cursor) ← Scalar.block? folded (max 1 (layout.indent + 1)).toNat layout.cursor
  pure ({ layout with allowsKey := true, cursor }.emit (.scalar text false))

def readAnchor (token : Text → Token) (cursor : Cursor) : Option (Token × Cursor) :=
  (Token.anchorName? cursor).map fun (name, cursor) => (token name, cursor)

def quoted (layout : Layout) (mark : Char) : Except Fault Layout := do
  let layout ← orMalformed layout.rememberKey?
  let (text, cursor) ← Scalar.quoted mark layout.cursor
  pure ({ layout with allowsKey := false, cursor }.emit (.scalar text false))

def isIndicator (character : Char) : Bool :=
  "-?:,[]#&*!|>'\"%@".toList.contains character || isFlowMark character || character == '\x60'

def beginsPlain (layout : Layout) (first : Char) : Bool :=
  !(isIndicator first || endsWord (some first)) ||
    (!endsWord (layout.cursor.peekAt 1) &&
      (first == '-' || (!layout.inFlow && (first == '?' || first == ':'))))

def token? (layout : Layout) (first : Char) : Option Layout :=
  let isLoose := endsWord (layout.cursor.peekAt 1)
  let atLineStart := layout.cursor.column == 0
  if atLineStart && first == '%' then do
    let layout ← layout.closeDocument?
    let (token, cursor) ← Token.directive? layout.cursor
    pure ({ layout with cursor }.emit token)
  else if atLineStart && layout.cursor.atSeparator then do
    let layout ← layout.closeDocument?
    pure (layout.emitHere (if first == '-' then .documentStart else .documentEnd) 3)
  else
    match first with
    | '[' => layout.openFlow? .flowSequenceStart
    | '\x7b' => layout.openFlow? .flowMappingStart
    | ']' => layout.closeFlow? .flowSequenceEnd
    | '\x7d' => layout.closeFlow? .flowMappingEnd
    | ',' => layout.flowEntry?
    | '*' => layout.inline? (readAnchor .alias)
    | '&' => layout.inline? (readAnchor .anchor)
    | '!' => layout.inline? Token.tag?
    | _ =>
      if first == '-' && isLoose then layout.blockEntry?
      else if first == '?' && (layout.inFlow || isLoose) then layout.key?
      else if first == ':' && (layout.inFlow || isLoose) then layout.value?
      else if first == '|' && !layout.inFlow then layout.block? false
      else if first == '>' && !layout.inFlow then layout.block? true
      else if layout.beginsPlain first then layout.plain?
      else none

def token (layout : Layout) (first : Char) : Except Fault Layout :=
  if first == '\'' || first == '"' then layout.quoted first else orMalformed (layout.token? first)

def approach? (layout : Layout) : Option Layout := do
  let layout ← layout.skipGap.dropStaleKeys?
  pure (layout.closeTo layout.cursor.column)

def finish? (layout : Layout) : Option Layout :=
  (layout.closeTo (-1)).dropKey?

/-- Every round reads a token, and a token has at least one character. -/
def readFrom : Nat → Layout → Array Token
  | 0, layout => layout.tokens.push (.unreadable .malformed)
  | rounds + 1, layout =>
    match layout.approach? with
    | none => layout.tokens.push (.unreadable .malformed)
    | some layout =>
      match layout.cursor.peek with
      | some first =>
        match layout.token first with
        | .ok layout => readFrom rounds layout
        | .error fault => layout.tokens.push (.unreadable fault)
      | none =>
        match layout.finish? with
        | some layout => layout.tokens
        | none => layout.tokens.push (.unreadable .malformed)

/-- The tokens of a text. They end early where a character is not allowed, the layout is not well
formed or a scalar cannot be read. -/
def read (text : Text) : List Token :=
  if text.all isAllowed then (readFrom (text.length + 1) (start text)).toList
  else [.unreadable .malformed]

end Layout

end EventFilter.Yaml
