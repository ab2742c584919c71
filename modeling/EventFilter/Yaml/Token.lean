import EventFilter.Yaml.Scalar

/-!
Tokens of a YAML text.

Indentation is made explicit: block collections have tokens at their start and end, and every key
of a mapping is announced by a token, also where only the colon after it shows that it is one.
-/

namespace EventFilter.Yaml

inductive Directive where
  | version (major : Nat)
  | handle (name : Text) (uri : Text)
  | unknown
deriving DecidableEq

inductive Token where
  | directive (content : Directive)
  | documentStart
  | documentEnd
  | blockSequenceStart
  | blockMappingStart
  | blockEnd
  | flowSequenceStart
  | flowSequenceEnd
  | flowMappingStart
  | flowMappingEnd
  | blockEntry
  | flowEntry
  | key
  | value
  | alias (name : Text)
  | anchor (name : Text)
  | tag (handle : Option Text) (suffix : Text)
  | scalar (text : Text) (isPlain : Bool)
  /-- The end of the tokens of a text that cannot be read further. -/
  | unreadable (fault : Fault)
deriving DecidableEq

namespace Token

/-! Tokens that are read without regard to indentation. -/

def endsAnchor : Option Char → Bool
  | none => true
  | some character =>
    endsWord (some character) || isFlowMark character && character != '[' && character != '\x7b' ||
      character == '?' || character == ':' || character == '%' || character == '@' ||
      character == '\x60'

def anchorName? (cursor : Cursor) : Option (Text × Cursor) :=
  let (name, cursor) := cursor.next.takeWhile isNameCharacter
  if name.isEmpty || !endsAnchor cursor.peek then none else some (name, cursor)

def isUriCharacter (character : Char) : Bool :=
  character.isAlphanum || "-;/?:@&=+$,_.!~*'()[]".toList.contains character

def percentOctets? : Nat → Cursor → Option (List Nat × Cursor)
  | 0, cursor => some ([], cursor)
  | rounds + 1, cursor =>
    if cursor.peek == some '%' then do
      let octet ← Scalar.hexNumber? 2 cursor.next.rest
      let (octets, cursor) ← percentOctets? rounds (cursor.advance 3)
      pure (octet :: octets, cursor)
    else some ([], cursor)

def uriFrom? : Nat → Text → Cursor → Option (Text × Cursor)
  | 0, uri, cursor => if uri.isEmpty then none else some (uri, cursor)
  | rounds + 1, uri, cursor =>
    if cursor.peek == some '%' then do
      let (octets, cursor) ← percentOctets? cursor.rest.length cursor
      let text ← String.fromUTF8? ⟨(octets.map UInt8.ofNat).toArray⟩
      uriFrom? rounds (uri ++ text.toList) cursor
    else
      let (run, cursor) := cursor.takeWhile isUriCharacter
      if run.isEmpty then if uri.isEmpty then none else some (uri, cursor)
      else uriFrom? rounds (uri ++ run) cursor

def uri? (cursor : Cursor) : Option (Text × Cursor) :=
  uriFrom? (cursor.rest.length + 1) [] cursor

def handle? (cursor : Cursor) : Option (Text × Cursor) :=
  if cursor.peek != some '!' then none
  else
    let (name, following) := cursor.next.takeWhile isNameCharacter
    if following.peek == some '!' then some ('!' :: name ++ ['!'], following.next)
    else if name.isEmpty && following.peek == some ' ' then some (['!'], following)
    else none

def endsTag (character : Option Char) : Bool :=
  endsLine character || character == some ' '

def tag? (cursor : Cursor) : Option (Token × Cursor) := do
  let second := cursor.next.peek
  let (token, cursor) ←
    if second == some '<' then do
      let (suffix, cursor) ← uri? (cursor.advance 2)
      if cursor.peek == some '>' then pure (tag none suffix, cursor.next) else none
    else if endsWord second then pure (tag none ['!'], cursor.next)
    else
      let word := cursor.next.rest.takeWhile fun character => !endsTag (some character)
      if word.contains '!' then do
        let (handle, cursor) ← handle? cursor
        let (suffix, cursor) ← uri? cursor
        pure (tag (some handle) suffix, cursor)
      else do
        let (suffix, cursor) ← uri? cursor.next
        pure (tag (some ['!']) suffix, cursor)
  if endsTag cursor.peek then pure (token, cursor) else none

def number? (cursor : Cursor) : Option (Nat × Cursor) :=
  let (digits, cursor) := cursor.takeWhile Text.isAsciiDigit
  if digits.isEmpty then none
  else some (Text.digitsToNat digits, cursor)

def version? (cursor : Cursor) : Option (Directive × Cursor) := do
  let (major, cursor) ← number? cursor.skipSpaces
  guard (cursor.peek == some '.')
  let (_, cursor) ← number? cursor.next
  if endsTag cursor.peek then pure (.version major, cursor) else none

def handleDirective? (cursor : Cursor) : Option (Directive × Cursor) := do
  let (name, cursor) ← handle? cursor.skipSpaces
  guard (cursor.peek == some ' ')
  let (uri, cursor) ← uri? cursor.skipSpaces
  if endsTag cursor.peek then pure (.handle name uri, cursor) else none

def directive? (cursor : Cursor) : Option (Token × Cursor) := do
  let (name, cursor) := cursor.next.takeWhile isNameCharacter
  guard (!name.isEmpty && endsTag cursor.peek)
  let (content, cursor) ←
    if name = ['Y', 'A', 'M', 'L'] then version? cursor
    else if name = ['T', 'A', 'G'] then handleDirective? cursor
    else pure (.unknown, cursor.skipWhile (!isBreak ·))
  let cursor ← cursor.finishLine?
  pure (directive content, cursor)

end Token

end EventFilter.Yaml
