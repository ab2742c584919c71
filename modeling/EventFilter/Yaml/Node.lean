import EventFilter.Yaml.Kind
import EventFilter.Yaml.Layout

/-!
Trees of YAML nodes, read from the tokens of a document.
-/

namespace EventFilter.Yaml

inductive Node where
  | scalar (kind : Kind) (text : Text)
  | sequence (kind : Kind) (items : List Node)
  | mapping (kind : Kind) (entries : List (Node × Node))
  | enclosing (anchor : Text) (isMapping : Bool)

namespace Node

mutual

def expand (anchor : Text) (whole : Node) : Node → Node
  | scalar kind text => scalar kind text
  | sequence kind items => sequence kind (expandItems anchor whole items)
  | mapping kind entries => mapping kind (expandEntries anchor whole entries)
  | enclosing inner isMapping => if inner = anchor then whole else enclosing inner isMapping

def expandItems (anchor : Text) (whole : Node) : List Node → List Node
  | [] => []
  | item :: rest => expand anchor whole item :: expandItems anchor whole rest

def expandEntries (anchor : Text) (whole : Node) : List (Node × Node) → List (Node × Node)
  | [] => []
  | (key, value) :: rest =>
    (expand anchor whole key, expand anchor whole value) :: expandEntries anchor whole rest

end

structure Source where
  tokens : List Token
  anchors : List (Text × Node)
  handles : List (Text × Text)

abbrev Reader := StateT Source (Except Fault)

def malformed {Result : Type} : Reader Result :=
  throw .malformed

def require (condition : Bool) : Reader Unit :=
  if condition then pure () else malformed

def peek : Reader (Option Token) := do
  match (← get).tokens.head? with
  | some (.unreadable fault) => throw fault
  | next => pure next

def skip : Reader Unit :=
  modify fun source => { source with tokens := source.tokens.drop 1 }

def accept (token : Token) : Reader Bool := do
  if (← peek) = some token then
    skip
    pure true
  else pure false

def expect (token : Token) : Reader Unit := do
  require (← accept token)

def nextIn (tokens : List Token) : Reader Bool := do
  pure ((← peek).any tokens.contains)

def absent : Node :=
  scalar .null []

/-- The full name of a tag, of which `!` alone says nothing. -/
def tagName (handle : Option Text) (suffix : Text) : Reader (Option Text) := do
  match handle with
  | none => pure (if suffix = ['!'] then none else some suffix)
  | some handle =>
    match (← get).handles.lookup handle with
    | some uri => pure (some (uri ++ suffix))
    | none => malformed

def acceptTag : Reader (Option (Option Text)) := do
  match ← peek with
  | some (.tag handle suffix) =>
    skip
    pure (some (← tagName handle suffix))
  | _ => pure none

def acceptAnchor : Reader (Option Text) := do
  match ← peek with
  | some (.anchor name) =>
    skip
    pure (some name)
  | _ => pure none

def properties : Reader (Option (Option Text) × Option Text) := do
  match ← acceptAnchor with
  | some anchor => pure (← acceptTag, some anchor)
  | none =>
    let tag ← acceptTag
    pure (tag, ← acceptAnchor)

def declare (node : Node) (name : Text) : Reader Unit := do
  require ((← get).anchors.lookup name).isNone
  modify fun source => { source with anchors := (name, node) :: source.anchors }

def leaf (anchor : Option Text) (node : Node) : Reader Node := do
  anchor.forM (declare node)
  pure node

/-- A collection, which may stand inside itself by its anchor. -/
def collection (anchor : Option Text) (isMapping : Bool) (content : Reader Node) :
    Reader Node := do
  match anchor with
  | none => content
  | some name =>
    declare (enclosing name isMapping) name
    let node ← content
    let node := expand name node node
    modify fun source => { source with anchors := (name, node) :: source.anchors }
    pure node

def scalarKind (tag : Option (Option Text)) (text : Text) (isPlain : Bool) : Kind :=
  match tag with
  | some (some name) => Kind.ofName name
  | some none => Kind.ofPlain text
  | none => if isPlain then Kind.ofPlain text else .text

def collectionKind (tag : Option (Option Text)) (usual : Kind) : Kind :=
  match tag with
  | some (some name) => Kind.ofName name
  | _ => usual

mutual

/-- A node; `inBlock` allows block collections, and `inMapping` also a block sequence that is not
indented. Every call takes a token or is followed by one that does. -/
def read (inBlock inMapping : Bool) : Nat → Reader Node
  | 0 => malformed
  | rounds + 1 => do
    match ← peek with
    | some (.alias name) =>
      skip
      match (← get).anchors.lookup name with
      | some node => pure node
      | none => malformed
    | _ =>
      let (tag, anchor) ← properties
      match ← peek with
      | some (.scalar text isPlain) =>
        skip
        leaf anchor (scalar (scalarKind tag text isPlain) text)
      | some .flowSequenceStart =>
        skip
        collection anchor false (sequence (collectionKind tag .sequence) <$> flowItems true rounds)
      | some .flowMappingStart =>
        skip
        collection anchor true (mapping (collectionKind tag .mapping) <$> flowEntries true rounds)
      | some .blockSequenceStart =>
        require inBlock
        skip
        collection anchor false (sequence (collectionKind tag .sequence) <$> blockItems rounds)
      | some .blockMappingStart =>
        require inBlock
        skip
        collection anchor true (mapping (collectionKind tag .mapping) <$> blockEntries rounds)
      | next =>
        if inMapping && next = some .blockEntry then
          collection anchor false (sequence (collectionKind tag .sequence) <$> looseItems rounds)
        else if tag.isSome || anchor.isSome then
          leaf anchor (scalar (scalarKind tag [] (tag.all Option.isNone)) [])
        else malformed

def readUnless (absentBefore : List Token) (inBlock inMapping : Bool) : Nat → Reader Node
  | 0 => malformed
  | rounds + 1 => do
    if ← nextIn absentBefore then pure absent else read inBlock inMapping rounds

def blockItems : Nat → Reader (List Node)
  | 0 => malformed
  | rounds + 1 => do
    if ← accept .blockEntry then
      let item ← readUnless [.blockEntry, .blockEnd] true false rounds
      pure (item :: (← blockItems rounds))
    else
      expect .blockEnd
      pure []

def looseItems : Nat → Reader (List Node)
  | 0 => malformed
  | rounds + 1 => do
    if ← accept .blockEntry then
      let item ← readUnless [.blockEntry, .key, .value, .blockEnd] true false rounds
      pure (item :: (← looseItems rounds))
    else pure []

def entryValue (absentBefore : List Token) (inBlock : Bool) : Nat → Reader Node
  | 0 => malformed
  | rounds + 1 => do
    if ← accept .value then readUnless absentBefore inBlock inBlock rounds else pure absent

def blockEntries : Nat → Reader (List (Node × Node))
  | 0 => malformed
  | rounds + 1 => do
    match ← peek with
    | some .blockEnd =>
      skip
      pure []
    | some .key =>
      skip
      let key ← readUnless [.key, .value, .blockEnd] true true rounds
      let value ← entryValue [.key, .value, .blockEnd] true rounds
      pure ((key, value) :: (← blockEntries rounds))
    | _ => malformed

def flowItems (isFirst : Bool) : Nat → Reader (List Node)
  | 0 => malformed
  | rounds + 1 => do
    if ← accept .flowSequenceEnd then pure []
    else
      if !isFirst then expect .flowEntry
      if ← accept .flowSequenceEnd then pure []
      else if ← accept .key then
        let key ← readUnless [.value, .flowEntry, .flowSequenceEnd] false false rounds
        let value ← entryValue [.flowEntry, .flowSequenceEnd] false rounds
        pure (mapping .mapping [(key, value)] :: (← flowItems false rounds))
      else
        let item ← read false false rounds
        pure (item :: (← flowItems false rounds))

def flowEntries (isFirst : Bool) : Nat → Reader (List (Node × Node))
  | 0 => malformed
  | rounds + 1 => do
    if ← accept .flowMappingEnd then pure []
    else
      if !isFirst then expect .flowEntry
      if ← accept .flowMappingEnd then pure []
      else if ← accept .key then
        let key ← readUnless [.value, .flowEntry, .flowMappingEnd] false false rounds
        let value ← entryValue [.flowEntry, .flowMappingEnd] false rounds
        pure ((key, value) :: (← flowEntries false rounds))
      else
        let key ← read false false rounds
        pure ((key, absent) :: (← flowEntries false rounds))

end

def directives : Nat → Bool → List (Text × Text) → Reader (List (Text × Text))
  | 0, _, _ => malformed
  | rounds + 1, hasVersion, handles => do
    match ← peek with
    | some (.directive .unknown) =>
      skip
      directives rounds hasVersion handles
    | some (.directive (.version major)) =>
      require (!hasVersion && major == 1)
      skip
      directives rounds true handles
    | some (.directive (.handle name uri)) =>
      require (handles.lookup name).isNone
      skip
      directives rounds hasVersion ((name, uri) :: handles)
    | _ => pure handles

def usualHandles : List (Text × Text) := [
  (['!'], ['!']), (['!', '!'], "tag:yaml.org,2002:".toList)]

def atDocumentEnd : Reader Bool := do
  match ← peek with
  | none | some .documentStart | some .documentEnd | some (.directive _) => pure true
  | _ => pure false

def skipDocumentEnds : Nat → Reader Unit
  | 0 => pure ()
  | rounds + 1 => do
    if ← accept .documentEnd then skipDocumentEnds rounds

def document (rounds : Nat) : Reader (Option Node) := do
  match ← peek with
  | none => pure none
  | some .documentStart | some (.directive _) =>
    let handles ← directives rounds false []
    modify fun source => { source with handles := handles ++ usualHandles }
    expect .documentStart
    let node ← if ← atDocumentEnd then pure absent else read true false rounds
    skipDocumentEnds rounds
    require (← peek).isNone
    pure (some node)
  | _ =>
    let node ← read true false rounds
    skipDocumentEnds rounds
    require (← peek).isNone
    pure (some node)

/-- The document that a list of tokens stands for; twice as many rounds as tokens, and some for
the levels of the grammar, suffice. -/
def ofTokens (tokens : List Token) : Except Fault (Option Node) :=
  (document (4 * tokens.length + 8)).run' ⟨tokens, [], usualHandles⟩

end Node

end EventFilter.Yaml
