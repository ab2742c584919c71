import EventFilter.Yaml.Merge
import EventFilter.Yaml.ScalarValue

/-!
The values of YAML documents.
-/

namespace EventFilter.Yaml

structure PlacedFault where
  depth : Nat
  fault : Fault

/-- Two results, or the fault with fewer collections around it; of two faults with equally many it
is the first. -/
def both {First Second : Type} (first : Except PlacedFault First)
    (second : Except PlacedFault Second) : Except PlacedFault (First × Second) :=
  match first, second with
  | .ok first, .ok second => .ok (first, second)
  | .error fault, .ok _ => .error fault
  | .ok _, .error fault => .error fault
  | .error left, .error right => .error (if right.depth < left.depth then right else left)

def placed {Result : Type} (depth : Nat) : Except Fault Result → Except PlacedFault Result
  | .ok result => .ok result
  | .error fault => .error ⟨depth, fault⟩

mutual

def Node.content? : Node → Option Text
  | .scalar _ text => some text
  | .mapping _ entries => markedContent? entries
  | _ => none

def markedContent? : List (Node × Node) → Option Text
  | [] => none
  | (.scalar .valueMark _, value) :: _ => value.content?
  | _ :: rest => markedContent? rest

end

def Node.scalarOf (node : Node) (kind : Kind) : Except Fault Key := do
  ScalarValue.ofText kind (← orMalformed node.content?)

def Node.key (node : Node) : Except Fault Key :=
  match node with
  | .scalar .valueMark text => .ok (.text text)
  | .scalar kind _ => node.scalarOf kind
  | .mapping kind _ => node.scalarOf kind
  | _ => .error .malformed

def elements (entries : Entries) : List Value :=
  entries.map fun entry => Value.ofKey entry.1

mutual

def Node.value (depth : Nat) : Node → Except PlacedFault Value
  | .scalar kind text => placed depth (Value.ofKey <$> ScalarValue.ofText kind text)
  | .sequence .sequence items => Value.list <$> itemValues (depth + 1) items
  | .sequence .pairs items => Value.list <$> pairValues (depth + 1) items
  | .sequence _ _ => .error ⟨depth, .malformed⟩
  | .mapping .mapping entries =>
    (Value.map <| Entries.ofList ·) <$> entryValues (depth + 1) entries
  | .mapping .set entries =>
    (Value.list <| elements <| Entries.ofList ·) <$> entryValues (depth + 1) entries
  | .mapping kind entries =>
    placed depth (Value.ofKey <$> (Node.mapping kind entries).scalarOf kind)
  | .enclosing _ isMapping => .ok (if isMapping then .map [] else .list [])

def itemValues (depth : Nat) : List Node → Except PlacedFault (List Value)
  | [] => .ok []
  | item :: rest =>
    (fun (value, values) => value :: values) <$> both (item.value depth) (itemValues depth rest)

/-- Items that have one entry each, as lists of key and value. -/
def pairValues (depth : Nat) : List Node → Except PlacedFault (List Value)
  | [] => .ok []
  | .mapping _ [(key, value)] :: rest =>
    (fun ((key, value), values) => .list [key, value] :: values) <$>
      both (both (key.value depth) (value.value depth)) (pairValues depth rest)
  | _ :: _ => .error ⟨depth, .malformed⟩

def entryValues (depth : Nat) : List (Node × Node) → Except PlacedFault (List (Key × Value))
  | [] => .ok []
  | (keyNode, valueNode) :: rest =>
    (fun (entry, entries) => entry :: entries) <$>
      both (both (placed depth keyNode.key) (valueNode.value depth)) (entryValues depth rest)

end

def read (text : Text) : Except Fault Value := do
  match ← Node.ofTokens (Layout.read text) with
  | none => pure .null
  | some node =>
    let node ← orMalformed node.merged?
    match node.value 0 with
    | .ok value => pure value
    | .error placed => throw placed.fault

end EventFilter.Yaml
