import EventFilter.Yaml.Node

/-!
Merge keys: the entries that a mapping takes in from other mappings.

Entries that are taken in stand before those of the mapping itself, so that its own win where both
have a key.
-/

namespace EventFilter.Yaml

def Kind.ofNode : Node → Kind
  | .scalar kind _ => kind
  | .sequence kind _ => kind
  | .mapping kind _ => kind
  | .enclosing _ isMapping => if isMapping then .mapping else .sequence

namespace Node

def mappingEntries? : Node → Option (List (Node × Node))
  | mapping _ entries => some entries
  | enclosing _ true => some []
  | _ => none

/-- What the value of a merge key brings in: the entries of a mapping, or those of several
mappings, where the first to have a key wins. -/
def takenEntries? : Node → Option (List (Node × Node))
  | sequence _ items =>
    items.foldrM (fun item taken => do pure (taken ++ (← item.mappingEntries?))) []
  | node => node.mappingEntries?

mutual

def merged? : Node → Option Node
  | sequence kind items => do pure (sequence kind (← mergedItems? items))
  | mapping kind entries => do
    let (taken, own) ← mergedEntries? entries
    pure (mapping kind (taken ++ own))
  | node => some node

def mergedItems? : List Node → Option (List Node)
  | [] => some []
  | item :: rest => do pure ((← item.merged?) :: (← mergedItems? rest))

def mergedEntries? : List (Node × Node) → Option (List (Node × Node) × List (Node × Node))
  | [] => some ([], [])
  | (key, value) :: rest => do
    let value ← value.merged?
    let (taken, own) ← mergedEntries? rest
    if Kind.ofNode key = .merge then pure ((← value.takenEntries?) ++ taken, own)
    else pure (taken, (← key.merged?, value) :: own)

end

end Node

end EventFilter.Yaml
