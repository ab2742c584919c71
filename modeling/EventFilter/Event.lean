import EventFilter.Value

/-!
Trace events and the property maps that predicates look into.
-/

namespace EventFilter

abbrev PropertyMap := Entries

namespace PropertyMap

def get? (properties : PropertyMap) (name : Text) : Option Value :=
  (properties.find? fun entry => entry.1 = .text name).map Prod.snd

def setPresent (properties : PropertyMap) (name : Text) (value : Value) : PropertyMap :=
  match value with
  | .null => properties
  | value => Entries.set properties (.text name) value

end PropertyMap

structure Event where
  name : Value
  payload : PropertyMap
  processName : Value
  processId : Value
  threadId : Value

namespace Event

def processNameProperty : Text := "ProcessName".toList

def processIdProperty : Text := "ProcessID".toList

def threadIdProperty : Text := "ThreadID".toList

/-- The payload with the known fields of the process and thread, which win over the payload. -/
def properties (event : Event) : PropertyMap :=
  ((event.payload.setPresent processNameProperty event.processName).setPresent
    processIdProperty event.processId).setPresent threadIdProperty event.threadId

end Event

end EventFilter
