import EventFilter.Value

/-!
Settings: how filters are compiled, and the filters themselves.
-/

namespace EventFilter

structure Settings where
  ceiling : Option Int := none
  /-- Whether AND, OR and NOT can be written for `&&`, `||` and `!`. -/
  keywords : Bool := true
  filters : List (Text × Text) := []
deriving DecidableEq

namespace Settings

def ceilingName : Text := "max_predicates".toList

def keywordsName : Text := "keyword_operators".toList

def filtersName : Text := "filters".toList

def toValue (settings : Settings) : Value :=
  .map [
    (.text ceilingName, match settings.ceiling with
      | some ceiling => .integer ceiling
      | none => .null),
    (.text keywordsName, .flag settings.keywords),
    (.text filtersName, .map (settings.filters.map fun entry =>
      (.text entry.1, .text entry.2)))]

end Settings

end EventFilter
