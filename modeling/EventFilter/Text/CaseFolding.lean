import EventFilter.Text.Basic
import EventFilter.Text.CaseTable

/-!
Case folding of texts.

Two texts are equal without regard to letter case if and only if `foldCase` makes them equal.
-/

namespace EventFilter.Text

def CaseRun.covers (run : CaseRun) (code : Nat) : Bool :=
  run.first ≤ code && code ≤ run.last && (code - run.first) % run.stride == 0

def foldCharacter (character : Char) : Text :=
  match caseRuns.find? fun run => run.covers character.toNat with
  | some run => [Char.ofNat (character.toNat + run.shift).toNat]
  | none =>
    match caseExpansions.lookup character.toNat with
    | some codes => codes.map Char.ofNat
    | none => [character]

def foldCase (text : Text) : Text :=
  text.flatMap foldCharacter

end EventFilter.Text
