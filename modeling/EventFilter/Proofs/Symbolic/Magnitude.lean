import EventFilter.Proofs.Symbolic.Lossless
import Mathlib.Data.List.Perm.Subperm

/-!
Integers in the messages about an expression.

An expression has no more predicates than characters. So the numbers of its predicates, its places
and every ceiling above zero that is reached have few enough digits for a message.
-/

namespace EventFilter.Symbolic

variable {Effect : Type → Type} {Item : Type} {kind : PredicateKind Effect Item}
  {keywords : Bool} {expression : Text} {ceiling : Option Int} {symbolic : Symbolic Item}

theorem length_eraseDups_le (texts : List Text) : texts.eraseDups.length ≤ texts.length :=
  ((nodup_eraseDups texts).subperm fun _ => List.mem_eraseDups.mp).length_le

theorem length_items_le (sound : kind.IsSound) {before after : List Span}
    (split : (Spans.ofText kind keywords expression).spans = before ++ after)
    (passed : ofSpansFrom ⟨kind, ceiling⟩ expression [] before = .ok symbolic) :
    symbolic.items.length ≤ expression.length := by
  have distinct := length_eraseDups_le (Spans.predicates before)
  have predicates : (Spans.predicates before).length ≤ (before.map Span.mark).length :=
    List.length_filterMap_le _ _
  have total := congrArg List.length split
  have within := Spans.length_le sound keywords expression
  rw [← length_of_ofSpansFrom passed] at distinct
  rw [List.length_map] at predicates
  rw [List.length_append] at total
  omega

theorem fault_of_unrecognised (sound : kind.IsSound) {position : Nat}
    (stopped : (Spans.ofText kind keywords expression).unrecognised = some position) :
    ParsingReason.unrecognisedToken.fault expression position =
      .parsing ⟨.unrecognisedToken, some expression, some position⟩ :=
  ParsingReason.fault_of_within (Nat.le_of_lt (Spans.unrecognised_lt sound stopped))
    (List.forall_mem_nil _)

theorem isWritableIn_of_reached {limit : Int} {count : Nat} (reached : limit ≤ count)
    (within : count ≤ expression.length) (above : -(Text.digitBound : Int) < limit) :
    Text.isWritableIn expression limit = true := by
  rw [← Bool.not_eq_false, Text.isWritableIn_eq_false_iff]
  omega

theorem isWritableIn_symbol (sound : kind.IsSound)
    (numbered : ofText ⟨kind, ceiling⟩ keywords expression = .ok symbolic) :
    ∀ token ∈ symbolic.tokens, ∀ index ∈ token.symbol?.toList,
      Text.isWritableIn expression index = true := by
  obtain ⟨_, passed⟩ := ofText_eq_ok_iff.mp numbered
  have within := length_items_le sound (List.append_nil _).symm passed
  intro token inside index isSymbol
  rw [(isNumbering_of_ofSpansFrom passed).tokens] at inside
  obtain ⟨mark, _, rfl⟩ := List.mem_map.mp inside
  cases mark with
  | atom name =>
      obtain rfl := List.mem_singleton.mp isSymbol
      exact Text.isWritableIn_of_le (Nat.le_trans List.findIdx_le_length within)
  | connective | openGroup | closeGroup => cases isSymbol

end EventFilter.Symbolic
