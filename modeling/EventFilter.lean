import EventFilter.FilterSet
import EventFilter.Proofs.Filter.Composition
import EventFilter.Proofs.Filter.Faults
import EventFilter.Proofs.Filter.Layout
import EventFilter.Proofs.Filter.Relevance
import EventFilter.Proofs.Filter.Single
import EventFilter.Proofs.Filter.WellFormed
import EventFilter.Proofs.FilterSet.Views
import EventFilter.Proofs.Postorder.Check
import EventFilter.Proofs.Postorder.Groups
import EventFilter.Proofs.Postorder.Viability
import EventFilter.Proofs.Predicate.LetterCase
import EventFilter.Proofs.Predicate.Numeric
import EventFilter.Proofs.Predicate.Order
import EventFilter.Proofs.Predicate.Testing
import EventFilter.Proofs.Settings.Validation
import EventFilter.Proofs.Span.Concatenation
import EventFilter.Proofs.Symbolic.Ceiling
import EventFilter.Proofs.Symbolic.Concatenation
import EventFilter.Proofs.Symbolic.Rewording
import EventFilter.Proofs.Token.Reading
import EventFilter.Settings.Source
