import Querycraft.Batch
import Querycraft.Calendar
import Querycraft.Configuration
import Querycraft.Decimal.Layout
import Querycraft.Decimal.Reading
import Querycraft.Declaration.Derived
import Querycraft.Dialect.Layout
import Querycraft.Draft.Projection
import Querycraft.Draft.Write
import Querycraft.Json.Reading
import Querycraft.Json.Writing
import Querycraft.Parameters
import Querycraft.Query.Report
import Querycraft.Term.Emission
import Querycraft.Term.Lowering
import Querycraft.Term.NormalForm
import Querycraft.Text.LetterCase
import Querycraft.Text.Numeral
import Querycraft.Text.Quoted
import Querycraft.Uuid
import Querycraft.Value.Writing
import Querycraft.Wire
import Querycraft.Proofs.Binding
import Querycraft.Proofs.Drafting
import Querycraft.Proofs.Emission
import Querycraft.Proofs.Slots
import Querycraft.Proofs.Numbering
import Querycraft.Proofs.Alike
import Querycraft.Proofs.Independence
import Querycraft.Proofs.Meaning
import Querycraft.Proofs.Reading
import Querycraft.Proofs.Lexing
import Querycraft.Proofs.Conditions
import Querycraft.Proofs.Filters
import Querycraft.Proofs.Quoting
import Querycraft.Proofs.Targets
import Querycraft.Proofs.Batches
import Querycraft.Proofs.Usage
import Querycraft.Proofs.Calls
import Querycraft.Proofs.Freshness
import Querycraft.Proofs.Positions
import Querycraft.Proofs.Grouping
import Querycraft.Proofs.Marking
import Querycraft.Proofs.Unambiguity
import Querycraft.Proofs.Copying
import Querycraft.Proofs.Failures
import Querycraft.Proofs.Normalization
import Querycraft.Proofs.Portability
import Querycraft.Proofs.NormalForm
import Querycraft.Proofs.Acceptance
import Querycraft.Proofs.NullTests
import Querycraft.Proofs.Assignments
import Querycraft.Proofs.Folding
import Querycraft.Proofs.Leaves
import Querycraft.Proofs.Scopes
import Querycraft.Proofs.Templates
import Querycraft.Proofs.Conversions
import Querycraft.Proofs.Columns
import Querycraft.Proofs.Patterns
import Querycraft.Proofs.Paging
import Querycraft.Proofs.Rows
import Querycraft.Proofs.Arithmetic
import Querycraft.Proofs.Captures
import Querycraft.Proofs.Narrowing
import Querycraft.Proofs.Derivation
import Querycraft.Proofs.Merging
import Querycraft.Proofs.Truncation
