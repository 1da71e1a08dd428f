import Frontmatter.Main
import Frontmatter.Proofs.Block.Resolution
import Frontmatter.Proofs.FieldLine
import Frontmatter.Proofs.Insertion.NewBlock
import Frontmatter.Proofs.Insertion.InsertedKeys
import Frontmatter.Proofs.Block.Nesting
import Frontmatter.Proofs.Insertion.Frame
import Frontmatter.Proofs.Children
import Frontmatter.Proofs.Suggestion
import Frontmatter.Proofs.Schedule.Delivery
import Frontmatter.Proofs.Selection
import Frontmatter.Proofs.Workspace
import Frontmatter.Proofs.Diagnosis
import Frontmatter.Proofs.Block.Enclosure
import Frontmatter.Proofs.Forest
import Frontmatter.Proofs.Text.LineEnding
import Frontmatter.Proofs.Insertion.Splice
import Frontmatter.Proofs.Acceptance
import Frontmatter.Proofs.Config
import Frontmatter.Proofs.Locality
import Frontmatter.Proofs.Selection.Origin
import Frontmatter.Proofs.ParsedKeys
import Frontmatter.Proofs.Path
import Frontmatter.Proofs.Text.Utf8
import Frontmatter.Proofs.Governance
import Frontmatter.Proofs.Offer
import Frontmatter.Proofs.Lookup
import Frontmatter.Proofs.Delimiter
import Frontmatter.Proofs.Schedule.Polling
import Frontmatter.Proofs.Grammar.Numeral
import Frontmatter.Proofs.Grammar.Number
import Frontmatter.Proofs.Grammar.Written
import Frontmatter.Proofs.Grammar.Declared
import Frontmatter.Proofs.Grammar.Sample
import Frontmatter.Proofs.Text.Lowercase
import Frontmatter.Proofs.Query
import Frontmatter.Proofs.Grammar.Fraction
import Frontmatter.Proofs.Number.Order
import Frontmatter.Proofs.Number.Rounding
import Frontmatter.Proofs.Block.Reading
import Frontmatter.Proofs.Selection.Picking
import Frontmatter.Proofs.Text.Padding
import Frontmatter.Proofs.Declaration
import Frontmatter.Proofs.Grammar.Advice
