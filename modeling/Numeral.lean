import Numeral.Corpus
import Numeral.Pattern.Comparison
import Numeral.Workspace.Action
import Numeral.Proofs.Grammar.Exclusivity
import Numeral.Proofs.Tree.Shape
import Numeral.Proofs.Candidate.Walk
import Numeral.Grammar.Search
import Numeral.Proofs.Grammar.Misses
import Numeral.Proofs.Text.Bytes
import Numeral.Proofs.Tree.Shift
import Numeral.Proofs.Candidate.Found
import Numeral.Proofs.Candidate.Neutral
import Numeral.Proofs.Report.Literals
import Numeral.Proofs.Search.Ends
import Numeral.Proofs.Search.Rules
import Numeral.Proofs.Search.Forms
import Numeral.Proofs.Search.FirstForm
import Numeral.Proofs.Search.Locality
import Numeral.Proofs.Candidate.Context
import Numeral.Proofs.Grammar.Endings
import Numeral.Proofs.Report.Underlines
import Numeral.Workspace.Books
import Numeral.Workspace.Events
import Numeral.Proofs.Workspace.Log
import Numeral.Proofs.Workspace.Heard
import Numeral.Proofs.Workspace.Runs
import Numeral.Proofs.Workspace.Accounts
import Numeral.Proofs.Workspace.Stores
import Numeral.Proofs.Workspace.Labels
import Numeral.Proofs.Workspace.Integrity
import Numeral.Grammar.Survey
import Numeral.Proofs.Search.Survey
import Numeral.Proofs.Search.Totality
import Numeral.Proofs.Tree.Nesting
import Numeral.Proofs.Tree.Traversal
import Numeral.Proofs.Tree.Layers
import Numeral.Proofs.Grammar.Unseen
import Numeral.Proofs.Search.Recased
import Numeral.Proofs.Grammar.Viable
import Numeral.Proofs.Grammar.Reach
import Numeral.Proofs.Search.Obstacles
import Numeral.Proofs.Candidate.Extent
import Numeral.Proofs.Grammar.Honest
import Numeral.Proofs.Search.Honesty
import Numeral.Report.Cropping
import Numeral.Proofs.Report.Cropping
import Numeral.Proofs.Report.Annotations
import Numeral.Proofs.Report.EmptyLabels
import Numeral.Proofs.Tree.Titles
import Numeral.Proofs.Tree.Origin
import Numeral.Proofs.Tree.Outline
import Numeral.Proofs.Pattern.Explanation
import Numeral.Proofs.Text.Printed
import Numeral.Proofs.Pattern.Mirror
import Numeral.Proofs.Text.Slicing
import Numeral.Proofs.Report.Messages
import Numeral.Proofs.Search.Groups
import Numeral.Proofs.Report.Golden
import Numeral.Proofs.Workspace.Deeds
import Numeral.Proofs.Workspace.Golden
