import LineSearch.Main
import LineSearch.Token.Coverage
import LineSearch.Proofs.Text.Offset
import LineSearch.Proofs.Search.Ends
import LineSearch.Proofs.Search.Preference
import LineSearch.Proofs.Search.Attempts
import LineSearch.Proofs.Search.Termination
import LineSearch.Proofs.Search.Greedy
import LineSearch.Proofs.Token.Language
import LineSearch.Proofs.Search.Soundness
import LineSearch.Proofs.Search.Completeness
import LineSearch.Proofs.Token.Balance
import LineSearch.Proofs.Token.Grammar
import LineSearch.Proofs.Search.Suffix
import LineSearch.Proofs.Search.Placements
import LineSearch.Proofs.Search.Found
import LineSearch.Proofs.Search.Interchange
import LineSearch.Proofs.Token.Quoting
import LineSearch.Proofs.Search.Quoted
import LineSearch.Proofs.Stream.Lines
import LineSearch.Proofs.Stream.Output
import LineSearch.Proofs.Stream.Partition
import LineSearch.Proofs.Command.Arguments
import LineSearch.Proofs.Command.Contract
import LineSearch.Proofs.Command.Outcome
import LineSearch.Proofs.Search.Loosening
import LineSearch.Proofs.Search.Nullable
import LineSearch.Proofs.Token.Concatenation
import LineSearch.Proofs.Token.Anchoring
import LineSearch.Proofs.Token.GroupText
import LineSearch.Proofs.Search.Regrouping
import LineSearch.Proofs.Token.Fallbacks
import LineSearch.Proofs.Search.Refinding
import LineSearch.Proofs.Search.Steps
import LineSearch.Proofs.Search.Journal
import LineSearch.Proofs.Text.Checked
import LineSearch.Proofs.Token.Scanning
import LineSearch.Proofs.Search.Positions
import LineSearch.Proofs.Search.Faultless
