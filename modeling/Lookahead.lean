import Lookahead.Grammar.Derivation
import Lookahead.Grammar
import Lookahead.Main
import Lookahead.Session
import Lookahead.Token
import Lookahead.Proofs.Grammar.Derivation
import Lookahead.Proofs.Saturation
import Lookahead.Proofs.Nullability
import Lookahead.Proofs.First.Exact
import Lookahead.Proofs.Follow.Exact
import Lookahead.Proofs.Conflict.Alternation
import Lookahead.Proofs.Unambiguous
import Lookahead.Proofs.LeftRecursion
import Lookahead.Proofs.Passes
import Lookahead.Proofs.Source
import Lookahead.Proofs.Token.Lexer
import Lookahead.Proofs.RuleLine
import Lookahead.Proofs.Grammar.Contents
import Lookahead.Proofs.Loading
import Lookahead.Proofs.RoundTrip
import Lookahead.Proofs.StartSymbol
import Lookahead.Proofs.Token.Failure
import Lookahead.Proofs.LineByLine
import Lookahead.Proofs.LineFates
import Lookahead.Proofs.Renumbering
import Lookahead.Proofs.Deletion
import Lookahead.Proofs.Containment
import Lookahead.Proofs.Conflict.Places
import Lookahead.Proofs.Conflict.Concatenation
import Lookahead.Proofs.Conflict.Following
import Lookahead.Proofs.Monotonicity
import Lookahead.Proofs.Markers
import Lookahead.Proofs.Undefined
import Lookahead.Proofs.Grammar.Store
import Lookahead.Proofs.Overrides
import Lookahead.Proofs.Positions
import Lookahead.Proofs.First.Chain
import Lookahead.Proofs.Log
import Lookahead.Proofs.LineFaults
import Lookahead.Proofs.LineEnds
import Lookahead.Proofs.Growth
import Lookahead.Proofs.Report.Layout
import Lookahead.Proofs.Report.Exact
