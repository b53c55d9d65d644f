import QueryScan.Main
import QueryScan.Scan.Session
import QueryScan.Token.Body
import QueryScan.Token.Segment
import QueryScan.Proofs.RangeTables
import QueryScan.Proofs.CharClass
import QueryScan.Proofs.Runs
import QueryScan.Proofs.Lexemes
import QueryScan.Proofs.Literals
import QueryScan.Proofs.Constructs
import QueryScan.Proofs.Names
import QueryScan.Proofs.RuleSoundness
import QueryScan.Proofs.Positions
import QueryScan.Proofs.Dispatch
import QueryScan.Proofs.Permission
import QueryScan.Proofs.Sessions
import QueryScan.Proofs.Spans
import QueryScan.Proofs.Comments
import QueryScan.Proofs.Outcomes
import QueryScan.Proofs.TokenPromises
import QueryScan.Proofs.Markup
import QueryScan.Proofs.MaximalMunch
import QueryScan.Proofs.Lossless
import QueryScan.Proofs.Boundaries
import QueryScan.Proofs.Respacing
import QueryScan.Proofs.ModeHistory
import QueryScan.Proofs.Blanks
import QueryScan.Proofs.Resuming
import QueryScan.Proofs.StringContent
import QueryScan.Proofs.Faults
import QueryScan.Proofs.ConstructBodies
import QueryScan.Proofs.Pragmas
import QueryScan.Proofs.Truncation
import QueryScan.Proofs.Numbers
import QueryScan.Proofs.Termination
import QueryScan.Proofs.StringPieces
import QueryScan.Proofs.Segments
import QueryScan.Proofs.ContentParts
import QueryScan.Proofs.DelimiterRuns
import QueryScan.Proofs.Words
import QueryScan.Proofs.Lines
import QueryScan.Proofs.ReadBack
import QueryScan.Proofs.Carets
import QueryScan.Proofs.Underlines
import QueryScan.Proofs.Listings
import QueryScan.Proofs.KindCounts
import QueryScan.Proofs.LineIndex
import QueryScan.Proofs.Readers
import QueryScan.Proofs.Pointers
import QueryScan.Proofs.References
