import Scriptlet.Main
import Scriptlet.Proofs.Boundaries
import Scriptlet.Proofs.Cells
import Scriptlet.Proofs.Chronicles
import Scriptlet.Proofs.Closers
import Scriptlet.Proofs.Completion
import Scriptlet.Proofs.Concatenation
import Scriptlet.Proofs.Declarations
import Scriptlet.Proofs.Earliest
import Scriptlet.Proofs.Failures
import Scriptlet.Proofs.Following
import Scriptlet.Proofs.Forests
import Scriptlet.Proofs.History
import Scriptlet.Proofs.Labels
import Scriptlet.Proofs.Layout
import Scriptlet.Proofs.Ledger
import Scriptlet.Proofs.Literals
import Scriptlet.Proofs.LongestMatch
import Scriptlet.Proofs.Meeting
import Scriptlet.Proofs.Moving
import Scriptlet.Proofs.Numerals
import Scriptlet.Proofs.Offsets
import Scriptlet.Proofs.Operations
import Scriptlet.Proofs.Parsing
import Scriptlet.Proofs.Placement
import Scriptlet.Proofs.Ranking
import Scriptlet.Proofs.Rejection
import Scriptlet.Proofs.Relocation
import Scriptlet.Proofs.Reordering
import Scriptlet.Proofs.Requests
import Scriptlet.Proofs.Routes
import Scriptlet.Proofs.Scanning
import Scriptlet.Proofs.Stacking
import Scriptlet.Proofs.Statements
import Scriptlet.Proofs.Symbols
import Scriptlet.Proofs.Wholeness
import Scriptlet.Proofs.Advances
import Scriptlet.Proofs.Joining
import Scriptlet.Proofs.Lifetimes
import Scriptlet.Proofs.Faults
import Scriptlet.Proofs.Listings
import Scriptlet.Proofs.ByteOrder
import Scriptlet.Proofs.Trees
import Scriptlet.Proofs.Checking
import Scriptlet.Proofs.Printing
import Scriptlet.Proofs.OpenOperators
import Scriptlet.Proofs.LeftOperands
