import Crosscheck.Main
import Crosscheck.CommandLine.Reading
import Crosscheck.CommandLine.Table
import Crosscheck.CommandLine.Help
import Crosscheck.CommandLine.Argument
import Crosscheck.Run.Matrix
import Crosscheck.Fixture.Replay
import Crosscheck.Fixture.Reader
import Crosscheck.Fixture.Writer
import Crosscheck.Engine.Comparison
import Crosscheck.Fixture.Record
import Crosscheck.Regex
import Crosscheck.Pattern.Reader
import Crosscheck.Pattern.Simplified
import Crosscheck.Search.Backtracking
import Crosscheck.Search.Bitmap
import Crosscheck.Search.Lockstep
import Crosscheck.Search.Closure
import Crosscheck.Search.Settings
import Crosscheck.Automaton.Build
import Crosscheck.Automaton.Listing
import Crosscheck.Failure
import Crosscheck.Random.Stream
import Crosscheck.Generate.Haystacks
import Crosscheck.Generate.Candidates
import Crosscheck.Unicode.Folding
import Crosscheck.Proofs.Search.Strategies
import Crosscheck.Proofs.Search.Preference
import Crosscheck.Proofs.Fixture.Acceptance
import Crosscheck.Proofs.Search.AnyNumber
import Crosscheck.Proofs.Run.Failing
import Crosscheck.Proofs.Generate.Drafts
import Crosscheck.Proofs.Generate.Tuples
import Crosscheck.Proofs.Search.Anchoring
import Crosscheck.Proofs.Search.Captures
import Crosscheck.Proofs.Generate.Readability
import Crosscheck.Proofs.Run.Wrapping
import Crosscheck.Proofs.Generate.Lookahead
import Crosscheck.Proofs.Search.Checked.Lockstep
import Crosscheck.Proofs.Search.Counted
import Crosscheck.Proofs.Generate.Bounds
import Crosscheck.Proofs.Search.Marking
import Crosscheck.Proofs.Search.Termination
import Crosscheck.Proofs.Search.Inserting
import Crosscheck.Proofs.Look
