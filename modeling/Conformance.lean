import Conformance.Main
import Conformance.Proofs.Coloring
import Conformance.Proofs.CompileErrors
import Conformance.Proofs.Concatenating
import Conformance.Proofs.CuttingShort
import Conformance.Proofs.Deadlines
import Conformance.Proofs.Deciding
import Conformance.Proofs.DecodedLines
import Conformance.Proofs.DecodedText
import Conformance.Proofs.FailureBlocks
import Conformance.Proofs.FinalNewline
import Conformance.Proofs.FirstHalt
import Conformance.Proofs.NamedLines
import Conformance.Proofs.Newlines
import Conformance.Proofs.Passing
import Conformance.Proofs.Positions
import Conformance.Proofs.Reconstructing
import Conformance.Proofs.Screens
import Conformance.Proofs.SkipSummaries
import Conformance.Proofs.TestFiles
import Conformance.Proofs.WellFormed
import Conformance.Proofs.WrittenArguments
