import DefOut.Main
import DefOut.Proofs.Entries
import DefOut.Proofs.LastWrites
import DefOut.Proofs.KeywordsInNames
import DefOut.Proofs.Language
import DefOut.Proofs.ShownLine
import DefOut.Proofs.LineLookup
import DefOut.Proofs.Rejections
import DefOut.Proofs.Arrangement
import DefOut.Proofs.DeclaredNames
import DefOut.Proofs.Steps
import DefOut.Proofs.Schedules
import DefOut.Proofs.Courses
import DefOut.Proofs.Runs
import DefOut.Proofs.LostErrors
import DefOut.Proofs.InOrder
import DefOut.Proofs.Independence
import DefOut.Proofs.Cancellation
import DefOut.Proofs.Determinism
import DefOut.Proofs.Prediction
import DefOut.Proofs.Emission
import DefOut.Proofs.Printing
import DefOut.Proofs.Progress
import DefOut.Proofs.FileTree
import DefOut.Proofs.Artifacts
import DefOut.Proofs.CleanPaths
import DefOut.Proofs.Walking
import DefOut.Proofs.Discovery
import DefOut.Proofs.Loading
import DefOut.Proofs.LocalValues
import DefOut.Proofs.CommandLine
import DefOut.Proofs.ExitCode
import DefOut.Proofs.Report
import DefOut.Proofs.Histories
import DefOut.Proofs.RoundTrip
import DefOut.Proofs.Generation
import DefOut.Proofs.Decoding
