import TypedExtraction.CommandLine.Run
import TypedExtraction.Extraction.Session
import TypedExtraction.Proofs.CommandLine.Extract
import TypedExtraction.Proofs.CommandLine.Search
import TypedExtraction.Proofs.Extraction.Account
import TypedExtraction.Proofs.Extraction.Continuation
import TypedExtraction.Proofs.Extraction.Format
import TypedExtraction.Proofs.Extraction.Session
import TypedExtraction.Main
import TypedExtraction.Repetition.Trace
import TypedExtraction.Proofs.Repetition.Trace
import TypedExtraction.Proofs.Text.Window
import TypedExtraction.Proofs.Repetition.AllMatches
import TypedExtraction.Proofs.Repetition.Unambiguous
import TypedExtraction.Proofs.Repetition.RoundTrip
import TypedExtraction.Proofs.Reader.Integers
import TypedExtraction.Proofs.Repetition.Anchored
import TypedExtraction.Proofs.Repetition.Rounds
import TypedExtraction.Proofs.Extraction.Exhausted
import TypedExtraction.Proofs.Extraction.Renaming
import TypedExtraction.Proofs.Text.Escaped
