import MathGrammar.Construct
import MathGrammar.Main
import MathGrammar.Session
import MathGrammar.Proofs.Simulation.Basic
import MathGrammar.Proofs.Simulation.Readers
import MathGrammar.Proofs.Locality
import MathGrammar.Proofs.Scan
import MathGrammar.Proofs.Reading
import MathGrammar.Proofs.Command.RoundTrip
import MathGrammar.Proofs.Consumption
import MathGrammar.Proofs.Extension
import MathGrammar.Proofs.Production.Concatenation
import MathGrammar.Proofs.Symbol.Readable
import MathGrammar.Proofs.Symbol.ReadBack
import MathGrammar.Proofs.Symbol.Cases
import MathGrammar.Proofs.Production.ReadBack
import MathGrammar.Proofs.Plain
import MathGrammar.Proofs.Symbol.Yields
import MathGrammar.Proofs.Production.RoundTrip
import MathGrammar.Proofs.Progress
import MathGrammar.Proofs.Rounds
import MathGrammar.Proofs.Document.Location
import MathGrammar.Proofs.Document.Diagnostics
import MathGrammar.Proofs.Utf8
import MathGrammar.Proofs.CommandLine.Findings
import MathGrammar.Proofs.CommandLine.Agreement
import MathGrammar.Proofs.Calls.Recorded
import MathGrammar.Proofs.Calls.Basic
import MathGrammar.Proofs.Calls.Readers
import MathGrammar.Proofs.Nesting
import MathGrammar.Proofs.Production.Commitment
import MathGrammar.Proofs.Symbol.WellFormed
import MathGrammar.Proofs.Production.WellFormed
import MathGrammar.Proofs.Document.Extraction
import MathGrammar.Proofs.Document.Independence
import MathGrammar.Proofs.Session
import MathGrammar.Proofs.CommandLine.FailFast
import MathGrammar.Proofs.Document.EditorLines
import MathGrammar.Proofs.Symbol.Names
import MathGrammar.Proofs.Symbol.Keys
import MathGrammar.Proofs.Production.DefinedSymbols
import MathGrammar.Proofs.Separators
import MathGrammar.Proofs.Command.Lists
import MathGrammar.Proofs.Symbol.Shown
import MathGrammar.Proofs.Production.Shown
import MathGrammar.Proofs.Skipping
import MathGrammar.Proofs.Remainders
import MathGrammar.Proofs.Command.Arguments
import MathGrammar.Proofs.Symbol.Classification
import MathGrammar.Proofs.Repetition
import MathGrammar.Proofs.Production.RecordAlone
import MathGrammar.Proofs.Document.LinearSearch
import MathGrammar.Proofs.Position
