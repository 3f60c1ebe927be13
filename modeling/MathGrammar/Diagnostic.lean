import MathGrammar.Document.Verdict
import MathGrammar.Fault.Message

/-! # Diagnostics

What an editor is told about a document: each excerpt that fails, at the place where it does. -/

namespace MathGrammar

/-- A problem in a document. -/
structure Diagnostic where
  /-- Where the problem starts. -/
  start : Place
  /-- Where it ends. -/
  stop : Place
  /-- What it is. -/
  message : String
deriving DecidableEq, Repr

namespace Diagnostic

/-- The severity of every diagnostic, which is that of an error. -/
def severity : Nat := 1

/-- The name under which diagnostics are published. -/
def source : String := "species"

/-- A problem with one character of an excerpt. -/
def ofOffset (excerpt : Excerpt) (offset : Nat) (message : String) : Diagnostic :=
  let place := excerpt.locate offset
  ⟨place, { place with column := place.column + 1 }, message⟩

/-- The problem with an excerpt, if it has one. -/
def ofExcerpt? (excerpt : Excerpt) : Option Diagnostic :=
  match excerpt.verdict with
  | .passed _ => none
  | .faulty fault =>
    some (ofOffset excerpt fault.offset ("Parse Error: " ++ fault.message excerpt.content))
  | .unparsed offset _ =>
    some (ofOffset excerpt offset "Parse Error: unparsed text after \\end")

end Diagnostic

/-- The problems of a document, in order. -/
def diagnostics (marker document : Text) : List Diagnostic :=
  (excerpts marker document).filterMap Diagnostic.ofExcerpt?

end MathGrammar
