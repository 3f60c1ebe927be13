import MathGrammar.Document.Segment
import MathGrammar.Text.Lines

/-! # Excerpts

A document holds formulas after marker lines. Each formula is an excerpt: the lines from the one
after its marker up to the next blank line, joined into one text. -/

namespace MathGrammar

/-- Lines of a document, joined. -/
structure Excerpt where
  /-- The joined lines. -/
  content : Text
  /-- Where each line starts in the joined text. -/
  segments : List Segment
  /-- There is at least one line. -/
  nonempty : segments ≠ []
deriving DecidableEq

namespace Excerpt

/-- The excerpt that consists of the given lines, the first of them line `line`. -/
def ofLines (line : Nat) (first : Text) (rest : List Text) : Excerpt where
  content := (first :: rest).flatten
  segments := Segment.ofLines line 0 (first :: rest)
  nonempty := Segment.ofLines_cons_ne_nil line 0 first rest

/-- The number of the first line. -/
def startLine (excerpt : Excerpt) : Int := (excerpt.segments.head excerpt.nonempty).line

/-- The place in the document of an offset of the content. -/
def locate (excerpt : Excerpt) (position : Int) : Place :=
  let holder := excerpt.segments.get
    ⟨Segment.index excerpt.segments position, Segment.index_lt _ position excerpt.nonempty⟩
  holder.place position

/-- Every position lies in some segment, since an excerpt has one at least. -/
theorem locate?_segments (excerpt : Excerpt) (position : Int) :
    Segment.locate? excerpt.segments position = some (excerpt.locate position) := by
  have h := Segment.index_lt excerpt.segments position excerpt.nonempty
  simp [Segment.locate?, locate, List.getElem?_eq_getElem h]

end Excerpt

/-! ### Extraction -/

/-- The text that starts a marker line unless another is chosen. -/
def defaultMarker : Text := ['.', '.', ' ', 'm', 'a', 't', 'h', ':', ':']

/-- Whether a line, blank ends apart, starts with the marker. -/
def opensExcerpt (marker line : Text) : Bool := marker.isPrefixOf line.trim

/-- The lines of an excerpt at the start of the given lines. -/
def excerptLines (lines : List Text) : List Text := lines.takeWhile fun line => !line.allBlank

/-- The excerpts in the given lines, the first of them line `line`. -/
def excerptsFrom (marker : Text) (line : Nat) : List Text → List Excerpt
  | [] => []
  | first :: rest =>
    if opensExcerpt marker first then
      let run := excerptLines rest
      let others := excerptsFrom marker (line + 1 + run.length) (rest.drop run.length)
      match run with
      | [] => others
      | text :: texts => .ofLines (line + 1) text texts :: others
    else
      excerptsFrom marker (line + 1) rest
termination_by lines => lines.length

/-- The excerpts of a document, in order. -/
def excerpts (marker document : Text) : List Excerpt := excerptsFrom marker 0 document.lines

end MathGrammar
