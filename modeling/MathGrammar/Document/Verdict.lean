import MathGrammar.Document.Excerpt
import MathGrammar.WholeText

/-! # Verdicts

An excerpt passes when it is one block and nothing else. -/

namespace MathGrammar

/-- What becomes of an excerpt. -/
inductive Verdict where
  /-- It is a block. -/
  | passed (block : MathBlock)
  /-- It does not start with a block. -/
  | faulty (fault : Fault)
  /-- It starts with a block, and `rest` follows from `offset` on. -/
  | unparsed (offset : Nat) (rest : Text)
deriving DecidableEq, Repr

/-- The verdict on the excerpt. -/
def Excerpt.verdict (excerpt : Excerpt) : Verdict :=
  match parseMathBlock excerpt.content with
  | .ok (block, []) => .passed block
  | .ok (_, rest) => .unparsed (excerpt.content.length - rest.length) rest
  | .error fault => .faulty fault

end MathGrammar
