import MathGrammar.Production.Basic

/-! # Syntax trees

Trees in which any construct may stand where a symbol is expected, such as a tool might put
together piece by piece. What the readers give is a tree of a stricter type; each embeds here,
and is written the same way. -/

namespace MathGrammar

/-- A construct with constructs inside it. -/
inductive Node where
  /-- An argument of a command. -/
  | argument (argument : Argument)
  /-- A command. -/
  | command (command : Command)
  /-- A terminal. -/
  | terminal (terminal : Terminal)
  /-- A nonterminal. -/
  | nonterminal (nonterminal : Nonterminal)
  /-- A record, each key with its value. -/
  | record (fields : List (Node × Node))
  /-- A vector. -/
  | vector (element : Node)
  /-- A vector in brackets. -/
  | bracedVector (vector : Node)
  /-- An arrow. -/
  | arrow (source target : Node)
  /-- A union of cases. -/
  | union (cases : List (List Node))
  /-- A record as a right-hand side. -/
  | recordAlone (record : Node)
  /-- A production. -/
  | production (label : Text) (lhs : List Node) (rhs : Node)
  /-- A block of productions. -/
  | block (productions : List Node)

namespace Node

/-! ### Written form -/

mutual

/-- The tree as it is written. -/
def render : Node → Text
  | .argument a => a.render
  | .command c => c.render
  | .terminal t => t.render
  | .nonterminal n => n.render
  | .record fields => Written.record (renderFields fields)
  | .vector element => Written.vector element.render
  | .bracedVector inner => Written.bracedVector inner.render
  | .arrow source target => Written.arrow source.render target.render
  | .union cases => Written.union (renderCases cases)
  | .recordAlone inner => inner.render
  | .production label lhs rhs => Written.production label (renderAll lhs) rhs.render
  | .block productions => Written.block (renderAll productions)

/-- Each tree as it is written. -/
def renderAll : List Node → List Text
  | [] => []
  | node :: nodes => node.render :: renderAll nodes

/-- Each case as it is written. -/
def renderCases : List (List Node) → List (List Text)
  | [] => []
  | nodes :: cases => renderAll nodes :: renderCases cases

/-- Each field as it is written. -/
def renderFields : List (Node × Node) → List (Text × Text)
  | [] => []
  | (key, value) :: fields => (key.render, value.render) :: renderFields fields

end

/-! ### Equality -/

mutual

/-- Whether two trees are the same: the same constructs with the same parts in the same order. -/
def same : Node → Node → Bool
  | .argument a, .argument b => a = b
  | .command c, .command d => c = d
  | .terminal t, .terminal u => t = u
  | .nonterminal n, .nonterminal m => n = m
  | .record fields, .record others => sameFields fields others
  | .vector element, .vector other => same element other
  | .bracedVector inner, .bracedVector other => same inner other
  | .arrow source target, .arrow source' target' => same source source' && same target target'
  | .union cases, .union others => sameCases cases others
  | .recordAlone inner, .recordAlone other => same inner other
  | .production label lhs rhs, .production label' lhs' rhs' =>
    label = label' && sameAll lhs lhs' && same rhs rhs'
  | .block productions, .block others => sameAll productions others
  | _, _ => false

/-- Whether two sequences hold the same trees. -/
def sameAll : List Node → List Node → Bool
  | [], [] => true
  | node :: nodes, other :: others => same node other && sameAll nodes others
  | _, _ => false

/-- Whether two unions hold the same cases. -/
def sameCases : List (List Node) → List (List Node) → Bool
  | [], [] => true
  | nodes :: cases, others :: cases' => sameAll nodes others && sameCases cases cases'
  | _, _ => false

/-- Whether two records hold the same fields. -/
def sameFields : List (Node × Node) → List (Node × Node) → Bool
  | [], [] => true
  | (key, value) :: fields, (key', value') :: fields' =>
    same key key' && same value value' && sameFields fields fields'
  | _, _ => false

end

mutual

/-- Trees are told to be the same exactly when they are equal. -/
theorem same_iff : (a : Node) → ∀ b, same a b = true ↔ a = b
  | .argument _, b => by cases b <;> simp [same]
  | .command _, b => by cases b <;> simp [same]
  | .terminal _, b => by cases b <;> simp [same]
  | .nonterminal _, b => by cases b <;> simp [same]
  | .record fields, b => by cases b <;> simp [same, sameFields_iff fields]
  | .vector element, b => by cases b <;> simp [same, same_iff element]
  | .bracedVector inner, b => by cases b <;> simp [same, same_iff inner]
  | .arrow source target, b => by cases b <;> simp [same, same_iff source, same_iff target]
  | .union cases, b => by cases b <;> simp [same, sameCases_iff cases]
  | .recordAlone inner, b => by cases b <;> simp [same, same_iff inner]
  | .production label lhs rhs, b => by
    cases b <;> simp [same, sameAll_iff lhs, same_iff rhs, and_assoc]
  | .block productions, b => by cases b <;> simp [same, sameAll_iff productions]

/-- Sequences of trees are told to be the same exactly when they are equal. -/
theorem sameAll_iff : (as : List Node) → ∀ bs, sameAll as bs = true ↔ as = bs
  | [], bs => by cases bs <;> simp [sameAll]
  | node :: nodes, bs => by cases bs <;> simp [sameAll, same_iff node, sameAll_iff nodes]

/-- Cases are told to be the same exactly when they are equal. -/
theorem sameCases_iff : (as : List (List Node)) → ∀ bs, sameCases as bs = true ↔ as = bs
  | [], bs => by cases bs <;> simp [sameCases]
  | nodes :: cases, bs => by
    cases bs <;> simp [sameCases, sameAll_iff nodes, sameCases_iff cases]

/-- Fields are told to be the same exactly when they are equal. -/
theorem sameFields_iff : (as : List (Node × Node)) → ∀ bs, sameFields as bs = true ↔ as = bs
  | [], bs => by cases bs <;> simp [sameFields]
  | (key, value) :: fields, bs => by
    rcases bs with _ | ⟨⟨key', value'⟩, fields'⟩ <;>
      simp [sameFields, same_iff key, same_iff value, sameFields_iff fields]

end

/-- Equality of trees is decided by comparing their parts. -/
instance : DecidableEq Node := fun a b => decidable_of_iff _ (same_iff a b)

end Node

/-! ### Embeddings -/

/-- The vector as a tree. -/
def Vector.toNode (vector : Vector) : Node := .vector (.nonterminal vector.element)

/-- The braced vector as a tree. -/
def BracedVector.toNode (braced : BracedVector) : Node := .bracedVector braced.vector.toNode

/-- The arrow as a tree. -/
def Arrow.toNode (arrow : Arrow) : Node :=
  .arrow (.nonterminal arrow.source) (.nonterminal arrow.target)

/-- The value of a field as a tree. -/
def FieldValue.toNode : FieldValue → Node
  | .vector v => v.toNode
  | .nonterminal n => .nonterminal n

/-- The record as a tree. -/
def Record.toNode (record : Record) : Node :=
  .record (record.fields.map fun (key, value) => (.terminal key, value.toNode))

/-- The symbol as a tree. -/
def Symbol.toNode : Symbol → Node
  | .record r => r.toNode
  | .arrow a => a.toNode
  | .bracedVector b => b.toNode
  | .vector v => v.toNode
  | .nonterminal n => .nonterminal n
  | .terminal t => .terminal t

/-- The right-hand side as a tree. -/
def RightHandSide.toNode : RightHandSide → Node
  | .union cases => .union (cases.map fun symbols => symbols.map Symbol.toNode)
  | .record r => .recordAlone r.toNode

/-- The production as a tree. -/
def Production.toNode (production : Production) : Node :=
  .production production.label (production.lhs.map .nonterminal) production.rhs.toNode

/-- The block as a tree. -/
def MathBlock.toNode (block : MathBlock) : Node :=
  .block (block.productions.map Production.toNode)

end MathGrammar
