import Questionnaire.Document.Node
import Questionnaire.Form.Error
import Questionnaire.Number.Integer

/-!
# Numbering the Nodes

Every node of a document has a number. The nodes that a node holds are numbered
from a thousand times its number, plus one; so the number shows the path to a
node, as long as no node holds a thousand others. Numbers have to fit into 64
bits, which limits how deep nodes can be nested.

## Main definitions

* `idFactor`: The factor from the number of a node to those below it.
* `Node.number`, `Node.numberAll`: Nodes with their numbers.
-/

namespace Questionnaire

/-- The factor from the number of a node to the numbers of the nodes it holds. -/
def idFactor : Nat :=
  1000

namespace NodeInfo

/-- The same with a number and the number of the predecessor. -/
def numbered (i : NodeInfo) (id parent : Nat) : NodeInfo :=
  { i with id, parent }

end NodeInfo

namespace Node

mutual

/-- A node with a number and the number of its predecessor, and with the nodes below
    it numbered. -/
def number (id parent : Nat) : Node → Except ConversionError Node
  | field i f => .ok (field (i.numbered id parent) f)
  | group i kind readonly ns => do
    let ns ← numberFrom (id * idFactor + 1) id ns
    return group (i.numbered id parent) kind readonly ns

/-- Siblings numbered from a number on. The first has the predecessor `parent`. -/
def numberFrom (id parent : Nat) : List Node → Except ConversionError (List Node)
  | [] => .ok []
  | n :: ns =>
    if id < Number.wordBound then do
      let n ← number id parent n
      let ns ← numberFrom (id + 1) id ns
      return n :: ns
    else .error (.nesting n.line (.nestedTooDeeply n.name))

end

/-- The nodes below the node of a number, numbered. -/
def numberAll (parent : Nat) (nodes : List Node) : Except ConversionError (List Node) :=
  numberFrom (parent * idFactor + 1) parent nodes

end Node

end Questionnaire
