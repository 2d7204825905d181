/-!
# Exploring a graph breadth first

An exploration visits what can be reached from a queue of nodes by a successor function. Each
node is visited once, in the order in which nodes leave the queue. A node waits in the queue
with a note that tells how it was reached, and the note of its first way is kept.

The graph may be infinite, so the count of steps is bounded; a step takes one node off the
queue.
-/

namespace Companion.Worklist

variable {α β : Type} [DecidableEq α]

/-- More steps than any exploration of a finite graph needs that fits in memory. -/
def stepLimit : Nat := 4294967296

/-- Visit the nodes of the queue and what they lead to; `visited` holds the nodes already
visited, last first. The result lists all visited nodes, first one first. -/
def exploreFrom (next : α → β → List (α × β)) :
    Nat → List (α × β) → List (α × β) → List (α × β)
  | 0, visited, _ => visited.reverse
  | _ + 1, visited, [] => visited.reverse
  | steps + 1, visited, (node, note) :: queue =>
    if visited.any (·.1 = node) then exploreFrom next steps visited queue
    else exploreFrom next steps ((node, note) :: visited) (queue ++ next node note)

/-- The nodes that can be reached from a node, itself first. -/
def explore (next : α → List α) (start : α) : List α :=
  (exploreFrom (fun node (_ : Unit) => (next node).map (·, ())) stepLimit [] [(start, ())]).map
    (·.1)

end Companion.Worklist
