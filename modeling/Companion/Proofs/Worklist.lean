import Companion.Worklist
import Mathlib.Algebra.BigOperators.Group.Finset.Basic
import Mathlib.Data.Set.Finite.Basic
import Mathlib.Logic.Relation

/-!
# Explorations and Reachability

An exploration takes one node off its queue in every step. It is over when the queue is empty, and
then it has visited exactly what can be reached from its start. So the question whether it ends is
a question about the graph: it does if only finitely many nodes can be reached.

The number of steps is known in advance. A step shortens the queue by one node, or visits a node
and lengthens the queue by its successors, so the queue and the successors of all nodes not yet
visited together lose one with each step. `room` counts them.

## Main results

* `exploreFrom_eq_iterate`: an exploration is its steps, one after the other.
* `queue_iterate_eq_nil`: the queue is empty when the room is used up.
* `Explored.mem_visitedNodes_iff`: what has been visited once the queue is empty.
* `ends_iff_finite`: an exploration ends exactly when its start reaches finitely many nodes.
* `queue_iterate_begin_eq_nil`: a count of steps that is enough.
* `mem_exploreFrom_iff`: with so many steps an exploration lists all it can reach.
* `reaches_of_mem_explore`: whatever is listed can be reached.
* `exploreFrom_congr`: graphs that agree where one of them can lead are explored alike.
-/

namespace Companion.Worklist

variable {α β : Type}

/-- What an exploration has visited, last first, and its queue, both with their notes. -/
structure Progress (α β : Type) where
  visited : List (α × β)
  queue : List (α × β)

namespace Progress

variable (s : Progress α β)

def visitedNodes : List α := s.visited.map (·.1)

def queuedNodes : List α := s.queue.map (·.1)

end Progress

/-- The beginning of an exploration. -/
def begin (start : α) (note : β) : Progress α β := ⟨[], [(start, note)]⟩

/-- What the edges of a graph lead to in any number of steps. -/
abbrev Reaches (successors : α → List α) : α → α → Prop :=
  Relation.ReflTransGen fun a b => b ∈ successors a

variable {successors : α → List α}

/-! ### What has been visited -/

/-- What holds at every point of an exploration: no node is visited twice, all nodes met can be
reached, and the successors of visited nodes have been met. -/
structure Explored (successors : α → List α) (start : α) (s : Progress α β) : Prop where
  nodup : s.visitedNodes.Nodup
  start_met : start ∈ s.visitedNodes ∨ start ∈ s.queuedNodes
  reached : ∀ a, a ∈ s.visitedNodes ∨ a ∈ s.queuedNodes → Reaches successors start a
  closed : ∀ a ∈ s.visitedNodes, ∀ b ∈ successors a, b ∈ s.visitedNodes ∨ b ∈ s.queuedNodes

theorem explored_begin (successors : α → List α) (start : α) (note : β) :
    Explored successors start (begin start note) where
  nodup := List.nodup_nil
  start_met := .inr (by simp [begin, Progress.queuedNodes])
  reached a ha := by
    obtain rfl : a = start := by
      simpa [begin, Progress.visitedNodes, Progress.queuedNodes] using ha
    exact .refl
  closed a ha := absurd ha List.not_mem_nil

/-- **Once the queue is empty**, the nodes visited are those that the start reaches. -/
theorem Explored.mem_visitedNodes_iff {start : α} {s : Progress α β}
    (h : Explored successors start s) (hqueue : s.queue = []) {a : α} :
    a ∈ s.visitedNodes ↔ Reaches successors start a := by
  have hnone : ∀ b, b ∉ s.queuedNodes := by simp [Progress.queuedNodes, hqueue]
  refine ⟨fun ha => h.reached a (.inl ha), fun ha => ?_⟩
  induction ha with
  | refl => exact h.start_met.resolve_right (hnone _)
  | tail _ hstep ih => exact (h.closed _ ih _ hstep).resolve_right (hnone _)

/-! ### Steps -/

variable [DecidableEq α]

/-- One step of an exploration: the first node of the queue is visited, unless it was before. -/
def step (next : α → β → List (α × β)) (s : Progress α β) : Progress α β :=
  match s.queue with
  | [] => s
  | (node, note) :: queue =>
    if s.visited.any (·.1 = node) then ⟨s.visited, queue⟩
    else ⟨(node, note) :: s.visited, queue ++ next node note⟩

/-- Whether an exploration comes to an end: its queue is empty after some number of steps. -/
def Ends (next : α → β → List (α × β)) (start : α) (note : β) : Prop :=
  ∃ n, ((step next)^[n] (begin start note)).queue = []

variable {next : α → β → List (α × β)}

/-- Nothing happens once the queue is empty. -/
theorem step_of_queue_eq_nil {s : Progress α β} (h : s.queue = []) : step next s = s := by
  simp only [step, h]

/-- An empty queue stays empty. -/
theorem iterate_step_of_queue_eq_nil {s : Progress α β} (h : s.queue = []) (n : ℕ) :
    (step next)^[n] s = s :=
  Function.iterate_fixed (step_of_queue_eq_nil h) n

/-- A node met before is dropped. -/
theorem step_of_mem {s : Progress α β} {node : α} {note : β} {queue : List (α × β)}
    (hqueue : s.queue = (node, note) :: queue) (h : node ∈ s.visitedNodes) :
    step next s = ⟨s.visited, queue⟩ := by
  have hmet : s.visited.any (·.1 = node) = true := by
    simpa [Progress.visitedNodes] using h
  simp only [step, hqueue, hmet, if_true]

/-- A node met for the first time is visited, and its successors wait behind the others. -/
theorem step_of_not_mem {s : Progress α β} {node : α} {note : β} {queue : List (α × β)}
    (hqueue : s.queue = (node, note) :: queue) (h : node ∉ s.visitedNodes) :
    step next s = ⟨(node, note) :: s.visited, queue ++ next node note⟩ := by
  have hnew : s.visited.any (·.1 = node) = false := by
    rw [← Bool.not_eq_true]
    simpa [Progress.visitedNodes] using h
  simp only [step, hqueue, hnew, Bool.false_eq_true, if_false]

/-- **An exploration is its steps**, one after the other. -/
theorem exploreFrom_eq_iterate (n : ℕ) (s : Progress α β) :
    exploreFrom next n s.visited s.queue = ((step next)^[n] s).visited.reverse := by
  induction n generalizing s with
  | zero => simp only [exploreFrom, Function.iterate_zero, id_eq]
  | succ n ih =>
      rw [Function.iterate_succ_apply, ← ih]
      rcases hqueue : s.queue with _ | ⟨⟨node, note⟩, queue⟩
      · rw [step_of_queue_eq_nil hqueue, hqueue]
        cases n <;> simp only [exploreFrom]
      · simp only [exploreFrom, step, hqueue]
        split <;> rfl

/-! ### How many steps there are -/

/-- An upper bound on the steps to come, given that all nodes to come are in `F`: the queue, and
the successors of the nodes that may still be visited. -/
def room (successors : α → List α) (F : Finset α) (s : Progress α β) : ℕ :=
  s.queue.length + ∑ a ∈ F.filter (· ∉ s.visitedNodes), (successors a).length

/-- A step takes up room for one. -/
theorem room_step (hnext : ∀ a b, (next a b).map (·.1) = successors a) {F : Finset α}
    {s : Progress α β} {node : α} {note : β} {queue : List (α × β)}
    (hqueue : s.queue = (node, note) :: queue) (hnode : node ∈ F) :
    room successors F (step next s) + 1 = room successors F s := by
  by_cases hmet : node ∈ s.visitedNodes
  · rw [step_of_mem hqueue hmet, room, room, hqueue, List.length_cons]
    exact Nat.add_right_comm ..
  · have hlength : (next node note).length = (successors node).length := by
      rw [← hnext node note, List.length_map]
    have hrest : F.filter (· ∉ node :: s.visitedNodes) =
        (F.filter (· ∉ s.visitedNodes)).erase node := by
      ext a
      simp only [Finset.mem_filter, List.mem_cons, not_or, Finset.mem_erase]
      tauto
    have hsum := Finset.sum_erase_add (F.filter (· ∉ s.visitedNodes))
      (fun a => (successors a).length) (Finset.mem_filter.2 ⟨hnode, hmet⟩)
    have hvisited : Progress.visitedNodes
        ⟨(node, note) :: s.visited, queue ++ next node note⟩ = node :: s.visitedNodes := rfl
    rw [step_of_not_mem hqueue hmet, room, room, hvisited, hrest, hqueue, List.length_append,
      hlength, List.length_cons]
    omega

/-- The nodes that a step queues come from a set closed under successors. -/
theorem queuedNodes_step (hnext : ∀ a b, (next a b).map (·.1) = successors a) {P : α → Prop}
    (hclosed : ∀ a, P a → ∀ b ∈ successors a, P b) {s : Progress α β}
    (h : ∀ a ∈ s.queuedNodes, P a) : ∀ a ∈ (step next s).queuedNodes, P a := by
  rcases hqueue : s.queue with _ | ⟨⟨node, note⟩, queue⟩
  · rwa [step_of_queue_eq_nil hqueue]
  · rw [Progress.queuedNodes, hqueue, List.map_cons, List.forall_mem_cons] at h
    by_cases hmet : node ∈ s.visitedNodes
    · rw [step_of_mem hqueue hmet]
      exact h.2
    · rw [step_of_not_mem hqueue hmet, Progress.queuedNodes, List.map_append, hnext]
      intro a ha
      rcases List.mem_append.1 ha with ha | ha
      · exact h.2 a ha
      · exact hclosed node h.1 a ha

/-- **The queue is empty when the room is used up.** -/
theorem queue_iterate_eq_nil (hnext : ∀ a b, (next a b).map (·.1) = successors a) {F : Finset α}
    (hclosed : ∀ a ∈ F, ∀ b ∈ successors a, b ∈ F) (n : ℕ) :
    ∀ s : Progress α β, (∀ a ∈ s.queuedNodes, a ∈ F) → room successors F s ≤ n →
      ((step next)^[n] s).queue = [] := by
  induction n with
  | zero =>
      intro s _ hroom
      have hlength : s.queue.length = 0 := by
        rw [room] at hroom
        omega
      exact List.eq_nil_of_length_eq_zero hlength
  | succ n ih =>
      intro s hF hroom
      rcases hqueue : s.queue with _ | ⟨⟨node, note⟩, queue⟩
      · rw [iterate_step_of_queue_eq_nil hqueue, hqueue]
      · have hnode : node ∈ F := hF node (by simp [Progress.queuedNodes, hqueue])
        have hless := room_step hnext hqueue hnode
        rw [Function.iterate_succ_apply]
        exact ih _ (queuedNodes_step hnext hclosed hF) (by omega)

/-! ### What a step keeps -/

/-- A step keeps what was explored right. -/
theorem Explored.after_step (hnext : ∀ a b, (next a b).map (·.1) = successors a) {start : α}
    {s : Progress α β} (h : Explored successors start s) :
    Explored successors start (step next s) := by
  rcases hqueue : s.queue with _ | ⟨⟨node, note⟩, queue⟩
  · rwa [step_of_queue_eq_nil hqueue]
  · have hqueued : s.queuedNodes = node :: queue.map (·.1) := by
      rw [Progress.queuedNodes, hqueue, List.map_cons]
    by_cases hmet : node ∈ s.visitedNodes
    · -- what is lost from the queue has been visited
      have hkept : ∀ a, a ∈ s.visitedNodes ∨ a ∈ s.queuedNodes ↔
          a ∈ s.visitedNodes ∨ a ∈ queue.map (·.1) := by
        intro a
        rw [hqueued, List.mem_cons]
        refine ⟨?_, Or.imp_right .inr⟩
        rintro (ha | rfl | ha)
        · exact .inl ha
        · exact .inl hmet
        · exact .inr ha
      rw [step_of_mem hqueue hmet]
      exact ⟨h.nodup, (hkept _).1 h.start_met, fun a ha => h.reached a ((hkept a).2 ha),
        fun a ha b hb => (hkept b).1 (h.closed a ha b hb)⟩
    · have hreached : Reaches successors start node :=
        h.reached node (.inr (by rw [hqueued]; exact List.mem_cons_self))
      have hmoved : ∀ a, a ∈ s.visitedNodes ∨ a ∈ s.queuedNodes →
          a ∈ node :: s.visitedNodes ∨ a ∈ queue.map (·.1) ++ successors node := by
        intro a
        rw [hqueued]
        rintro (ha | ha)
        · exact .inl (List.mem_cons_of_mem _ ha)
        · rcases List.mem_cons.1 ha with rfl | ha
          · exact .inl List.mem_cons_self
          · exact .inr (List.mem_append_left _ ha)
      have hafter : (step next s).visitedNodes = node :: s.visitedNodes ∧
          (step next s).queuedNodes = queue.map (·.1) ++ successors node := by
        rw [step_of_not_mem hqueue hmet]
        exact ⟨rfl, by rw [Progress.queuedNodes, List.map_append, hnext]⟩
      constructor <;> rw [hafter.1]
      · exact List.nodup_cons.2 ⟨hmet, h.nodup⟩
      · rw [hafter.2]
        exact hmoved start h.start_met
      · rw [hafter.2]
        rintro a (ha | ha)
        · rcases List.mem_cons.1 ha with rfl | ha
          · exact hreached
          · exact h.reached a (.inl ha)
        · rcases List.mem_append.1 ha with ha | ha
          · exact h.reached a (.inr (by rw [hqueued]; exact List.mem_cons_of_mem _ ha))
          · exact hreached.tail ha
      · rw [hafter.2]
        intro a ha b hb
        rcases List.mem_cons.1 ha with rfl | ha
        · exact .inr (List.mem_append_right _ hb)
        · exact hmoved b (h.closed a ha b hb)

/-- So does any number of steps. -/
theorem Explored.after_steps (hnext : ∀ a b, (next a b).map (·.1) = successors a) {start : α}
    {s : Progress α β} (h : Explored successors start s) (n : ℕ) :
    Explored successors start ((step next)^[n] s) := by
  induction n generalizing s with
  | zero => exact h
  | succ n ih =>
      rw [Function.iterate_succ_apply]
      exact ih (h.after_step hnext)

/-! ### Whether an exploration ends -/

/-- **An exploration ends** exactly when its start reaches finitely many nodes. -/
theorem ends_iff_finite (hnext : ∀ a b, (next a b).map (·.1) = successors a) (start : α)
    (note : β) : Ends next start note ↔ {a | Reaches successors start a}.Finite := by
  constructor
  · rintro ⟨n, hn⟩
    have hdone := (explored_begin successors start note).after_steps hnext n
    refine (List.finite_toSet ((step next)^[n] (begin start note)).visitedNodes).subset ?_
    exact fun a ha => (hdone.mem_visitedNodes_iff hn).2 ha
  · intro hfinite
    refine ⟨_, queue_iterate_eq_nil hnext (F := hfinite.toFinset) ?_ _ _ ?_ le_rfl⟩
    · intro a ha b hb
      rw [Set.Finite.mem_toFinset] at ha ⊢
      exact Relation.ReflTransGen.tail ha hb
    · intro a ha
      rw [Set.Finite.mem_toFinset]
      exact (explored_begin successors start note).reached a (.inr ha)

/-- **A step for the start and one for each successor** of a node are enough for an exploration in a
finite set that the graph does not leave. -/
theorem queue_iterate_begin_eq_nil (hnext : ∀ a b, (next a b).map (·.1) = successors a)
    {F : Finset α} (hclosed : ∀ a ∈ F, ∀ b ∈ successors a, b ∈ F) {start : α} (hstart : start ∈ F)
    (note : β) {n : ℕ} (hn : ∑ a ∈ F, (successors a).length + 1 ≤ n) :
    ((step next)^[n] (begin start note)).queue = [] := by
  refine queue_iterate_eq_nil hnext hclosed n _ ?_ ?_
  · intro b hb
    obtain rfl : b = start := by simpa [begin, Progress.queuedNodes] using hb
    exact hstart
  · simp only [room, begin, Progress.visitedNodes, List.map_nil, List.not_mem_nil,
      not_false_eq_true, Finset.filter_true, List.length_singleton]
    omega

/-- **With so many steps** an exploration lists what its start reaches. -/
theorem mem_exploreFrom_iff (hnext : ∀ a b, (next a b).map (·.1) = successors a) {F : Finset α}
    (hclosed : ∀ a ∈ F, ∀ b ∈ successors a, b ∈ F) {start : α} (hstart : start ∈ F) (note : β)
    {n : ℕ} (hn : ∑ a ∈ F, (successors a).length + 1 ≤ n) {a : α} :
    a ∈ (exploreFrom next n [] [(start, note)]).map (·.1) ↔ Reaches successors start a := by
  have hqueue : ((step next)^[n] (begin start note)).queue = [] :=
    queue_iterate_begin_eq_nil hnext hclosed hstart note hn
  have hlisted : exploreFrom next n [] [(start, note)] =
      ((step next)^[n] (begin start note)).visited.reverse :=
    exploreFrom_eq_iterate n (begin start note)
  have hdone := (explored_begin successors start note).after_steps hnext n
  rw [← hdone.mem_visitedNodes_iff hqueue, hlisted, List.map_reverse, List.mem_reverse]
  rfl

/-- Whatever an exploration lists is reached by its start, also when it is cut short. -/
theorem reaches_of_mem_explore {start a : α} (h : a ∈ explore successors start) :
    Reaches successors start a := by
  have hnext : ∀ (b : α) (_ : Unit), ((successors b).map (·, ())).map (·.1) = successors b := by
    intro b _
    rw [List.map_map]
    exact List.map_id _
  have hdone := (explored_begin successors start ()).after_steps hnext stepLimit
  rw [explore, show [(start, ())] = (begin start ()).queue from rfl,
    show ([] : List (α × Unit)) = (begin start ()).visited from rfl, exploreFrom_eq_iterate,
    List.map_reverse, List.mem_reverse] at h
  exact hdone.reached a (.inl h)

/-! ### Two graphs -/

/-- **Graphs that agree on a set** of nodes which one of them does not leave are explored alike from
within the set. -/
theorem exploreFrom_congr {next' : α → β → List (α × β)} {P : α → Prop}
    (hclosed : ∀ a note, P a → ∀ b ∈ next a note, P b.1)
    (hnext : ∀ a note, P a → next' a note = next a note) (n : ℕ) :
    ∀ visited queue : List (α × β), (∀ a ∈ queue, P a.1) →
      exploreFrom next' n visited queue = exploreFrom next n visited queue := by
  induction n with
  | zero => intro visited queue _; simp only [exploreFrom]
  | succ n ih =>
      intro visited queue hqueue
      rcases queue with _ | ⟨⟨node, note⟩, queue⟩
      · simp only [exploreFrom]
      · obtain ⟨hnode, hrest⟩ := List.forall_mem_cons.1 hqueue
        have hqueued : ∀ a ∈ queue ++ next node note, P a.1 := by
          intro a ha
          rcases List.mem_append.1 ha with ha | ha
          · exact hrest a ha
          · exact hclosed node note hnode a ha
        simp only [exploreFrom]
        rw [hnext node note hnode, ih _ _ hrest, ih _ _ hqueued]

end Companion.Worklist
