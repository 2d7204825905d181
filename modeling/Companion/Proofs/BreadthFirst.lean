import Companion.Proofs.Worklist
import Mathlib.Order.Lattice.Nat

/-!
# The Order of an Exploration

An exploration visits nodes in the order in which they leave its queue, and nodes join the queue
behind all others. So it comes to near nodes before it comes to far ones. A node may wait in the
queue several times, on account of ways of different lengths, and is dropped when it leaves the
queue again; the length that counts is that of its first way.

The proof lets each node wait with the length of its way as its note. Notes have no influence on
what is visited, so it is enough to follow an exploration with these notes. At every point the notes
ascend, from the first node visited to the last one queued, and those in the queue differ by one at
most.

## Main results

* `distance`: the length of a shortest way.
* `Measured.after_step`: what a step does to the lengths of ways.
* `isBreadthFirst_of_queue_eq_nil`: what an exploration has visited once its queue is empty, in
  which order.
-/

namespace Companion.Worklist

variable {α β γ : Type}

/-! ### Distances -/

/-- What a start leads to in a number of steps. -/
inductive StepsTo (R : α → α → Prop) (start : α) : ℕ → α → Prop
  | refl : StepsTo R start 0 start
  | tail {n : ℕ} {a b : α} : StepsTo R start n a → R a b → StepsTo R start (n + 1) b

/-- The number of steps on a shortest way from a start to what it reaches. -/
noncomputable def distance (R : α → α → Prop) (start a : α) : ℕ :=
  sInf {n | StepsTo R start n a}

variable {R : α → α → Prop} {start : α}

/-- What is reached is reached in a number of steps. -/
theorem exists_stepsTo {a : α} (h : Relation.ReflTransGen R start a) :
    ∃ n, StepsTo R start n a := by
  induction h with
  | refl => exact ⟨0, .refl⟩
  | tail _ hstep ih =>
      obtain ⟨n, hn⟩ := ih
      exact ⟨n + 1, hn.tail hstep⟩

/-- The distance is the length of some way. -/
theorem stepsTo_distance {n : ℕ} {a : α} (h : StepsTo R start n a) :
    StepsTo R start (distance R start a) a := by
  have hleast : distance R start a ∈ {m | StepsTo R start m a} := Nat.sInf_mem ⟨n, h⟩
  exact hleast

/-- No way is shorter than the distance. -/
theorem distance_le {n : ℕ} {a : α} (h : StepsTo R start n a) :
    distance R start a ≤ n :=
  Nat.sInf_le h

/-- Only the start is at distance zero. -/
theorem eq_of_distance_eq_zero {a : α} (h : Relation.ReflTransGen R start a)
    (hzero : distance R start a = 0) : a = start := by
  obtain ⟨n, hn⟩ := exists_stepsTo h
  have hway := stepsTo_distance hn
  rw [hzero] at hway
  cases hway
  rfl

/-- A list of the nodes that a start reaches, each once, near ones before far ones. -/
structure IsBreadthFirst (R : α → α → Prop) (start : α) (nodes : List α) : Prop where
  /-- The start is the first node. -/
  head : nodes.head? = some start
  /-- No node is listed twice. -/
  nodup : nodes.Nodup
  /-- The nodes listed are those that the start reaches. -/
  mem_iff : ∀ a, a ∈ nodes ↔ Relation.ReflTransGen R start a
  /-- No node is listed before one that is nearer to the start. -/
  ordered : nodes.Pairwise fun a b => distance R start a ≤ distance R start b

/-! ### Notes have no influence -/

/-- Two explorations that have visited the same nodes, and have the same ones in their queues, with
whatever notes. -/
structure SameNodes (s : Progress α β) (t : Progress α γ) : Prop where
  visited : s.visitedNodes = t.visitedNodes
  queued : s.queuedNodes = t.queuedNodes

section Notes

variable [DecidableEq α] {successors : α → List α} {next : α → β → List (α × β)}
  {next' : α → γ → List (α × γ)}

/-- A step takes the same node off both queues, and visits it in both or in none. -/
theorem SameNodes.after_step (hnext : ∀ a b, (next a b).map (·.1) = successors a)
    (hnext' : ∀ a b, (next' a b).map (·.1) = successors a) {s : Progress α β}
    {t : Progress α γ} (h : SameNodes s t) : SameNodes (step next s) (step next' t) := by
  have hqueued := h.queued
  rcases hs : s.queue with _ | ⟨⟨node, note⟩, queue⟩ <;>
    rcases ht : t.queue with _ | ⟨⟨node', note'⟩, queue'⟩ <;>
    simp only [Progress.queuedNodes, hs, ht, List.map_nil, List.map_cons, reduceCtorEq,
      List.cons.injEq] at hqueued
  · rwa [step_of_queue_eq_nil hs, step_of_queue_eq_nil ht]
  · obtain ⟨rfl, hrest⟩ := hqueued
    by_cases hmet : node ∈ s.visitedNodes
    · rw [step_of_mem hs hmet, step_of_mem ht (h.visited ▸ hmet)]
      exact ⟨h.visited, hrest⟩
    · rw [step_of_not_mem hs hmet, step_of_not_mem ht (h.visited ▸ hmet)]
      constructor
      · exact congrArg (node :: ·) h.visited
      · simp only [Progress.queuedNodes, List.map_append, hrest, hnext, hnext']

theorem SameNodes.after_steps (hnext : ∀ a b, (next a b).map (·.1) = successors a)
    (hnext' : ∀ a b, (next' a b).map (·.1) = successors a) {s : Progress α β}
    {t : Progress α γ} (h : SameNodes s t) (n : ℕ) :
    SameNodes ((step next)^[n] s) ((step next')^[n] t) := by
  induction n generalizing s t with
  | zero => exact h
  | succ n ih =>
      rw [Function.iterate_succ_apply, Function.iterate_succ_apply]
      exact ih (h.after_step hnext hnext')

end Notes

/-! ### Notes that measure ways -/

section Lengths

variable (successors : α → List α)

/-- The successors of a node, each with the length of the way by the node. -/
def measured (node : α) (length : ℕ) : List (α × ℕ) :=
  (successors node).map (·, length + 1)

/-- The nodes behind a node are its successors, whatever their distance. -/
theorem map_fst_measured (node : α) (length : ℕ) :
    (measured successors node length).map (·.1) = successors node := by
  rw [measured, List.map_map]
  exact List.map_id _

variable {successors}

/-- The node has been met by a way of at most this length. -/
def MetWithin (s : Progress α ℕ) (a : α) (length : ℕ) : Prop :=
  ∃ n ≤ length, (a, n) ∈ s.visited ∨ (a, n) ∈ s.queue

/-- The order of the lengths of ways: they ascend, from the first node visited to the last one
queued, and those in the queue differ by one at most. -/
structure Ascending (s : Progress α ℕ) : Prop where
  visited : s.visited.Pairwise fun p q => q.2 ≤ p.2
  queued : s.queue.Pairwise fun p q => p.2 ≤ q.2
  visited_le_queued : ∀ p ∈ s.visited, ∀ q ∈ s.queue, p.2 ≤ q.2
  queued_le_succ : ∀ p ∈ s.queue, ∀ q ∈ s.queue, p.2 ≤ q.2 + 1

section Ascending

variable {visited queue new : List (α × ℕ)} {p : α × ℕ}

/-- The order is kept when the first node of the queue is dropped. -/
theorem Ascending.drop (h : Ascending ⟨visited, p :: queue⟩) : Ascending ⟨visited, queue⟩ where
  visited := h.visited
  queued := h.queued.of_cons
  visited_le_queued q hq r hr := h.visited_le_queued q hq r (List.mem_cons_of_mem p hr)
  queued_le_succ q hq r hr :=
    h.queued_le_succ q (List.mem_cons_of_mem p hq) r (List.mem_cons_of_mem p hr)

/-- The order is kept when the first node of the queue is visited, and ways by it join the queue
that are one step longer. -/
theorem Ascending.visit (h : Ascending ⟨visited, p :: queue⟩) (hnew : ∀ q ∈ new, q.2 = p.2 + 1) :
    Ascending ⟨p :: visited, queue ++ new⟩ := by
  have hvisited : ∀ q ∈ p :: visited, q.2 ≤ p.2 :=
    List.forall_mem_cons.2
      ⟨le_rfl, fun q hq => h.visited_le_queued q hq p List.mem_cons_self⟩
  have hqueued : ∀ q ∈ queue ++ new, p.2 ≤ q.2 ∧ q.2 ≤ p.2 + 1 := by
    intro q hq
    rcases List.mem_append.1 hq with hq | hq
    · exact ⟨List.rel_of_pairwise_cons h.queued hq,
        h.queued_le_succ q (List.mem_cons_of_mem p hq) p List.mem_cons_self⟩
    · rw [hnew q hq]
      exact ⟨Nat.le_succ _, le_rfl⟩
  constructor
  · exact List.pairwise_cons.2 ⟨(List.forall_mem_cons.1 hvisited).2, h.visited⟩
  · refine List.pairwise_append.2 ⟨h.queued.of_cons, ?_, fun q hq r hr => ?_⟩
    · refine List.pairwise_of_forall_mem_list fun q hq r hr => ?_
      rw [hnew q hq, hnew r hr]
    · rw [hnew r hr]
      exact (hqueued q (List.mem_append_left _ hq)).2
  · exact fun q hq r hr => (hvisited q hq).trans (hqueued r hr).1
  · intro q hq r hr
    have hle := (hqueued q hq).2
    have hge := (hqueued r hr).1
    omega

end Ascending

/-- What holds of the lengths of ways at every point of an exploration: they are lengths of ways,
in ascending order, and each successor of a visited node has been met by a way that is no longer
than the one by the node. -/
structure Measured (successors : α → List α) (start : α) (s : Progress α ℕ) : Prop where
  ascending : Ascending s
  way : ∀ a n, (a, n) ∈ s.visited ∨ (a, n) ∈ s.queue →
    StepsTo (fun a b => b ∈ successors a) start n a
  start_met : MetWithin s start 0
  closed : ∀ p ∈ s.visited, ∀ b ∈ successors p.1, MetWithin s b (p.2 + 1)

/-- A walk begins with its start, at distance zero. -/
theorem measured_begin (successors : α → List α) (start : α) :
    Measured successors start (begin start 0) where
  ascending :=
    { visited := List.Pairwise.nil
      queued := List.pairwise_singleton _ _
      visited_le_queued := fun p hp => absurd hp List.not_mem_nil
      queued_le_succ := fun p hp q _ => by
        obtain rfl := List.mem_singleton.1 hp
        exact Nat.zero_le _ }
  way a n h := by
    obtain ⟨rfl, rfl⟩ : a = start ∧ n = 0 := by simpa [begin] using h
    exact .refl
  start_met := ⟨0, le_rfl, .inr List.mem_cons_self⟩
  closed p hp := absurd hp List.not_mem_nil

/-- Once the queue is empty, whatever a way leads to has been visited by one as short. -/
theorem Measured.visited_of_stepsTo {s : Progress α ℕ} (h : Measured successors start s)
    (hqueue : s.queue = []) {n : ℕ} {a : α}
    (hway : StepsTo (fun a b => b ∈ successors a) start n a) :
    ∃ m ≤ n, (a, m) ∈ s.visited := by
  have hmet : ∀ {b length}, MetWithin s b length → ∃ m ≤ length, (b, m) ∈ s.visited := by
    rintro b length ⟨m, hm, hin⟩
    refine ⟨m, hm, hin.resolve_right fun hqueued => ?_⟩
    rw [hqueue] at hqueued
    exact absurd hqueued List.not_mem_nil
  induction hway with
  | refl => exact hmet h.start_met
  | tail _ hstep ih =>
      obtain ⟨m, hm, hvisited⟩ := ih
      obtain ⟨k, hk, hin⟩ := hmet (h.closed _ hvisited _ hstep)
      exact ⟨k, hk.trans (Nat.succ_le_succ hm), hin⟩

/-- Once the queue is empty, each node visited has its distance as its note. -/
theorem Measured.note_eq_distance {s : Progress α ℕ} (h : Measured successors start s)
    (hnodup : s.visitedNodes.Nodup) (hqueue : s.queue = []) {a : α} {n : ℕ}
    (hin : (a, n) ∈ s.visited) : n = distance (fun a b => b ∈ successors a) start a := by
  have hway := h.way a n (.inl hin)
  refine le_antisymm ?_ (distance_le hway)
  obtain ⟨m, hm, hvisited⟩ := h.visited_of_stepsTo hqueue (stepsTo_distance hway)
  have hsame : (a, m) = (a, n) := List.inj_on_of_nodup_map hnodup hvisited hin rfl
  obtain rfl : m = n := congrArg Prod.snd hsame
  exact hm

variable [DecidableEq α]

/-- What has been met by a way stays met by one as short: a node is dropped from the queue only if
it was visited before, by a way no longer. -/
theorem Measured.metWithin_step {s : Progress α ℕ} (h : Measured successors start s) {a : α}
    {length : ℕ} (hmet : MetWithin s a length) :
    MetWithin (step (measured successors) s) a length := by
  obtain ⟨visited, _ | ⟨⟨node, note⟩, queue⟩⟩ := s
  · rwa [step_of_queue_eq_nil rfl]
  · obtain ⟨n, hn, hin⟩ := hmet
    by_cases hold : node ∈ Progress.visitedNodes ⟨visited, (node, note) :: queue⟩
    · rw [step_of_mem rfl hold]
      rcases hin with hin | hin
      · exact ⟨n, hn, .inl hin⟩
      · rcases List.mem_cons.1 hin with heq | hin
        · obtain ⟨rfl, rfl⟩ := Prod.mk.inj heq
          obtain ⟨⟨a, m⟩, hvisited, rfl⟩ := List.mem_map.1 hold
          have hle := h.ascending.visited_le_queued _ hvisited (a, n) List.mem_cons_self
          exact ⟨m, hle.trans hn, .inl hvisited⟩
        · exact ⟨n, hn, .inr hin⟩
    · rw [step_of_not_mem rfl hold]
      refine ⟨n, hn, ?_⟩
      rcases hin with hin | hin
      · exact .inl (List.mem_cons_of_mem _ hin)
      · rcases List.mem_cons.1 hin with heq | hin
        · exact .inl (heq ▸ List.mem_cons_self)
        · exact .inr (List.mem_append_left _ hin)

/-- **A step keeps the lengths of ways in order.** -/
theorem Measured.after_step {s : Progress α ℕ} (h : Measured successors start s) :
    Measured successors start (step (measured successors) s) := by
  have hstart := h.metWithin_step h.start_met
  have hclosed : ∀ p ∈ s.visited, ∀ b ∈ successors p.1,
      MetWithin (step (measured successors) s) b (p.2 + 1) :=
    fun p hp b hb => h.metWithin_step (h.closed p hp b hb)
  obtain ⟨visited, _ | ⟨⟨node, note⟩, queue⟩⟩ := s
  · rwa [step_of_queue_eq_nil rfl]
  · by_cases hold : node ∈ Progress.visitedNodes ⟨visited, (node, note) :: queue⟩
    · rw [step_of_mem rfl hold] at hstart hclosed ⊢
      refine ⟨h.ascending.drop, fun a n hin => h.way a n ?_, hstart, hclosed⟩
      exact hin.imp_right (List.mem_cons_of_mem _)
    · rw [step_of_not_mem rfl hold] at hstart hclosed ⊢
      have hnew : ∀ q ∈ measured successors node note,
          q.2 = note + 1 ∧ q.1 ∈ successors node := by
        intro q hq
        obtain ⟨b, hb, rfl⟩ := List.mem_map.1 hq
        exact ⟨rfl, hb⟩
      have hway := h.way node note (.inr List.mem_cons_self)
      refine ⟨h.ascending.visit fun q hq => (hnew q hq).1, ?_, hstart, ?_⟩
      · rintro a n (hin | hin)
        · rcases List.mem_cons.1 hin with heq | hin
          · obtain ⟨rfl, rfl⟩ := Prod.mk.inj heq
            exact hway
          · exact h.way a n (.inl hin)
        · rcases List.mem_append.1 hin with hin | hin
          · exact h.way a n (.inr (List.mem_cons_of_mem _ hin))
          · obtain ⟨rfl, hsuccessor⟩ := hnew _ hin
            exact hway.tail hsuccessor
      · intro p hp b hb
        rcases List.mem_cons.1 hp with rfl | hp
        · exact ⟨note + 1, le_rfl, .inr (List.mem_append_right _ (List.mem_map_of_mem hb))⟩
        · exact hclosed p hp b hb

/-- Any number of steps keeps the distances right. -/
theorem Measured.after_steps {s : Progress α ℕ} (h : Measured successors start s) (n : ℕ) :
    Measured successors start ((step (measured successors))^[n] s) := by
  induction n generalizing s with
  | zero => exact h
  | succ n ih =>
      rw [Function.iterate_succ_apply]
      exact ih h.after_step

/-- **Once its queue is empty, an exploration has visited breadth first** what its start
reaches. -/
theorem isBreadthFirst_of_queue_eq_nil {next : α → β → List (α × β)}
    (hnext : ∀ a b, (next a b).map (·.1) = successors a) (start : α) (note : β) {n : ℕ}
    (hqueue : ((step next)^[n] (begin start note)).queue = []) :
    IsBreadthFirst (fun a b => b ∈ successors a) start
      ((step next)^[n] (begin start note)).visitedNodes.reverse := by
  set s := (step (measured successors))^[n] (begin start 0) with hs
  have hsame : SameNodes ((step next)^[n] (begin start note)) s :=
    SameNodes.after_steps hnext (map_fst_measured successors) ⟨rfl, rfl⟩ n
  have hdone : s.queue = [] := by
    have hnone : s.queuedNodes = [] := by
      rw [← hsame.queued, Progress.queuedNodes, hqueue, List.map_nil]
    exact List.map_eq_nil_iff.1 hnone
  have hexplored : Explored successors start s :=
    (explored_begin successors start 0).after_steps (map_fst_measured successors) n
  have hmeasured : Measured successors start s := (measured_begin successors start).after_steps n
  rw [hsame.visited]
  have hmem : ∀ a, a ∈ s.visitedNodes.reverse ↔ Reaches successors start a := fun a => by
    rw [List.mem_reverse, hexplored.mem_visitedNodes_iff hdone]
  have hordered : s.visitedNodes.reverse.Pairwise fun a b =>
      distance (fun a b => b ∈ successors a) start a ≤
        distance (fun a b => b ∈ successors a) start b := by
    rw [List.pairwise_reverse, Progress.visitedNodes, List.pairwise_map]
    refine hmeasured.ascending.visited.imp_of_mem fun {p q} hp hq hle => ?_
    rwa [← hmeasured.note_eq_distance hexplored.nodup hdone hq,
      ← hmeasured.note_eq_distance hexplored.nodup hdone hp]
  refine ⟨?_, List.nodup_reverse.2 hexplored.nodup, hmem, hordered⟩
  -- the first node is no farther from the start than the start itself
  have hstart : start ∈ s.visitedNodes.reverse := (hmem start).2 .refl
  rcases hnodes : s.visitedNodes.reverse with _ | ⟨first, rest⟩
  · rw [hnodes] at hstart
    exact absurd hstart List.not_mem_nil
  · rw [hnodes] at hstart hordered hmem
    have hfirst : distance (fun a b => b ∈ successors a) start first ≤
        distance (fun a b => b ∈ successors a) start start := by
      rcases List.mem_cons.1 hstart with rfl | hin
      · exact le_rfl
      · exact List.rel_of_pairwise_cons hordered hin
    have hzero := hfirst.trans (distance_le .refl)
    rw [eq_of_distance_eq_zero ((hmem first).1 List.mem_cons_self) (Nat.le_zero.1 hzero)]
    rfl

end Lengths

end Companion.Worklist
