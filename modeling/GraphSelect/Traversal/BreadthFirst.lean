import GraphSelect.Traversal.Walk

/-! # Breadth-first walks

The nodes wait in a queue. Visiting one puts those of its neighbors at the end of the queue that
have neither been visited nor are waiting, so the nodes come in the order of their distance from
the origin. -/
namespace GraphSelect.BreadthFirst

/-- The nodes of a list that are new, each once, in order. -/
def fresh (known : List NodeId) : List NodeId → List NodeId
  | [] => []
  | n :: rest => if known.contains n then fresh known rest else n :: fresh (n :: known) rest

theorem mem_fresh {known l : List NodeId} {n : NodeId} :
    n ∈ fresh known l ↔ n ∈ l ∧ n ∉ known := by
  induction l generalizing known with
  | nil => simp [fresh]
  | cons a l ih =>
    simp only [fresh]
    split
    · next h =>
      have h : a ∈ known := by simpa using h
      rw [ih, List.mem_cons]
      constructor
      · exact fun ⟨hl, hk⟩ => ⟨.inr hl, hk⟩
      · rintro ⟨rfl | hl, hk⟩
        · exact absurd h hk
        · exact ⟨hl, hk⟩
    · next h =>
      have h : a ∉ known := by simpa using h
      rw [List.mem_cons, ih, List.mem_cons, List.mem_cons]
      by_cases e : n = a
      · subst e; simp [h]
      · simp [e]

/-- Visits the queue. `done` holds the visited nodes, the last first. -/
def visit (g : Graph) (limit : Option Nat) (done queue : List NodeId) (edges : Nat) : Walk :=
  match queue with
  | [] => ⟨done.reverse, edges, false⟩
  | current :: rest =>
    if limitReached limit done.length then ⟨done.reverse, edges, true⟩
    else
      visit g limit (current :: done)
        (rest ++ fresh (current :: (done ++ rest)) (g.neighbors current))
        (edges + (g.neighbors current).length)
termination_by (g.unmet (done ++ queue), queue.length)
decreasing_by
  cases e : fresh (current :: (done ++ rest)) (g.neighbors current) with
  | nil =>
    have hu : g.unmet (current :: done ++ (rest ++ [])) = g.unmet (done ++ current :: rest) := by
      unfold Graph.unmet
      congr 2
      funext x
      simp [Bool.and_left_comm, ← Bool.and_assoc]
    rw [hu]
    exact Prod.Lex.right _ (by simp)
  | cons n more =>
    have hn : n ∈ fresh (current :: (done ++ rest)) (g.neighbors current) := e ▸ List.mem_cons_self
    obtain ⟨hl, hk⟩ := mem_fresh.1 hn
    refine Prod.Lex.left _ _ (Graph.unmet_lt ?_ (Graph.mem_targets_of_mem_neighbors hl) ?_ ?_)
    · intro x hx
      simp only [List.mem_append, List.mem_cons] at hx ⊢
      rcases hx with hx | rfl | hx <;> simp [*]
    · simpa [or_left_comm] using hk
    · simp

def walk (g : Graph) (limit : Option Nat) (origin : NodeId) : Walk := visit g limit [] [origin] 0

end GraphSelect.BreadthFirst
