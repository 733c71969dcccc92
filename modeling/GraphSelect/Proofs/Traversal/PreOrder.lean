import GraphSelect.Proofs.Graph.Edits
import GraphSelect.Proofs.Traversal.Coverage
import GraphSelect.Proofs.Traversal.StackLoop

/-!
# Depth-first walks are pre-orders

The recursive walk visits a node and then, for its neighbors one after the other, goes on from each
that has not been visited by then. The walk along a path does the same: what remains to be visited
when it stands at the end of a path is what the recursion visits below the last node of the path,
then what it still visits below the node before, and so on to the origin. That the walk looks at the
links of a node from the first one again, each time it comes back, makes no difference, since the
neighbors it has been to are visited.
-/
namespace GraphSelect.DepthFirst

variable {g : Graph} {visited visited' path l : List NodeId} {top next n origin : NodeId}

def unvisited (g : Graph) (visited : List NodeId) : Nat :=
  (Finset.range g.size \ visited.toFinset).card

theorem unvisited_append_le (g : Graph) (l visited : List NodeId) :
    unvisited g (l ++ visited) ≤ unvisited g visited := by
  refine Finset.card_le_card (Finset.sdiff_subset_sdiff subset_rfl fun n hn => ?_)
  rw [List.mem_toFinset] at hn ⊢
  exact List.mem_append_right _ hn

theorem unvisited_cons_lt (hn : n < g.size) (hnew : n ∉ visited) :
    unvisited g (n :: visited) < unvisited g visited := by
  refine Finset.card_lt_card (Finset.ssubset_iff_of_subset ?_ |>.2 ⟨n, ?_, ?_⟩)
  · exact Finset.sdiff_subset_sdiff subset_rfl (by simp)
  · simp [hn, hnew]
  · simp

/-- What is visited from some nodes, one after the other, when `visited` has been visited before:
for each node that has not been visited by then the node itself, and what is visited from its
neighbors. -/
def preorder (g : Graph) (visited : List NodeId) : (pending : List NodeId) → List NodeId
  | [] => []
  | n :: rest =>
    if visited.contains n then preorder g visited rest
    else
      let subtree := n :: preorder g (n :: visited) (g.neighbors n)
      subtree ++ preorder g (subtree ++ visited) rest
termination_by pending => (unvisited g visited, pending.length)
decreasing_by
  · exact Prod.Lex.right _ (by simp)
  · next hnew =>
    cases hlinks : g.neighbors n with
    | nil => exact Prod.Lex.right' _ (unvisited_append_le g [n] visited) (by simp)
    | cons m more =>
      have hn : n < g.size := Graph.lt_size_of_mem_neighbors (hlinks ▸ List.mem_cons_self)
      exact Prod.Lex.left _ _ (unvisited_cons_lt hn (by simpa using hnew))
  · exact Prod.Lex.right' _ (unvisited_append_le g _ visited) (by simp)

theorem preorder_cons_of_mem {rest : List NodeId} (h : n ∈ visited) :
    preorder g visited (n :: rest) = preorder g visited rest := by
  rw [preorder, if_pos (by simpa using h)]

theorem preorder_cons_of_notMem {rest : List NodeId} (h : n ∉ visited) :
    preorder g visited (n :: rest) =
      (n :: preorder g (n :: visited) (g.neighbors n)) ++
        preorder g ((n :: preorder g (n :: visited) (g.neighbors n)) ++ visited) rest := by
  rw [preorder, if_neg (by simpa using h)]

theorem preorder_append_of_subset (h : ∀ n ∈ l, n ∈ visited) (rest : List NodeId) :
    preorder g visited (l ++ rest) = preorder g visited rest := by
  induction l with
  | nil => rfl
  | cons a l ih =>
    rw [List.cons_append, preorder_cons_of_mem (h a List.mem_cons_self)]
    exact ih fun n hn => h n (List.mem_cons_of_mem _ hn)

theorem preorder_of_subset (h : ∀ n ∈ l, n ∈ visited) : preorder g visited l = [] := by
  have happend := preorder_append_of_subset (g := g) h []
  rwa [List.append_nil, preorder] at happend

/-- Which nodes have been visited matters, and not in which order. -/
theorem preorder_congr (h : ∀ n, n ∈ visited ↔ n ∈ visited') (pending : List NodeId) :
    preorder g visited pending = preorder g visited' pending := by
  induction visited, pending using preorder.induct g generalizing visited'
  case case1 visited => rw [preorder, preorder]
  case case2 visited n rest hn ih =>
    rw [List.contains_iff_mem] at hn
    rw [preorder_cons_of_mem hn, preorder_cons_of_mem ((h n).1 hn), ih h]
  case case3 visited n rest hn subtree ihbelow ihrest =>
    rw [List.contains_iff_mem] at hn
    have hbelow : preorder g (n :: visited) (g.neighbors n) =
        preorder g (n :: visited') (g.neighbors n) := ihbelow fun m => by simp [h m]
    rw [preorder_cons_of_notMem hn, preorder_cons_of_notMem (mt (h n).2 hn), ← hbelow]
    congr 1
    exact ihrest fun m => by simp [subtree, h m]

/-- What the recursive walk visits from the neighbors of the nodes of a path, the last node of the
path first. -/
def unwind (g : Graph) (visited : List NodeId) : (path : List NodeId) → List NodeId
  | [] => []
  | top :: below =>
    preorder g visited (g.neighbors top) ++
      unwind g (preorder g visited (g.neighbors top) ++ visited) below

theorem unwind_congr (h : ∀ n, n ∈ visited ↔ n ∈ visited') (path : List NodeId) :
    unwind g visited path = unwind g visited' path := by
  induction path generalizing visited visited' with
  | nil => rfl
  | cons top below ih =>
    rw [unwind, unwind, preorder_congr h]
    congr 1
    exact ih fun n => by simp [h n]

theorem unwind_of_find?_eq_none (h : (g.neighbors top).find? (!visited.contains ·) = none)
    (below : List NodeId) : unwind g visited (top :: below) = unwind g visited below := by
  have hall : ∀ n ∈ g.neighbors top, n ∈ visited := by simpa using h
  rw [unwind, preorder_of_subset hall]
  rfl

/-- Otherwise the walk goes on from the first neighbor that has not been visited. -/
theorem unwind_of_find?_eq_some (h : (g.neighbors top).find? (!visited.contains ·) = some next)
    (below : List NodeId) :
    unwind g visited (top :: below) =
      next :: unwind g (next :: visited) (next :: top :: below) := by
  obtain ⟨hnext, before, after, hlinks, hbefore⟩ := List.find?_eq_some_iff_append.1 h
  have hnext : next ∉ visited := by simpa using hnext
  have hbefore : ∀ n ∈ before, n ∈ visited := by simpa using hbefore
  set inner := preorder g (next :: visited) (g.neighbors next) with hinner
  -- Below `top` the recursion passes over the neighbors before `next`, and then enters it.
  have houter : preorder g visited (g.neighbors top) =
      next :: inner ++ preorder g (next :: inner ++ visited) after := by
    rw [hlinks, preorder_append_of_subset hbefore, preorder_cons_of_notMem hnext, ← hinner]
  -- Back at `top`, it passes over those neighbors and over `next`.
  have hagain : preorder g (inner ++ next :: visited) (g.neighbors top) =
      preorder g (next :: inner ++ visited) after := by
    have hseen : ∀ n ∈ before ++ [next], n ∈ inner ++ next :: visited := by
      intro n hn
      rcases List.mem_append.1 hn with hn | hn
      · simp [hbefore n hn]
      · simp [List.mem_singleton.1 hn]
    rw [hlinks, List.append_cons before, preorder_append_of_subset hseen]
    exact preorder_congr (fun n => by simp [or_left_comm]) after
  rw [unwind, unwind, ← hinner, unwind, hagain, houter]
  simp only [List.cons_append, List.append_assoc]
  congr 3
  exact unwind_congr (fun n => by simp [or_left_comm]) below

/-- Without a limit a walk visits what the recursive walk still visits from its path. -/
theorem order_follow (g : Graph) (entered path : List NodeId) (edges : Nat) :
    (follow g none entered path edges).order = entered.reverse ++ unwind g entered path := by
  induction entered, path, edges using follow.induct g none with
  | case1 entered edges =>
    rw [follow, unwind, List.append_nil]
  | case2 entered edges top below hnext ih =>
    rw [follow, hnext, unwind_of_find?_eq_none hnext]
    exact ih
  | case3 entered edges top below next hnext hlimit => cases hlimit
  | case4 entered edges top below next hnext more hlimit ih =>
    rw [follow, hnext, unwind_of_find?_eq_some hnext]
    simp only [if_neg hlimit]
    rw [ih, List.reverse_cons, List.append_assoc, List.singleton_append]

theorem truncated_follow (g : Graph) (entered path : List NodeId) (edges : Nat) :
    (follow g none entered path edges).truncated = false := by
  induction entered, path, edges using follow.induct g none with
  | case1 entered edges => rw [follow]
  | case2 entered edges top below hnext ih =>
    rw [follow, hnext]
    exact ih
  | case3 entered edges top below next hnext hlimit => cases hlimit
  | case4 entered edges top below next hnext more hlimit ih =>
    rw [follow, hnext]
    simp only [if_neg hlimit]
    exact ih

theorem order_walk (g : Graph) (origin : NodeId) :
    (walk g none origin).order = preorder g [] [origin] := by
  have hfollow : (walk g none origin).order = origin :: unwind g [origin] [origin] :=
    order_follow g [origin] [origin] 0
  rw [hfollow, preorder_cons_of_notMem List.not_mem_nil, unwind, unwind, preorder, List.cons_append]

/-- The walk without a limit finds the accepted nodes of the recursive walk in their order, each
once; it visits as many nodes as can be reached, and is not cut short. The loop over a stack comes to
an end, and ends so in every course. -/
theorem found_walk_eq_preorder (g : Graph) (origin : NodeId) (accept : NodeId → Bool) :
    (walk g none origin).found accept = (preorder g [] [origin]).filter accept ∧
      ((walk g none origin).found accept).Nodup ∧
      (walk g none origin).visited = (g.reachable origin).card ∧
      (walk g none origin).truncated = false ∧
      ∃ t, Loop.Runs g none accept (.start origin) t ∧
        (∀ t', Loop.Runs g none accept (.start origin) t' → t' = t) ∧
        t.found = (preorder g [] [origin]).filter accept ∧
        t.visited = (g.reachable origin).card ∧ t.truncated = false := by
  have hfound : (walk g none origin).found accept = (preorder g [] [origin]).filter accept := by
    rw [Walk.found, order_walk]
  have hvisited : (walk g none origin).visited = (g.reachable origin).card :=
    Strategy.visited_walk .depthFirst g origin
  have htruncated : (walk g none origin).truncated = false := truncated_follow g _ _ _
  obtain ⟨t, hruns, hreports⟩ := Loop.exists_runs g none accept origin
  refine ⟨hfound, (nodup_walk g none origin).filter accept, hvisited, htruncated, t, hruns,
    fun t' ht' => hruns.unique ht', ?_, ?_, ?_⟩
  · rw [hreports.found, hfound]
  · rw [hreports.visited, hvisited]
  · rw [hreports.truncated, htruncated]

end GraphSelect.DepthFirst
