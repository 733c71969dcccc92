import GraphSelect.Proofs.Graph.Ancestry
import GraphSelect.Proofs.Text.Digits

/-!
# Paths

A path is one text, and nothing in it tells names and places apart but slashes and brackets, which
may stand in names too. A name without a slash leaves the last slash of a path to its last step, and
the last bracket of a step opens its place, whatever the name looks like. So the text of a path is
read from its end: it gives the place among the siblings and the path of the parent, and going up
like this it leads to one node of the tree.
-/
namespace GraphSelect

open Text

/-- A text is cut at its last separator in one way. -/
theorem Text.append_cons_inj {α : Type} {x : α} {a b c d : List α} (hb : x ∉ b) (hd : x ∉ d) :
    a ++ x :: b = c ++ x :: d ↔ a = c ∧ b = d := by
  constructor
  · intro h
    rcases List.append_eq_append_iff.1 h with ⟨e, rfl, he⟩ | ⟨e, rfl, he⟩
    · cases e with
      | nil => simpa using he
      | cons y e =>
        obtain ⟨-, rfl⟩ := List.cons.inj he
        exact absurd (by simp) hb
    · cases e with
      | nil => simpa [eq_comm] using he
      | cons y e =>
        obtain ⟨-, rfl⟩ := List.cons.inj he
        exact absurd (by simp) hd
  · rintro ⟨rfl, rfl⟩
    rfl

namespace Graph

variable {g : Graph} {m n p q : NodeId} {i j : Nat} {name : String}

def pathStep (g : Graph) (id : NodeId) : List Char :=
  ((g.name id).getD "?").toList ++ (g.index id).elim [] fun i => '[' :: (Nat.toDigits 10 i ++ [']'])

theorem toList_pathSegment (g : Graph) (id : NodeId) :
    (g.pathSegment id).toList = '/' :: g.pathStep id := by
  unfold pathSegment pathStep
  cases g.index id <;> simp

theorem notMem_place (i : Nat) : '/' ∉ '[' :: (Nat.toDigits 10 i ++ [']']) := by
  have hdigits : '/' ∉ Nat.toDigits 10 i := fun h => absurd (isDigit_of_mem_toDigits h) (by decide)
  simp [hdigits]

/-- Only a name brings a slash into a step. -/
theorem notMem_pathStep (hname : ∀ name, g.name n = some name → '/' ∉ name.toList) :
    '/' ∉ g.pathStep n := by
  have hfirst : '/' ∉ ((g.name n).getD "?").toList := by
    cases h : g.name n with
    | none => decide
    | some name => exact hname name h
  unfold pathStep
  cases g.index n with
  | none => simpa using hfirst
  | some i => exact fun h => (List.mem_append.1 h).elim hfirst (notMem_place i)

/-- The place is what stands behind the last opening bracket, even if the name ends like a place. -/
theorem index_eq_of_pathStep_eq (hm : g.index m = some i) (hn : g.index n = some j)
    (h : g.pathStep m = g.pathStep n) : i = j := by
  have hbracket : ∀ k, '[' ∉ Nat.toDigits 10 k ++ [']'] := by
    intro k hk
    rcases List.mem_append.1 hk with hk | hk
    · exact absurd (isDigit_of_mem_toDigits hk) (by decide)
    · simp at hk
  unfold pathStep at h
  rw [hm, hn] at h
  obtain ⟨-, hdigits⟩ := (append_cons_inj (hbracket i) (hbracket j)).1 h
  rw [← digitsValue_toDigits i, ← digitsValue_toDigits j, List.append_cancel_right hdigits]

namespace Forest

variable (hg : g.Forest)

include hg

theorem toList_path_of_root (hp : g.parent n = none) : (g.path n).toList = '/' :: g.pathStep n := by
  rw [path, hg.ancestors_of_root hp, String.toList_join]
  simp [toList_pathSegment]

/-- The path of a child goes on behind the path of its parent. -/
theorem toList_path_of_parent (hp : g.parent n = some p) :
    (g.path n).toList = (g.path p).toList ++ '/' :: g.pathStep n := by
  rw [path, path, hg.ancestors_of_parent hp, String.toList_join, String.toList_join]
  simp [toList_pathSegment]

theorem toList_path_ne_nil (n : NodeId) : (g.path n).toList ≠ [] := by
  cases hp : g.parent n with
  | none => simp [hg.toList_path_of_root hp]
  | some p => simp [hg.toList_path_of_parent hp]

/-- A root has a path of one step, and a child has a longer one. -/
theorem path_ne_of_root (hm : g.parent m = none) (hn : g.parent n = some p)
    (hstep : '/' ∉ g.pathStep m) (hstep' : '/' ∉ g.pathStep n) : g.path m ≠ g.path n := by
  intro h
  have htext : [] ++ '/' :: g.pathStep m = (g.path p).toList ++ '/' :: g.pathStep n := by
    rw [List.nil_append, ← hg.toList_path_of_root hm, ← hg.toList_path_of_parent hn, h]
  exact hg.toList_path_ne_nil p ((append_cons_inj hstep hstep').1 htext).1.symm

/-- Children with the same path have the same place under parents with the same path. -/
theorem path_eq_of_parent (hm : g.parent m = some p) (hn : g.parent n = some q)
    (hstep : '/' ∉ g.pathStep m) (hstep' : '/' ∉ g.pathStep n) (h : g.path m = g.path n) :
    g.path p = g.path q ∧ g.index m = g.index n := by
  have htext : (g.path p).toList ++ '/' :: g.pathStep m =
      (g.path q).toList ++ '/' :: g.pathStep n := by
    rw [← hg.toList_path_of_parent hm, ← hg.toList_path_of_parent hn, h]
  obtain ⟨hpath, hsame⟩ := (append_cons_inj hstep hstep').1 htext
  have hi := hg.index_of_parent hm
  have hj := hg.index_of_parent hn
  exact ⟨String.toList_inj.1 hpath, by rw [hi, hj, index_eq_of_pathStep_eq hi hj hsame]⟩

end Forest

/-- Going up from two nodes with the same path, one meets the same places all the way to the
root. -/
theorem Forest.eq_of_path_eq (hg : g.Forest) {r : NodeId}
    (hstep : ∀ id, g.isTree id → g.rootOf id = r → '/' ∉ g.pathStep id) (hm : g.isTree m)
    (hn : g.isTree n) (hmr : g.rootOf m = r) (hnr : g.rootOf n = r) (h : g.path m = g.path n) :
    m = n := by
  induction m, hm using hg.induction_down generalizing n with
  | root m hm hp =>
    cases hq : g.parent n with
    | none => rw [← hg.rootOf_of_root hp, ← hg.rootOf_of_root hq, hmr, hnr]
    | some q => exact absurd h (hg.path_ne_of_root hp hq (hstep m hm hmr) (hstep n hn hnr))
  | child m p hm _ hp ih =>
    cases hq : g.parent n with
    | none => exact absurd h.symm (hg.path_ne_of_root hq hp (hstep n hn hnr) (hstep m hm hmr))
    | some q =>
      obtain ⟨hpath, hindex⟩ := hg.path_eq_of_parent hp hq (hstep m hm hmr) (hstep n hn hnr) h
      have hsame : p = q := ih (hg.isTree_parent hq) (hg.rootOf_of_parent hp ▸ hmr)
        (hg.rootOf_of_parent hq ▸ hnr) hpath
      have hi := hg.index_of_parent hq
      have hplace := (hg.place hp (hindex.trans hi)).2
      rw [hsame, (hg.place hq hi).2] at hplace
      exact (Option.some.inj hplace).symm

/-- In every graph that calls lead to, two nodes of a tree in which no name holds a slash have the
same path only when they are the same node, whatever else the names look like. -/
theorem path_eq_iff (hg : g.Built) (hm : g.isTree m) (hn : g.isTree n)
    (htree : g.rootOf m = g.rootOf n)
    (hnames : ∀ id name, g.isTree id → g.rootOf id = g.rootOf m → g.name id = some name →
      '/' ∉ name.toList) : g.path m = g.path n ↔ m = n := by
  refine ⟨fun h => ?_, congrArg g.path⟩
  refine hg.forest.eq_of_path_eq (fun id hid hroot => ?_) hm hn rfl htree.symm h
  exact notMem_pathStep fun name => hnames id name hid hroot

/-- Two children, of which the name of the second looks like the place of the first one, and a third
one without a name. -/
private def lookalikes : Graph :=
  .build [.add "" .tree, .add "x" .tree, .add "x[0]" .tree, .add "" .binary, .addChild 0 1,
    .addChild 0 3, .insertChild 0 1 2]

theorem path_eq_iff_lookalikes : lookalikes.Built ∧ lookalikes.isTree 1 ∧ lookalikes.isTree 2 ∧
    lookalikes.rootOf 1 = lookalikes.rootOf 2 ∧
    (∀ id < lookalikes.size, ∀ name ∈ lookalikes.name id, '/' ∉ name.toList) ∧
    lookalikes.path 1 = "//x[0]" ∧ lookalikes.path 2 = "//x[0][1]" ∧
    lookalikes.path 1 ≠ lookalikes.path 2 := by
  have hbuilt : lookalikes.Built := ⟨_, rfl⟩
  have hall : ∀ id < lookalikes.size, ∀ name ∈ lookalikes.name id, '/' ∉ name.toList := by decide
  have hsame : lookalikes.path 1 = lookalikes.path 2 ↔ 1 = 2 :=
    path_eq_iff hbuilt (by decide) (by decide) (by decide)
      fun id name hid _ hname => hall id (lt_size_of_isTree hid) name hname
  refine ⟨hbuilt, by decide, by decide, by decide, hall, by decide, by decide, fun h => ?_⟩
  exact absurd (hsame.1 h) (by decide)

end Graph

end GraphSelect
