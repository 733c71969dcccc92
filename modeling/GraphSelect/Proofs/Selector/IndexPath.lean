import GraphSelect.Proofs.Document.Built
import GraphSelect.Proofs.Selector.Acceptance
import GraphSelect.Proofs.Selector.Evaluation
import GraphSelect.Proofs.Text.Digits

/-!
# Ways down a tree by places

A node below another one in a tree is known by the places of the nodes on the way down. The
selector that asks for these places, one step after the other, finds exactly that node: each step
goes to the children of the nodes found so far, and no two children of a node have the same place.
The steps make no walks, so neither the strategy nor the limit of the search matters.
-/
namespace GraphSelect

open Text

namespace Graph

variable {g : Graph} {r p t u : NodeId} {places : List Nat} {i : Nat}

/-- The places of the nodes on the way down from one node to another; the first node of the way
does not count. -/
inductive Descent (g : Graph) : NodeId → List Nat → NodeId → Prop
  | here (n : NodeId) : Descent g n [] n
  | down {n c t : NodeId} {i : Nat} {rest : List Nat} (hp : g.parent c = some n)
      (hi : g.index c = some i) (h : Descent g c rest t) : Descent g n (i :: rest) t

namespace Descent

theorem concat (h : g.Descent r places p) (hp : g.parent t = some p) (hi : g.index t = some i) :
    g.Descent r (places ++ [i]) t := by
  induction h with
  | here n => exact .down hp hi (.here t)
  | down hp' hi' _ ih => exact .down hp' hi' (ih hp)

theorem unique (hg : g.Linked) (h : g.Descent r places t) (h' : g.Descent r places u) : t = u := by
  induction h with
  | here n =>
    cases h'
    rfl
  | @down n c t i rest hp hi _ ih =>
    cases h' with
    | down hp' hi' h' =>
      have hc := (hg.place hp hi).2
      rw [(hg.place hp' hi').2, Option.some.injEq] at hc
      exact ih (hc ▸ h')

end Descent

/-- The nodes strictly below a node are those to which places lead. -/
theorem Linked.up_iff_descent (hg : g.Linked) :
    Relation.TransGen g.Up t r ↔ ∃ places, places ≠ [] ∧ g.Descent r places t := by
  constructor
  · intro h
    induction h using Relation.TransGen.head_induction_on with
    | single hp => exact ⟨_, by simp, .down hp (hg.index_of_parent hp) (.here _)⟩
    | head hp _ ih =>
      obtain ⟨places, -, h⟩ := ih
      exact ⟨_, by simp, h.concat hp (hg.index_of_parent hp)⟩
  · rintro ⟨places, hne, h⟩
    induction h with
    | here => exact absurd rfl hne
    | @down n c t i rest hp _ h ih =>
      cases h with
      | here => exact .single hp
      | down hp' hi' h => exact (ih (by simp)).tail hp

end Graph

/-- The selector that goes down by places, such as `/#1/#0`. -/
def indexPath : List Nat → String
  | [] => ""
  | i :: rest => "/#" ++ toString i ++ indexPath rest

def placeStage (i : Nat) : Stage := ⟨.immediate, [.index i]⟩

namespace Grammar

variable {registry : Registry} {Block : List Char → List Stage → Prop} {next : Option Char}

theorem toList_indexPath_cons (i : Nat) (rest : List Nat) :
    (indexPath (i :: rest)).toList =
      '/' :: '#' :: Nat.toDigits 10 i ++ (indexPath rest).toList := by
  simp [indexPath]

theorem segment_place {i : Nat} (hi : i < wordBound) (hnext : StopsAt (!mayFollowIndex ·) next) :
    Segment registry Block .immediate next ('#' :: Nat.toDigits 10 i) (placeStage i) := by
  have hvalue := digitsValue_toDigits i
  have hindex : Snippet registry Block next ('#' :: Nat.toDigits 10 i)
      (.index (digitsValue (Nat.toDigits 10 i))) :=
    .index Nat.toDigits_ne_nil
      (fun _ hc => Nat.isDigit_of_mem_toDigits (by decide) (by decide) hc) (by rwa [hvalue]) hnext
  rw [hvalue] at hindex
  exact .filters (by simp) (.last hindex)

theorem segments_indexPath {i : Nat} {rest : List Nat} (hfit : ∀ j ∈ i :: rest, j < wordBound) :
    Segments registry Block none .immediate
      ('#' :: Nat.toDigits 10 i ++ (indexPath rest).toList) ((i :: rest).map placeStage) := by
  have hi := hfit i List.mem_cons_self
  induction rest generalizing i with
  | nil =>
    have htext : (indexPath []).toList = [] := rfl
    rw [htext, List.append_nil]
    exact .last (segment_place hi (stopsAt_none _))
  | cons j rest ih =>
    have hrest := fun k hk => hfit k (List.mem_cons_of_mem _ hk)
    have hsegment : Segment registry Block .immediate ['/'].head? ('#' :: Nat.toDigits 10 i)
        (placeStage i) := segment_place hi ((stopsAt_some _ _).2 rfl)
    have hgap : Separator ['/'] .immediate := .slash blanks_nil blanks_nil
    have hmore := Segments.more hsegment hgap (ih hrest (hrest j List.mem_cons_self))
    rw [toList_indexPath_cons]
    simpa using hmore

theorem selectorOver_indexPath {places : List Nat} (hne : places ≠ [])
    (hfit : ∀ i ∈ places, i < wordBound) :
    SelectorOver registry Block none (indexPath places).toList (places.map placeStage) := by
  obtain ⟨i, rest, rfl⟩ := List.exists_cons_of_ne_nil hne
  have hselector : SelectorOver registry Block none
      ([] ++ ['/'] ++ ('#' :: Nat.toDigits 10 i ++ (indexPath rest).toList) ++ [])
      ((i :: rest).map placeStage) :=
    .mk blanks_nil (.slash blanks_nil) (segments_indexPath hfit) blanks_nil
  rw [toList_indexPath_cons]
  simpa using hselector

end Grammar

namespace Search

variable {g : Graph} {strategy : Strategy} {limit : Option Nat} {r t : NodeId} {places : List Nat}

theorem mem_select_place (hg : g.Linked) {n c : NodeId} {i : Nat} (hn : g.isTree n) :
    c ∈ (placeStage i).select ⟨g, strategy, limit⟩ n ↔
      g.parent c = some n ∧ g.index c = some i := by
  have haccept : Filter.allAccept ⟨g, strategy, limit⟩ n c [.index i] ↔ g.index c = some i := by
    simp [Filter.allAccept, Filter.accepts]
  rw [placeStage, Stage.select, List.mem_filter, haccept]
  refine and_congr_left fun _ => ⟨hg.parent_of_mem hn, hg.mem_neighbors⟩

theorem mem_run_places (hg : g.Linked) {found : List NodeId} (hf : ∀ n ∈ found, g.isTree n) :
    t ∈ run ⟨g, strategy, limit⟩ (places.map placeStage) found ↔
      ∃ n ∈ found, g.Descent n places t := by
  induction places generalizing found with
  | nil =>
    rw [List.map_nil, run]
    constructor
    · exact fun ht => ⟨t, ht, .here t⟩
    · rintro ⟨n, hn, ⟨⟩⟩
      exact hn
  | cons i rest ih =>
    have hselect : ∀ c, c ∈ (found.flatMap ((placeStage i).select ⟨g, strategy, limit⟩)).eraseDups ↔
        ∃ n ∈ found, g.parent c = some n ∧ g.index c = some i := by
      intro c
      rw [List.mem_eraseDups, List.mem_flatMap]
      exact exists_congr fun n => and_congr_right fun hn => mem_select_place hg (hf n hn)
    rw [List.map_cons, run, ih]
    · constructor
      · rintro ⟨c, hc, hdescent⟩
        obtain ⟨n, hn, hp, hi⟩ := (hselect c).1 hc
        exact ⟨n, hn, .down hp hi hdescent⟩
      · rintro ⟨n, hn, hdescent⟩
        cases hdescent with
        | down hp hi hdescent => exact ⟨_, (hselect _).2 ⟨n, hn, hp, hi⟩, hdescent⟩
    · intro c hc
      obtain ⟨n, -, hp, -⟩ := (hselect c).1 hc
      exact hg.isTree_of_parent hp

theorem find_places (hg : g.Linked) (hr : g.isTree r) (source : String) :
    (∀ t, g.Descent r places t →
        find ⟨g, strategy, limit⟩ ⟨source, places.map placeStage⟩ r = [t]) ∧
      ((¬ ∃ t, g.Descent r places t) →
        find ⟨g, strategy, limit⟩ ⟨source, places.map placeStage⟩ r = []) := by
  have hmem : ∀ t, t ∈ run ⟨g, strategy, limit⟩ (places.map placeStage) [r] ↔
      g.Descent r places t := by
    intro t
    rw [mem_run_places hg fun n hn => List.mem_singleton.1 hn ▸ hr]
    simp
  rw [find_eq_run _ _ (Graph.lt_size_of_isTree hr)]
  constructor
  · intro t ht
    have hnodup : (run ⟨g, strategy, limit⟩ (places.map placeStage) [r]).Nodup :=
      nodup_run _ (List.nodup_singleton r)
    refine List.perm_singleton.1 ((List.perm_ext_iff_of_nodup hnodup (List.nodup_singleton t)).2 ?_)
    intro u
    rw [hmem, List.mem_singleton]
    exact ⟨fun hu => hu.unique hg ht, fun he => he ▸ ht⟩
  · intro hno
    exact List.eq_nil_iff_forall_not_mem.2 fun t ht => hno ⟨t, (hmem t).1 ht⟩

/-- In the graphs that are built by calls or loaded from documents, the nodes strictly below a tree
node are those to which places of 64 bits lead, and the selector of such places compiles where it
is not too long. It finds the node to which the places lead, or nothing if they lead to none. -/
theorem find_indexPath {g : Graph} {r : NodeId} (hg : g.Built ∨ g.Loaded) (hr : g.isTree r)
    (registry : Registry) :
    (∀ t, Relation.TransGen g.Up t r ↔ ∃ places, places ≠ [] ∧ g.Descent r places t) ∧
      ∀ places, places ≠ [] → (∀ i ∈ places, i < wordBound) →
        byteLength (indexPath places).toList ≤ 4096 →
        ∃ p, registry.compile (indexPath places) = .ok p ∧
          ∀ (strategy : Strategy) (limit : Option Nat),
            (∀ t, g.Descent r places t → find ⟨g, strategy, limit⟩ p r = [t]) ∧
            ((¬ ∃ t, g.Descent r places t) → find ⟨g, strategy, limit⟩ p r = []) := by
  have hlinked : g.Linked := (hg.elim id Graph.Loaded.built).forest.toLinked
  refine ⟨fun t => hlinked.up_iff_descent, fun places hne hfit hlength => ?_⟩
  have hselector : Grammar.IsSelector registry Limits.maxBlockDepth none
      (indexPath places).toList (places.map placeStage) :=
    Grammar.selectorOver_indexPath hne hfit
  exact ⟨_, Registry.compile_of_isSelector hlength hselector,
    fun strategy limit => find_places hlinked hr _⟩

/-- A tree whose second child was there first, with a child of its own. -/
private def family : Graph :=
  .build [.add "a" .tree, .add "b" .tree, .add "c" .tree, .add "d" .binary, .addChild 0 1,
    .addChild 1 3, .insertChild 0 0 2]

/-- The places of a grandchild are found with its tree, and a place without a child is not. -/
theorem find_indexPath_family : (family.Built ∨ family.Loaded) ∧ family.isTree 0 ∧
    (∃ p, Registry.empty.compile "/#1/#0" = .ok p ∧
      find ⟨family, .depthFirst, some 1⟩ p 0 = [3]) ∧
    ∃ p, Registry.empty.compile "/#0/#0" = .ok p ∧
      find ⟨family, .depthFirst, some 1⟩ p 0 = [] := by
  have hg : family.Built ∨ family.Loaded := .inl ⟨_, rfl⟩
  have hr : family.isTree 0 := by decide
  have hpath := (find_indexPath hg hr Registry.empty).2
  obtain ⟨p, hp, hfound⟩ := hpath [1, 0] (by decide) (by decide) (by decide)
  obtain ⟨q, hq, hnone⟩ := hpath [0, 0] (by decide) (by decide) (by decide)
  have hdescent : family.Descent 0 [1, 0] 3 := by
    have hp₁ : family.parent 1 = some 0 := by decide
    have hi₁ : family.index 1 = some 1 := by decide
    have hp₃ : family.parent 3 = some 1 := by decide
    have hi₃ : family.index 3 = some 0 := by decide
    exact .down hp₁ hi₁ (.down hp₃ hi₃ (.here 3))
  refine ⟨hg, hr, ⟨p, hp, (hfound _ _).1 3 hdescent⟩, q, hq, (hnone _ _).2 ?_⟩
  -- The first step of the other way leads to a leaf.
  have hlinked : family.Linked := (hg.elim id Graph.Loaded.built).forest.toLinked
  rintro ⟨t, h⟩
  cases h with
  | @down _ c _ _ _ hp hi h =>
    have hc : some 2 = some c := (hlinked.place hp hi).2
    obtain rfl := Option.some.inj hc
    cases h with
    | down hp' hi' _ =>
      have hleaf : family.children 2 = [] := by decide
      have hcount := (hlinked.place hp' hi').1
      rw [hleaf] at hcount
      cases hcount

end Search

end GraphSelect
