import GraphSelect.Proofs.Binding.Fillable
import GraphSelect.Proofs.Selector.Builtin
import Mathlib.Data.List.Forall2
import Mathlib.Data.List.Perm.Basic

/-!
# Binding depends on neither history nor order

What a binder has bound before does not show, as its kept selectors do not. The order in which it
explores shows in nothing but the order of what a field for all nodes takes: whether a record can
be filled is said of the nodes that are found and not of their order, the same fields are filled,
and a field for one node takes from the only node that is found.
-/
namespace GraphSelect

/-- Whether two bound values are the same up to the order of lists, also of lists within lists. -/
inductive Bound.Same : Bound → Bound → Prop
  | value (v : Value) : Same (.value v) (.value v)
  | list {items between items' : List Bound} (hsame : List.Forall₂ Same items between)
    (hperm : between.Perm items') : Same (.list items) (.list items')
  | record {fields fields' : List (String × Bound)}
    (hnames : fields.map Prod.fst = fields'.map Prod.fst)
    (hsame : List.Forall₂ Same (fields.map Prod.snd) (fields'.map Prod.snd)) :
    Same (.record fields) (.record fields')

namespace Binder

variable {registry : Registry} {reader : ValueReader} {schema : Schema} {g : Graph}
  {gives gives' : Nat → NodeId → Bound → Prop} {node root : NodeId} {source : Source} {f : Field}
  {found found' : List NodeId} {depth table : Nat}

theorem forall₂_of_left {α β γ : Type} {R : α → β → Prop} {Q : α → γ → Prop} {S : β → γ → Prop}
    (h : ∀ a b c, R a b → Q a c → S b c) {l : List α} {bs : List β} {cs : List γ}
    (hbs : List.Forall₂ R l bs) (hcs : List.Forall₂ Q l cs) : List.Forall₂ S bs cs := by
  induction hbs generalizing cs with
  | nil =>
    cases hcs
    exact .nil
  | cons hb _ ih =>
    obtain _ | ⟨hc, hcs⟩ := hcs
    exact .cons (h _ _ _ hb hc) (ih hcs)

/-- Whether two fields of records have one name and the same values. -/
def SameField (a b : String × Bound) : Prop := a.1 = b.1 ∧ a.2.Same b.2

theorem same_record_of_forall₂ {fields fields' : List (String × Bound)}
    (h : List.Forall₂ SameField fields fields') :
    Bound.Same (.record fields) (.record fields') := by
  refine .record ?_ ?_
  · rw [← List.forall₂_eq_eq_eq, List.forall₂_map_left_iff, List.forall₂_map_right_iff]
    exact h.imp fun _ _ h => h.1
  · rw [List.forall₂_map_left_iff, List.forall₂_map_right_iff]
    exact h.imp fun _ _ h => h.2

section

variable (hgives : ∀ table node v v', gives table node v → gives' table node v' → v.Same v')

include hgives

theorem Takes.rel_same {taken taken' : Option Bound} (h : Takes reader g gives node source taken)
    (h' : Takes reader g gives' node source taken') : Option.Rel Bound.Same taken taken' := by
  cases source with
  | value name target =>
    rw [Takes] at h h'
    cases hraw : g.value node name with
    | none =>
      rw [hraw] at h h'
      cases h
      cases h'
      exact .none
    | some raw =>
      rw [hraw] at h h'
      obtain ⟨v, hv, rfl⟩ := h
      obtain ⟨v', hv', rfl⟩ := h'
      cases hv.symm.trans hv'
      exact .some (.value v)
  | index =>
    cases h
    cases h'
    cases g.index node with
    | none => exact .none
    | some i => exact .some (.value (.int i))
  | element inner =>
    obtain ⟨v, hv, rfl⟩ := h
    obtain ⟨v', hv', rfl⟩ := h'
    exact .some (hgives inner node v v' hv hv')

theorem FillsFrom.rel_same (hperm : found.Perm found') {filled filled' : Option (String × Bound)}
    (h : FillsFrom reader g gives f found filled)
    (h' : FillsFrom reader g gives' f found' filled') :
    Option.Rel SameField filled filled' := by
  cases found with
  | nil =>
    cases hperm.nil_eq
    cases h
    cases h'
    exact .none
  | cons node rest =>
    cases found' with
    | nil => cases hperm.eq_nil
    | cons node' rest' =>
      rw [FillsFrom] at h h'
      cases hf : f.collection with
      | true =>
        rw [hf, if_pos rfl] at h h'
        obtain ⟨taken, htaken, rfl⟩ := h
        obtain ⟨taken', htaken', rfl⟩ := h'
        obtain ⟨between, hbetween, hperm⟩ := List.perm_comp_forall₂ hperm htaken'
        have hsame : List.Forall₂ (Option.Rel Bound.Same) taken between :=
          forall₂_of_left (fun _ _ _ h h' => h.rel_same hgives h') htaken hbetween
        exact .some ⟨rfl, .list (List.rel_filterMap (fun _ _ h => h) hsame) (hperm.filterMap id)⟩
      | false =>
        rw [hf, if_neg (by simp)] at h h'
        obtain ⟨rfl, taken, htaken, rfl⟩ := h
        obtain ⟨rfl, taken', htaken', rfl⟩ := h'
        cases List.singleton_perm_singleton.1 hperm
        cases htaken.rel_same hgives htaken' with
        | none => exact .none
        | some hsame => exact .some ⟨rfl, hsame⟩

end

section

variable (hr : registry.IgnoresWalk) {strategy other : Strategy}

include hr

theorem finds_iff {selector : String} :
    Finds registry ⟨g, strategy, none⟩ root selector node ↔
      Finds registry ⟨g, other, none⟩ root selector node := by
  refine exists_congr fun p => and_congr_right fun hp => ?_
  have hp := Registry.ignoresWalk_of_compile hr hp
  exact (Search.perm_find hp g strategy other root).mem_iff

theorem Fillable.of_other (h : Fillable registry reader schema ⟨g, strategy, none⟩ table root) :
    Fillable registry reader schema ⟨g, other, none⟩ table root := by
  induction h with
  | intro compiles single readable nested ih =>
    refine .intro compiles ?_ ?_ ?_
    · intro f hf hone node hnode node' hnode'
      exact single f hf hone node ((finds_iff hr).1 hnode) node' ((finds_iff hr).1 hnode')
    · intro f hf name target hsource node hnode
      exact readable f hf name target hsource node ((finds_iff hr).1 hnode)
    · intro f hf inner hsource node hnode
      exact ih f hf inner hsource node ((finds_iff hr).1 hnode)

theorem isFilled_eq : isFilled registry ⟨g, strategy, none⟩ root f =
    isFilled registry ⟨g, other, none⟩ root f := by
  unfold isFilled
  cases hp : registry.compile f.selector with
  | error e => rfl
  | ok p =>
    have hperm := Search.perm_find (Registry.ignoresWalk_of_compile hr hp) g strategy other root
    simp only [hperm.isEmpty_eq, hperm.any_eq]

/-- Records that are filled in different orders of exploration are the same up to the order of
their lists. -/
theorem same_of_answer_record {v v' : Bound}
    (h : answer registry (record schema ⟨g, strategy, none⟩ reader depth table root) = .ok v)
    (h' : answer registry (record schema ⟨g, other, none⟩ reader depth table root) = .ok v') :
    v.Same v' := by
  induction depth generalizing table root v v' with
  | zero => cases h
  | succ depth ih =>
    obtain ⟨filled, hfilled, rfl⟩ := answer_record_eq_ok_iff.1 h
    obtain ⟨filled', hfilled', rfl⟩ := answer_record_eq_ok_iff.1 h'
    have hgives : ∀ table node v v',
        Gives registry (record schema ⟨g, strategy, none⟩ reader depth) table node v →
        Gives registry (record schema ⟨g, other, none⟩ reader depth) table node v' → v.Same v' :=
      fun _ _ _ _ => ih
    have hrel : List.Forall₂ (Option.Rel SameField) filled filled' := by
      refine forall₂_of_left ?_ hfilled hfilled'
      rintro f o o' ⟨p, hp, ho⟩ ⟨p', hp', ho'⟩
      cases hp.symm.trans hp'
      have hperm := Search.perm_find (Registry.ignoresWalk_of_compile hr hp) g strategy other root
      exact ho.rel_same hgives hperm ho'
    exact same_record_of_forall₂ (List.rel_filterMap (fun _ _ h => h) hrel)

end

theorem length_lt_maxDepth (schema : Schema) (g : Graph) : schema.length < maxDepth schema g := by
  rw [maxDepth, Nat.lt_succ_iff, Nat.mul_succ]
  omega

/-- Two binders of one registry and one reader, whatever has happened to them, bind a table whose
nesting ends. Binding comes to an end; it succeeds exactly when the record can be filled, and then
the record has the fields that are filled, in the order of the table. Binders that explore in one
order answer the same, be it a record or an error. In different orders both succeed or none, the
same fields are filled, and the records are the same up to the order of their lists; a filter
function is handed the order of the search, so this is said of functions that do not look at it. -/
theorem bind_after (registry : Registry) (events events' : List Event) (schema : Schema) (g : Graph)
    (root : NodeId) (hends : schema.Ends 0)
    (hreader : (after registry events).reader = (after registry events').reader) :
    let b := after registry events
    let b' := after registry events'
    let s : Search := ⟨g, b.strategy, none⟩
    let s' : Search := ⟨g, b'.strategy, none⟩
    (b.bind schema g root).1 ≠ .error .endless ∧
      ((∃ v, (b.bind schema g root).1 = .ok v) ↔ Fillable registry b.reader schema s 0 root) ∧
      (∀ v, (b.bind schema g root).1 = .ok v → ∃ fields, v = .record fields ∧
        fields.map Prod.fst =
          ((schema.table 0).filter (isFilled registry s root)).map Field.name) ∧
      (b.strategy = b'.strategy → (b.bind schema g root).1 = (b'.bind schema g root).1) ∧
      (registry.IgnoresWalk →
        ((∃ v, (b.bind schema g root).1 = .ok v) ↔ ∃ v, (b'.bind schema g root).1 = .ok v) ∧
        (schema.table 0).filter (isFilled registry s root) =
          (schema.table 0).filter (isFilled registry s' root) ∧
        ∀ v v', (b.bind schema g root).1 = .ok v → (b'.bind schema g root).1 = .ok v' →
          v.Same v') := by
  have hwithin := hends.endsWithin (length_lt_maxDepth schema g)
  dsimp only
  rw [fst_bind_after, fst_bind_after, ← hreader]
  refine ⟨answer_record_ne_endless hwithin, exists_answer_record_iff hwithin,
    fun v => names_of_answer_record, fun hstrategy => by rw [hstrategy], fun hr => ⟨?_, ?_, ?_⟩⟩
  · rw [exists_answer_record_iff hwithin, exists_answer_record_iff hwithin]
    exact ⟨Fillable.of_other hr, Fillable.of_other hr⟩
  · exact List.filter_congr fun f _ => isFilled_eq hr
  · exact fun v v' => same_of_answer_record hr

private def tree : Graph :=
  .build [.add "a" .tree, .add "b" .tree, .add "c" .tree, .add "d" .tree,
    .addChild 0 1, .addChild 0 2, .addChild 1 3]

private theorem tree_eq : tree = ⟨#[
    { name := "a", kind := .tree, neighbors := [1, 2] },
    { name := "b", kind := .tree, neighbors := [3], parent := some 0, index := some 0, level := 1 },
    { name := "c", kind := .tree, parent := some 0, index := some 1, level := 1 },
    { name := "d", kind := .tree, parent := some 1, index := some 0, level := 2 }]⟩ := rfl

/-- A record for each node below the root, which holds the place of the node. -/
private def places : Schema :=
  [[⟨"all", "*", .element 1, true⟩], [⟨"place", ".", .index, false⟩]]

private def placed (indices : List Nat) : Bound :=
  .record [("all", .list (indices.map fun i : Nat => .record [("place", .value (.int i))]))]

private theorem ends_places : places.Ends 0 := by
  refine .intro 0 fun inner h => .intro inner fun none h' => ?_
  have hinner : inner = 1 := by simpa [Schema.Nests, Schema.table, places, eq_comm] using h
  subst hinner
  simp [Schema.Nests, Schema.table, places] at h'

private theorem maxDepth_places : maxDepth places tree = 14 + 2 := rfl

private theorem compile_star : Registry.empty.compile "*" = .ok ⟨"*", [⟨.descendant, [.any]⟩]⟩ := by
  with_unfolding_all rfl

private theorem compile_dot : Registry.empty.compile "." = .ok ⟨".", [⟨.current, [.origin]⟩]⟩ := by
  with_unfolding_all rfl

private theorem find_dot (s : Search) (h : node < s.graph.size) :
    s.find ⟨".", [⟨.current, [.origin]⟩]⟩ node = [node] := by
  rw [Search.find_eq_run s _ h]
  simp [Search.run, Stage.select, Search.reach, Filter.allAccept, Filter.accepts, List.eraseDups_cons]

private theorem find_breadthFirst :
    Search.find ⟨tree, .breadthFirst, none⟩ ⟨"*", [⟨.descendant, [.any]⟩]⟩ 0 = [1, 2, 3] := by
  rw [tree_eq]
  cbv

private theorem find_depthFirst :
    Search.find ⟨tree, .depthFirst, none⟩ ⟨"*", [⟨.descendant, [.any]⟩]⟩ 0 = [1, 3, 2] := by
  rw [tree_eq]
  cbv

/-- The records that are filled from some nodes of the tree hold their places. -/
private theorem answer_places {s : Search} (hs : s.graph = tree) {indices : List Nat}
    (hfound : s.find ⟨"*", [⟨.descendant, [.any]⟩]⟩ 0 = found) (hne : found ≠ [])
    (hindices : List.Forall₂ (fun n i => n < tree.size ∧ tree.index n = some i) found indices) :
    answer .empty (record places s reader (depth + 2) 0 0) = .ok (placed indices) := by
  have hplace : ∀ n i, n < tree.size ∧ tree.index n = some i →
      answer .empty (record places s reader (depth + 1) 1 n) =
        .ok (.record [("place", .value (.int i))]) := by
    rintro n i ⟨hn, hi⟩
    rw [← hs] at hn hi
    refine answer_record_eq_ok_iff.2 ⟨[some ("place", .value (.int i))], .cons ?_ .nil, rfl⟩
    refine ⟨_, compile_dot, ?_⟩
    rw [find_dot s hn]
    exact ⟨rfl, _, rfl, by rw [hi]; rfl⟩
  refine answer_record_eq_ok_iff.2 ⟨[some _], .cons ⟨_, compile_star, ?_⟩ .nil, rfl⟩
  rw [hfound]
  obtain ⟨n, rest, rfl⟩ := List.exists_cons_of_ne_nil hne
  refine ⟨indices.map fun i : Nat => some (.record [("place", .value (.int i))]), ?_, ?_⟩
  · rw [List.forall₂_map_right_iff]
    exact hindices.imp fun n i h => ⟨_, hplace n i h, rfl⟩
  · simp [List.filterMap_map]

/-- A new binder and one that explores depth first, after it has bound the same, give the records
within in different orders. -/
theorem bind_after_depthFirst :
    let b := after .empty []
    let b' := after .empty [.bind places tree 0, .setStrategy .depthFirst]
    (b.bind places tree 0).1 = .ok (placed [0, 1, 0]) ∧
      (b'.bind places tree 0).1 = .ok (placed [0, 0, 1]) ∧
      Fillable .empty b.reader places ⟨tree, b.strategy, none⟩ 0 0 ∧
      (placed [0, 1, 0]).Same (placed [0, 0, 1]) := by
  have hb : ((after .empty []).bind places tree 0).1 = .ok (placed [0, 1, 0]) := by
    rw [fst_bind_after, maxDepth_places]
    exact answer_places rfl find_breadthFirst nofun (by decide)
  have hb' : ((after .empty [.bind places tree 0, .setStrategy .depthFirst]).bind places tree 0).1 =
      .ok (placed [0, 0, 1]) := by
    rw [fst_bind_after, maxDepth_places]
    exact answer_places rfl find_depthFirst nofun (by decide)
  obtain ⟨-, hiff, -, -, hsame⟩ := bind_after .empty []
    [.bind places tree 0, .setStrategy .depthFirst] places tree 0 ends_places rfl
  exact ⟨hb, hb', hiff.1 ⟨_, hb⟩, (hsame Registry.ignoresWalk_empty).2.2 _ _ hb hb'⟩

/-- A function that accepts every node in a depth-first search and none otherwise. -/
private def inDepth : Predicate := fun c _ => c.strategy = .depthFirst

private def ordered : Registry := Registry.empty.registerPredicate "deep" inDepth

/-- A record with the place of the one node that the function accepts. -/
private def single : Schema := [[⟨"place", "deep()", .index, false⟩]]

private theorem ends_single : single.Ends 0 := by
  refine .intro 0 fun inner h => ?_
  simp [Schema.Nests, Schema.table, single] at h

private theorem compile_deep :
    ordered.compile "deep()" = .ok ⟨"deep()", [⟨.descendant, [.function "deep" .empty inDepth]⟩]⟩ := by
  with_unfolding_all rfl

private theorem find_deep :
    Search.find ⟨tree, .breadthFirst, none⟩
        ⟨"deep()", [⟨.descendant, [.function "deep" .empty inDepth]⟩]⟩ 0 = [] ∧
      Search.find ⟨tree, .depthFirst, none⟩
        ⟨"deep()", [⟨.descendant, [.function "deep" .empty inDepth]⟩]⟩ 0 = [1, 3, 2] := by
  rw [tree_eq]
  constructor
  all_goals cbv

/-- With a function that looks at the order of the search, one of two binders of a registry can succeed
and the other fail. -/
theorem bind_of_ordered :
    let b := after ordered []
    let b' := after ordered [.setStrategy .depthFirst]
    single.Ends 0 ∧ b.reader = b'.reader ∧ (∃ v, (b.bind single tree 0).1 = .ok v) ∧
      ¬ ∃ v, (b'.bind single tree 0).1 = .ok v := by
  have hwithin := ends_single.endsWithin (length_lt_maxDepth single tree)
  refine ⟨ends_single, rfl, ?_, ?_⟩
  · have hnone : ∀ n, ¬ Finds ordered ⟨tree, .breadthFirst, none⟩ 0 "deep()" n := by
      rintro n ⟨p, hp, hn⟩
      cases compile_deep.symm.trans hp
      rw [find_deep.1] at hn
      cases hn
    rw [fst_bind_after, exists_answer_record_iff hwithin]
    refine .intro (fun f hf => ?_) (fun f hf _ n hn => ?_) (fun f hf _ _ _ n hn => ?_)
      fun f hf _ _ n hn => ?_
    all_goals cases List.mem_singleton.1 hf
    · exact ⟨_, compile_deep⟩
    all_goals exact absurd hn (hnone n)
  · rw [fst_bind_after, exists_answer_record_iff hwithin]
    rintro ⟨-, hsingle, -, -⟩
    have hfinds : ∀ n ∈ [1, 3, 2], Finds ordered ⟨tree, .depthFirst, none⟩ 0 "deep()" n :=
      fun n hn => ⟨_, compile_deep, find_deep.2 ▸ hn⟩
    have hsame := hsingle _ List.mem_cons_self rfl 1 (hfinds 1 (by decide)) 3 (hfinds 3 (by decide))
    exact absurd hsame (by decide)

end Binder

end GraphSelect
