import GraphSelect.Proofs.Document.Graph
import GraphSelect.Proofs.Document.Tree

/-!
# Attributes that a document gives

Documents of both kinds give attributes to their nodes, which are numbered in the order in which
the document names them. The graph of a document that loads keeps for every attribute the text of
its value, the last one where a node is given several values of one name.
-/
namespace GraphSelect

namespace TreeOutline

mutual

/-- The attributes of the nodes of a tree, those of a node before those of the nodes below it. -/
def given : TreeOutline → List (List (String × Scalar))
  | .node _ attributes children _ => attributes :: givenAll children

def givenAll : List TreeOutline → List (List (String × Scalar))
  | [] => []
  | t :: rest => t.given ++ givenAll rest

end

mutual

theorem length_given : ∀ t : TreeOutline, t.given.length = t.size
  | .node _ _ children _ => by rw [given, List.length_cons, length_givenAll children, size]

theorem length_givenAll : ∀ children : List TreeOutline,
    (givenAll children).length = sizeAll children
  | [] => rfl
  | t :: rest => by
    rw [givenAll, List.length_append, length_given t, length_givenAll rest, sizeAll]

end

variable {g : Graph} {attributes : List (String × Scalar)}

mutual

theorem Holds.exists_label : ∀ {t : TreeOutline} {above : Bool} {id k : Nat},
    t.Holds g above id → t.given[k]? = some attributes →
      ∃ l, g.label? (id + k) = some l ∧
        ∀ key, l.attributes.get? key = (attributes.reverse.lookup key).map Scalar.render
  | .node _ _ children _, _, id, k, ⟨⟨l, hl, hlabel⟩, _, hbelow⟩, hgiven => by
    rw [given] at hgiven
    cases k with
    | zero =>
      cases hgiven
      exact ⟨l, hl, hlabel.attributes⟩
    | succ k =>
      rw [← Nat.add_assoc, Nat.add_right_comm]
      exact HoldsAll.exists_label hbelow hgiven

theorem HoldsAll.exists_label : ∀ {children : List TreeOutline} {above : Bool} {id k : Nat},
    HoldsAll g above id children → (givenAll children)[k]? = some attributes →
      ∃ l, g.label? (id + k) = some l ∧
        ∀ key, l.attributes.get? key = (attributes.reverse.lookup key).map Scalar.render
  | t :: rest, _, id, k, ⟨ht, hrest⟩, hgiven => by
    rw [givenAll] at hgiven
    by_cases hk : k < t.given.length
    · rw [List.getElem?_append_left hk] at hgiven
      exact Holds.exists_label ht hgiven
    · have hle : t.size ≤ k := by rw [← length_given]; exact Nat.not_lt.1 hk
      rw [List.getElem?_append_right (Nat.not_lt.1 hk), length_given] at hgiven
      obtain ⟨l, hl, hattributes⟩ := HoldsAll.exists_label hrest hgiven
      rw [Nat.add_assoc, Nat.add_sub_cancel' hle] at hl
      exact ⟨l, hl, hattributes⟩

end

end TreeOutline

/-- The attributes that a document gives to its nodes, in the order of the numbers of the nodes. -/
def Outline.given : Outline → List (List (String × Scalar))
  | graph o => o.nodes.map NodeOutline.attributes
  | tree t => t.given

variable {d : Document} {id : NodeId} {key : String} {x : Scalar}
  {attributes : List (String × Scalar)}

theorem Graph.value_of_label? {g : Graph} {l : Label} (h : g.label? id = some l) :
    g.value id key = l.attributes.get? key := by
  obtain ⟨n, hn, rfl⟩ := Option.map_eq_some_iff.1 h
  rw [value, hn]
  rfl

theorem GraphOutline.value_of_given {o : GraphOutline} (hbuild : o.build = .ok d)
    (hgiven : (o.nodes.map NodeOutline.attributes)[id]? = some attributes)
    (hlast : attributes.reverse.lookup key = some x) : d.graph.value id key = some x.render := by
  rcases sound_or_firstFault o with hsound | ⟨e, hfault⟩
  · rw [build_of_sound hsound] at hbuild
    cases hbuild
    obtain ⟨n, hn, rfl⟩ := List.getElem?_map.symm.trans hgiven |> Option.map_eq_some_iff.1
    have hnode : o.document.graph.get? id = some (o.linked n) := by simp [document, hn]
    rw [Graph.value, hnode]
    change n.texts.get? key = _
    rw [n.get?_texts, hlast]
    rfl
  · rw [build_of_firstFault hfault] at hbuild
    cases hbuild

theorem TreeOutline.value_of_given {t : TreeOutline} (hbuild : t.build = .ok d)
    (hgiven : t.given[id]? = some attributes) (hlast : attributes.reverse.lookup key = some x) :
    d.graph.value id key = some x.render := by
  by_cases hloads : t.Loadable
  · obtain ⟨g, hg, hplanted⟩ := exists_build hloads
    cases Except.ok.inj (hbuild.symm.trans hg)
    obtain ⟨l, hl, hattributes⟩ := hplanted.holds.exists_label hgiven
    rw [show Graph.empty.size + id = id from Nat.zero_add id] at hl
    rw [Graph.value_of_label? hl, hattributes, hlast]
    rfl
  · obtain ⟨fault, hfault⟩ := build_refused hloads
    cases hbuild.symm.trans hfault

/-- The loaded graph keeps the text of the last value that the document gives to an attribute. -/
theorem Outline.value_of_given {o : Outline} (hbuild : o.build = .ok d)
    (hgiven : o.given[id]? = some attributes) (hlast : attributes.reverse.lookup key = some x) :
    d.graph.value id key = some x.render :=
  match o with
  | .graph _ => GraphOutline.value_of_given hbuild hgiven hlast
  | .tree _ => TreeOutline.value_of_given hbuild hgiven hlast

end GraphSelect
