import GraphSelect.Document.Basic
import GraphSelect.Proofs.Graph.Built
import GraphSelect.Proofs.Steps

/-!
# Loaded graphs

The graph of a document is made with the same calls as any other: nodes are added, attributes set,
links drawn and children added, and the first call that is refused ends the loading. So the graph
of a document that loads is a built one.
-/
namespace GraphSelect

variable {g g' : Graph} {id : NodeId}

namespace Graph

theorem built_empty : empty.Built := ⟨[], rfl⟩

theorem Built.run (hg : g.Built) {e : Edit} (h : e.run g = .ok g') : g'.Built := by
  obtain ⟨edits, rfl⟩ := hg
  refine ⟨edits ++ [e], ?_⟩
  rw [build, List.foldl_append]
  change e.apply (build edits) = g'
  rw [Edit.apply, h]

theorem Built.add (hg : g.Built) {name : String} {kind : Kind}
    (h : g.add name kind = .ok (g', id)) : g'.Built := by
  have hrun : (Edit.add name kind).run g = .ok g' := by
    rw [Edit.run, h]
    rfl
  exact hg.run hrun

theorem Built.setScalars (hg : g.Built) {attributes : List (String × Scalar)}
    (h : g.setScalars id attributes = .ok g') : g'.Built :=
  of_foldlM (fun _ p _ hb h => hb.run (e := .setAttribute id p.1 p.2.render) h) hg h

end Graph

namespace NodeOutline

variable {n : NodeOutline} {table table' : IdTable}

theorem built_setAttributes (hg : g.Built) (h : n.setAttributes g id = .ok g') : g'.Built := by
  obtain ⟨g₁, hattributes, h⟩ := bind_eq_ok_iff.1 h
  have hg₁ := hg.setScalars hattributes
  split at h
  · cases h
    exact hg₁
  · exact hg₁.run (e := .setAttribute id "id" n.id) h

theorem built_add (hg : g.Built) (h : n.add (g, table) = .ok (g', table')) : g'.Built := by
  obtain ⟨-, h⟩ := Graph.check_eq_ok_iff.1 h
  obtain ⟨⟨g₁, id⟩, hadd, h⟩ := bind_eq_ok_iff.1 h
  obtain ⟨g₂, hattributes, h⟩ := bind_eq_ok_iff.1 h
  cases h
  exact built_setAttributes (hg.add hadd) hattributes

theorem built_link (hg : g.Built) (h : n.link table g = .ok g') : g'.Built := by
  obtain ⟨source, -, h⟩ := bind_eq_ok_iff.1 h
  refine of_foldlM (fun g l g' hg h => ?_) hg h
  obtain ⟨target, -, h⟩ := bind_eq_ok_iff.1 h
  exact hg.run (e := .connect source target) h

end NodeOutline

theorem GraphOutline.built_build {o : GraphOutline} {d : Document} (h : o.build = .ok d) :
    d.graph.Built := by
  obtain ⟨-, h⟩ := Graph.check_eq_ok_iff.1 h
  obtain ⟨⟨g₁, table⟩, hnodes, h⟩ := bind_eq_ok_iff.1 h
  obtain ⟨g₂, hlinks, h⟩ := bind_eq_ok_iff.1 h
  have hg₁ : g₁.Built :=
    of_foldlM (p := fun s : Graph × IdTable => s.1.Built)
      (fun _ _ _ hg h => NodeOutline.built_add hg h) Graph.built_empty hnodes
  have hg₂ := of_foldlM (fun _ _ _ hg h => NodeOutline.built_link hg h) hg₁ hlinks
  split at h
  · obtain ⟨origin, -, h⟩ := bind_eq_ok_iff.1 h
    cases h
    exact hg₂
  · cases h
    exact hg₂

namespace TreeOutline

mutual

theorem built_add {binary : Bool} {root : NodeId} :
    ∀ (t : TreeOutline) {g g' : Graph}, g.Built → t.add binary g = .ok (g', root) → g'.Built
  | .node name attributes children ownBinary, g, g', hg, h => by
    rw [add] at h
    obtain ⟨⟨g₁, _⟩, hadd, h⟩ := bind_eq_ok_iff.1 h
    obtain ⟨g₂, hattributes, h⟩ := bind_eq_ok_iff.1 h
    obtain ⟨g₃, hbelow, h⟩ := bind_eq_ok_iff.1 h
    cases h
    exact built_addBelow children ((hg.add hadd).setScalars hattributes) hbelow

theorem built_addBelow {binary : Bool} {parent : NodeId} :
    ∀ (children : List TreeOutline) {g g' : Graph}, g.Built →
      addBelow binary parent g children = .ok g' → g'.Built
  | [], _, _, hg, h => by
    rw [addBelow] at h
    cases h
    exact hg
  | t :: rest, g, g', hg, h => by
    rw [addBelow] at h
    obtain ⟨⟨g₁, child⟩, ht, h⟩ := bind_eq_ok_iff.1 h
    obtain ⟨g₂, hchild, h⟩ := bind_eq_ok_iff.1 h
    have hg₂ := (built_add t hg ht).run (e := .addChild parent child) hchild
    exact built_addBelow rest hg₂ h

end

theorem built_build {t : TreeOutline} {d : Document} (h : t.build = .ok d) : d.graph.Built := by
  obtain ⟨⟨g, origin⟩, ht, h⟩ := bind_eq_ok_iff.1 h
  cases h
  exact built_add t Graph.built_empty ht

end TreeOutline

def Graph.Loaded (g : Graph) : Prop :=
  ∃ format text d, Document.parse format text = .ok d ∧ d.graph = g

theorem Graph.Loaded.built (hg : g.Loaded) : g.Built := by
  obtain ⟨format, text, d, h, rfl⟩ := hg
  unfold Document.parse at h
  split at h
  · next outline _ =>
    cases outline with
    | graph o => exact o.built_build h
    | tree t => exact t.built_build h
  · cases h

end GraphSelect
