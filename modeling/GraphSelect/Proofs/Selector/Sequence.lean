import GraphSelect.Proofs.Selector.Acceptance
import GraphSelect.Proofs.Selector.Embedding
import GraphSelect.Proofs.Selector.Evaluation

/-!
# Selectors in a row

Two selectors with blanks between them are one selector, whose stages are those of the first and
then those of the second. What the first selector ends with reads the same in front of a blank as
at the end of the text, and the slashes that the second one may begin with become part of the gap
between the segments. Such a selector finds what the second one finds from each node that the first
one finds.
-/
namespace GraphSelect

open Text

namespace Grammar

variable {registry : Registry} {Block : List Char → List Stage → Prop} {t u : List Char}
  {next : Option Char} {relation following : Relation} {stages rest : List Stage}

/-- Segments at the end of a text, with blanks behind them, go on in front of more blanks. -/
theorem Segments.before_blanks {z w : List Char}
    (h : Segments registry Block (z.head?.or none) relation t stages) (hw : Blanks w) :
    Segments registry Block (z ++ w).head? relation t stages := by
  cases z with
  | cons c z => exact h
  | nil => exact h.before (hw.stopsAt fun c hc => by simp [mayFollowIndex, hc])

theorem Segments.append {gap : List Char} (h : Segments registry Block gap.head? relation t stages)
    (hgap : Separator gap following) (hu : Segments registry Block next following u rest) :
    Segments registry Block next relation (t ++ gap ++ u) (stages ++ rest) := by
  induction h with
  | last ht => exact .more ht hgap hu
  | @more relation _ t between v _ _ ht hbetween _ ih =>
    rw [List.append_assoc (t ++ between), List.append_assoc (t ++ between)]
    exact .more ht hbetween ih

/-- Blanks and the slashes in front of a selector separate it from what stands before them. -/
theorem Lead.separator {lead w : List Char} (h : Lead lead relation) (hw : Blanks w)
    (hne : w ≠ []) : Separator (w ++ lead) relation := by
  cases h with
  | none =>
    rw [List.append_nil]
    exact .blanks hne hw
  | slash hb => exact .slash hw hb
  | slashes hb => exact .slashes hw hb

theorem SelectorOver.append {w : List Char} (ht : SelectorOver registry Block none t stages)
    (hw : Blanks w) (hne : w ≠ []) (hu : SelectorOver registry Block next u rest) :
    SelectorOver registry Block next (t ++ w ++ u) (stages ++ rest) := by
  obtain @⟨a, lead, t, z, _, _, ha, hlead, ht, hz⟩ := ht
  obtain @⟨b, follow, u, y, _, _, hb, hfollow, hu, hy⟩ := hu
  have hblanks : Blanks (z ++ w ++ b) := (hz.append hw).append hb
  have hgap := hfollow.separator hblanks (by simp [hne])
  have hhead : (z ++ w ++ b ++ follow).head? = (z ++ w).head? := by
    rw [List.append_assoc (z ++ w), List.head?_append_of_ne_nil _ (by simp [hne])]
  have hfirst := ht.before_blanks hw
  rw [← hhead] at hfirst
  have e : a ++ lead ++ t ++ z ++ w ++ (b ++ follow ++ u ++ y) =
      a ++ lead ++ (t ++ (z ++ w ++ b ++ follow) ++ u) ++ y := by
    simp only [List.append_assoc]
  rw [e]
  exact .mk ha hlead (hfirst.append hgap hu) hy

theorem IsSelector.append {levels : Nat} {w : List Char}
    (ht : IsSelector registry levels none t stages) (hw : Blanks w) (hne : w ≠ [])
    (hu : IsSelector registry levels next u rest) :
    IsSelector registry levels next (t ++ w ++ u) (stages ++ rest) := by
  cases levels with
  | zero => exact SelectorOver.append ht hw hne hu
  | succ levels => exact SelectorOver.append ht hw hne hu

end Grammar

namespace Registry

variable {registry : Registry} {s t w : String} {p q : Pattern}

/-- Two selectors with blanks between them compile to the stages of the first and then those of the
second, and find from a node what the second finds from each node that the first finds, with later
repetitions dropped. -/
theorem exists_compile_append (hs : registry.compile s = .ok p) (ht : registry.compile t = .ok q)
    (hw : w ≠ "") (hblanks : Blanks w.toList) (hlength : byteLength (s ++ w ++ t).toList ≤ 4096) :
    ∃ row, registry.compile (s ++ w ++ t) = .ok row ∧ row.stages = p.stages ++ q.stages ∧
      ∀ g : Graph, g.Built → ∀ (strategy : Strategy) (limit : Option Nat) (origin : NodeId),
        Search.find ⟨g, strategy, limit⟩ row origin =
          ((Search.find ⟨g, strategy, limit⟩ p origin).flatMap
            (Search.find ⟨g, strategy, limit⟩ q)).eraseDups := by
  have hs := (isSelector_of_compile hs).2.2
  have ht := (isSelector_of_compile ht).2.2
  have hne : w.toList ≠ [] := fun e => hw (String.toList_eq_nil_iff.1 e)
  have hrow := hs.append hblanks hne ht
  rw [← String.toList_append, ← String.toList_append] at hrow
  refine ⟨_, compile_of_isSelector hlength hrow, rfl, fun g hg strategy limit origin => ?_⟩
  by_cases ho : origin < g.size
  · rw [Search.find_eq_run _ _ ho]
    exact Search.run_append_eq_flatMap hg.forest.toLinked p q ho
  · rw [Search.find_eq_nil _ _ ho, Search.find_eq_nil _ _ ho]
    rfl

/-- Two steps through a graph of the shape of a diamond find its last node once, though both nodes
in the middle lead to it. -/
theorem exists_compile_diamond :
    let g := Graph.build [.add "a" .plain, .add "b" .plain, .add "c" .plain, .add "d" .plain,
      .connect 0 1, .connect 0 2, .connect 1 3, .connect 2 3]
    ∃ row, Registry.empty.compile ("/*" ++ " " ++ "/*") = .ok row ∧
      Search.find ⟨g, .depthFirst, some 1⟩ row 0 = [3] := by
  intro g
  have hstep : Grammar.IsSelector Registry.empty Limits.maxBlockDepth none "/*".toList
      [⟨.immediate, [.any]⟩] :=
    .mk (z := []) blanks_nil (.slash blanks_nil)
      (.last (.filters (by decide) (.last (.star (by decide))))) blanks_nil
  have hcompile := compile_of_isSelector (by decide) hstep
  have hblanks : Blanks " ".toList := by simp [Blanks, isBlank]
  obtain ⟨row, hrow, -, hfind⟩ :=
    exists_compile_append hcompile hcompile (by decide) hblanks (by decide)
  refine ⟨row, hrow, ?_⟩
  rw [hfind g ⟨_, rfl⟩]
  decide

end Registry

end GraphSelect
