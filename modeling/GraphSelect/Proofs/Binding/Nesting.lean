import GraphSelect.Binding.Table
import GraphSelect.Proofs.Graph.Subtree

/-!
# Records whose nesting ends

A table nests the tables of the records that its fields hold. Where no row of tables, each nested
in the one before it, goes on for ever, no table of such a row comes twice, and only known tables
nest others; so records are nested at most one deeper than the schema has tables.
-/
namespace GraphSelect.Schema

open Relation (TransGen)

variable {s : Schema} {inner outer table depth : Nat}

def Nests (s : Schema) (inner outer : Nat) : Prop :=
  ∃ f ∈ s.table outer, f.source = .element inner

/-- Whether the nesting of the records of a table ends. -/
def Ends (s : Schema) (table : Nat) : Prop := Acc s.Nests table

def EndsWithin (s : Schema) : (depth : Nat) → (table : Nat) → Prop
  | 0, _ => False
  | depth + 1, table => ∀ inner, s.Nests inner table → s.EndsWithin depth inner

theorem Nests.lt_length (h : s.Nests inner outer) : outer < s.length := by
  obtain ⟨f, hf, -⟩ := h
  by_contra hlt
  rw [Schema.table, List.getElem?_eq_none (Nat.le_of_not_lt hlt)] at hf
  cases hf

/-- Where the nesting ends, no table is nested in itself, over others or directly. -/
theorem Ends.not_transGen (h : s.Ends table) : ¬ TransGen s.Nests table table := by
  induction h with
  | intro table _ ih =>
    intro hcycle
    obtain ⟨inner, hway, hinner⟩ := TransGen.tail'_iff.1 hcycle
    exact ih inner hinner (.head' hinner hway)

/-- `path` holds tables around the table at hand. They are distinct, so there are only so many. -/
theorem Ends.endsWithin_of_path (h : s.Ends table) {path : List Nat} (hnodup : path.Nodup)
    (hlt : ∀ outer ∈ path, outer < s.length) (hnests : ∀ outer ∈ path, TransGen s.Nests table outer)
    (hdepth : s.length < depth + path.length) : s.EndsWithin depth table := by
  induction h generalizing path depth with
  | intro table h ih =>
    have hlen := Graph.length_le_of_nodup_of_lt hnodup hlt
    obtain ⟨k, rfl⟩ : ∃ k, depth = k + 1 := ⟨depth - 1, by omega⟩
    intro inner hinner
    have htable : table ∉ path := fun hm => Ends.not_transGen (.intro table h) (hnests table hm)
    have hnodup : (table :: path).Nodup := List.nodup_cons.2 ⟨htable, hnodup⟩
    refine ih inner hinner hnodup ?_ ?_ ?_
    · exact List.forall_mem_cons.2 ⟨hinner.lt_length, hlt⟩
    · refine List.forall_mem_cons.2 ⟨.single hinner, fun outer hm => ?_⟩
      exact .head hinner (hnests outer hm)
    · rw [List.length_cons]
      omega

/-- Where the nesting ends, it does so after as many tables as the schema has. -/
theorem Ends.endsWithin (h : s.Ends table) (hdepth : s.length < depth) :
    s.EndsWithin depth table :=
  h.endsWithin_of_path List.nodup_nil (List.forall_mem_nil _) (List.forall_mem_nil _) hdepth

end GraphSelect.Schema
