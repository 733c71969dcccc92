import GraphSelect.Proofs.Binding.Nesting
import GraphSelect.Proofs.Binding.Steady

/-!
# What binding answers

What a field takes from a node, and what it is filled with, as relations that do not speak of
caches: `gives` says which records the nested tables give. Each step of binding succeeds with
exactly what the relation of the step allows. Where the nesting of a table ends, no failure comes
from the bound on the nesting.
-/
namespace GraphSelect.Binder

def Takes (reader : ValueReader) (g : Graph) (gives : Nat → NodeId → Bound → Prop) (node : NodeId) :
    Source → Option Bound → Prop
  | .value name target, taken =>
    match g.value node name with
    | none => taken = none
    | some raw => ∃ v, reader.readAs target raw = .ok v ∧ taken = some (.value v)
  | .index, taken => taken = (g.index node).map fun i => .value (.int i)
  | .element table, taken => ∃ v, gives table node v ∧ taken = some v

def FillsFrom (reader : ValueReader) (g : Graph) (gives : Nat → NodeId → Bound → Prop) (f : Field) :
    (found : List NodeId) → (filled : Option (String × Bound)) → Prop
  | [], filled => filled = none
  | node :: rest, filled =>
    if f.collection then
      ∃ taken, List.Forall₂ (Takes reader g gives · f.source) (node :: rest) taken ∧
        filled = some (f.name, .list (taken.filterMap id))
    else
      rest = [] ∧ ∃ taken, Takes reader g gives node f.source taken ∧
        filled = taken.map (f.name, ·)

def Fills (registry : Registry) (reader : ValueReader) (s : Search)
    (gives : Nat → NodeId → Bound → Prop) (root : NodeId) (f : Field)
    (filled : Option (String × Bound)) : Prop :=
  ∃ p, registry.compile f.selector = .ok p ∧
    FillsFrom reader s.graph gives f (s.find p root) filled

/-- Which records the steps for nested tables give. -/
def Gives (registry : Registry) (nested : Nat → NodeId → Step Bound) (table : Nat) (node : NodeId)
    (v : Bound) : Prop := answer registry (nested table node) = .ok v

variable {registry : Registry} {reader : ValueReader} {g : Graph} {s : Search} {schema : Schema}
  {node root : NodeId} {source : Source} {f : Field} {depth table : Nat}

theorem answer_compile_bind {α : Type} {selector : String} {k : Pattern → Step α}
    (hk : ∀ p, Steady registry (k p)) {a : α} :
    answer registry (compile selector >>= k) = .ok a ↔
      ∃ p, registry.compile selector = .ok p ∧ answer registry (k p) = .ok a := by
  rw [answer_bind_eq_ok_iff (steady_compile selector) hk, answer_compile]
  cases registry.compile selector <;> simp [Except.mapError]

section

variable {nested : Nat → NodeId → Step Bound}
  (hn : ∀ table node, Steady registry (nested table node))

include hn

theorem answer_take_eq_ok_iff {taken : Option Bound} :
    answer registry (take reader g nested node source) = .ok taken ↔
      Takes reader g (Gives registry nested) node source taken := by
  cases source with
  | value name target =>
    simp only [take, Takes]
    cases g.value node name with
    | none => simp [eq_comm]
    | some raw => cases hread : reader.readAs target raw <;> simp [hread, eq_comm]
  | index =>
    rw [take, answer_pure, Except.ok.injEq, Takes]
    cases g.index node <;> exact eq_comm
  | element table =>
    rw [take, answer_bind_eq_ok_iff (hn table node) fun v => steady_pure (some v)]
    simp [Takes, Gives, eq_comm]

theorem answer_fillFrom_eq_ok_iff {found : List NodeId} {filled : Option (String × Bound)} :
    answer registry (fillFrom reader g nested f found) = .ok filled ↔
      FillsFrom reader g (Gives registry nested) f found filled := by
  have htake := fun node => steady_take hn reader g node f.source
  cases found with
  | nil => cases f.collection <;> simp [fillFrom, FillsFrom, eq_comm]
  | cons node rest =>
    cases hf : f.collection with
    | true =>
      simp only [fillFrom, FillsFrom, hf, if_true]
      rw [answer_bind_eq_ok_iff (Steady.mapM htake _) fun taken => steady_pure _]
      simp only [answer_mapM_eq_ok_iff htake, answer_take_eq_ok_iff hn, answer_pure,
        Except.ok.injEq, eq_comm]
    | false =>
      cases rest with
      | nil =>
        simp only [fillFrom, FillsFrom, hf]
        rw [answer_bind_eq_ok_iff (htake node) fun taken => steady_pure _]
        simp [answer_take_eq_ok_iff hn, eq_comm]
      | cons _ _ => simp [fillFrom, FillsFrom, hf]

theorem answer_fill_eq_ok_iff {filled : Option (String × Bound)} :
    answer registry (fill s reader nested root f) = .ok filled ↔
      Fills registry reader s (Gives registry nested) root f filled := by
  rw [fill_eq, answer_compile_bind fun p => steady_fillFrom hn reader s.graph f _]
  simp only [answer_fillFrom_eq_ok_iff hn]
  rfl

end

theorem answer_record_eq_ok_iff {v : Bound} :
    answer registry (record schema s reader (depth + 1) table root) = .ok v ↔
      ∃ filled, List.Forall₂
        (Fills registry reader s (Gives registry (record schema s reader depth)) root)
        (schema.table table) filled ∧ v = .record (filled.filterMap id) := by
  have hn : ∀ table node, Steady registry (record schema s reader depth table node) :=
    steady_record schema s reader depth
  have hfill := fun f => steady_fill hn s reader root f
  rw [record, answer_bind_eq_ok_iff (Steady.mapM hfill _) fun filled => steady_pure _]
  simp only [answer_mapM_eq_ok_iff hfill, answer_fill_eq_ok_iff hn, answer_pure, Except.ok.injEq,
    eq_comm]

section

variable {nested : Nat → NodeId → Step Bound}
  (hn : ∀ table node, Steady registry (nested table node))
  (hends : ∀ inner, f.source = .element inner →
    ∀ node, answer registry (nested inner node) ≠ .error .endless)

include hn hends

theorem answer_take_ne_endless :
    answer registry (take reader g nested node f.source) ≠ .error .endless := by
  cases hsource : f.source with
  | value name target =>
    simp only [take]
    cases g.value node name with
    | none => simp
    | some raw => cases hread : reader.readAs target raw <;> simp [hread]
  | index => simp [take]
  | element inner =>
    rw [take, ne_eq, answer_bind_eq_error_iff (hn inner node) fun v => steady_pure (some v)]
    rintro (h | ⟨v, -, h⟩)
    · exact hends inner hsource node h
    · cases h

theorem answer_fillFrom_ne_endless {found : List NodeId} :
    answer registry (fillFrom reader g nested f found) ≠ .error .endless := by
  have htake := fun node => steady_take hn reader g node f.source
  have hne : ∀ node, answer registry (take reader g nested node f.source) ≠ .error .endless :=
    fun node => answer_take_ne_endless hn hends
  unfold fillFrom
  split
  · simp
  · rw [ne_eq, answer_bind_eq_error_iff (Steady.mapM htake _) fun taken => steady_pure _]
    rintro (h | ⟨taken, -, h⟩)
    · obtain ⟨node, -, h⟩ := exists_of_answer_mapM htake h
      exact hne node h
    · cases h
  · rw [ne_eq, answer_bind_eq_error_iff (htake _) fun taken => steady_pure _]
    rintro (h | ⟨taken, -, h⟩)
    · exact hne _ h
    · cases h
  · simp

theorem answer_fill_ne_endless :
    answer registry (fill s reader nested root f) ≠ .error .endless := by
  rw [fill_eq, ne_eq, answer_bind_eq_error_iff (steady_compile _) fun p =>
    steady_fillFrom hn reader s.graph f _, answer_compile]
  rintro (h | ⟨p, -, h⟩)
  · cases hp : registry.compile f.selector <;> rw [hp] at h <;> cases h
  · exact answer_fillFrom_ne_endless hn hends h

end

/-- Where the nesting ends, the bound on the nesting is no reason to fail. -/
theorem answer_record_ne_endless (h : schema.EndsWithin depth table) :
    answer registry (record schema s reader depth table root) ≠ .error .endless := by
  induction depth generalizing table root with
  | zero => exact h.elim
  | succ depth ih =>
    have hn : ∀ table node, Steady registry (record schema s reader depth table node) :=
      steady_record schema s reader depth
    have hfill := fun f => steady_fill hn s reader root f
    rw [record, ne_eq,
      answer_bind_eq_error_iff (Steady.mapM hfill _) fun filled => steady_pure _]
    rintro (hfail | ⟨filled, -, hfail⟩)
    · obtain ⟨f, hf, hfail⟩ := exists_of_answer_mapM hfill hfail
      exact answer_fill_ne_endless hn (fun inner hinner _ => ih (h inner ⟨f, hf, hinner⟩)) hfail
    · cases hfail

end GraphSelect.Binder
