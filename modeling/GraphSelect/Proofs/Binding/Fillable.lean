import GraphSelect.Proofs.Binding.Outcome
import GraphSelect.Proofs.Selector.Wider

/-!
# Records that can be filled

Whether a record can be filled is said of the nodes that the selectors of its table find: a field
for one node must not find two, what is there must be readable, and the records within must be
fillable from what is found for them. Nothing else decides whether binding succeeds. The fields
of a record that is given are those for which something is found and, unless a field takes all
that is found, what is found has something to give.
-/
namespace GraphSelect.Binder

/-- Whether a selector compiles and finds a node. -/
def Finds (registry : Registry) (s : Search) (root : NodeId) (selector : String) (node : NodeId) :
    Prop := ∃ p, registry.compile selector = .ok p ∧ node ∈ s.find p root

/-- Whether a record can be filled from a root: its selectors compile, a field for one node finds
one at most, what is there to be read is a value of its target, and the records within can be
filled from what is found for them. -/
inductive Fillable (registry : Registry) (reader : ValueReader) (schema : Schema) (s : Search) :
    (table : Nat) → (root : NodeId) → Prop
  | intro {table : Nat} {root : NodeId}
    (compiles : ∀ f ∈ schema.table table, ∃ p, registry.compile f.selector = .ok p)
    (single : ∀ f ∈ schema.table table, f.collection = false →
      ∀ node, Finds registry s root f.selector node →
        ∀ other, Finds registry s root f.selector other → node = other)
    (readable : ∀ f ∈ schema.table table, ∀ name target, f.source = .value name target →
      ∀ node, Finds registry s root f.selector node →
        ∀ raw, s.graph.value node name = some raw → ∃ v, reader.readAs target raw = .ok v)
    (nested : ∀ f ∈ schema.table table, ∀ inner, f.source = .element inner →
      ∀ node, Finds registry s root f.selector node →
        Fillable registry reader schema s inner node) :
    Fillable registry reader schema s table root

variable {registry : Registry} {reader : ValueReader} {schema : Schema} {g : Graph} {s : Search}
  {gives : Nat → NodeId → Bound → Prop} {node root : NodeId} {source : Source} {f : Field}
  {found : List NodeId} {depth table : Nat}

theorem exists_forall₂_iff {α β : Type} {R : α → β → Prop} {l : List α} :
    (∃ bs, List.Forall₂ R l bs) ↔ ∀ a ∈ l, ∃ b, R a b := by
  induction l with
  | nil => simp
  | cons a l ih =>
    rw [List.forall_mem_cons, ← ih]
    simp only [List.forall₂_cons_left_iff]
    constructor
    · rintro ⟨_, b, bs, hb, hbs, -⟩
      exact ⟨⟨b, hb⟩, bs, hbs⟩
    · rintro ⟨⟨b, hb⟩, bs, hbs⟩
      exact ⟨b :: bs, b, bs, hb, hbs, rfl⟩

theorem exists_takes_iff :
    (∃ taken, Takes reader g gives node source taken) ↔
      (∀ name target, source = .value name target → ∀ raw, g.value node name = some raw →
        ∃ v, reader.readAs target raw = .ok v) ∧
      ∀ inner, source = .element inner → ∃ v, gives inner node v := by
  cases source with
  | value name target =>
    simp only [Takes, Source.value.injEq, reduceCtorEq, false_imp_iff, implies_true, and_true]
    cases hraw : g.value node name with
    | none => simp [hraw]
    | some raw => simp [hraw, and_imp]
  | index => simp [Takes]
  | element inner => simp [Takes]

theorem exists_fillsFrom_iff (hfound : found.Nodup) :
    (∃ filled, FillsFrom reader g gives f found filled) ↔
      (f.collection = false → ∀ node ∈ found, ∀ other ∈ found, node = other) ∧
      ∀ node ∈ found, ∃ taken, Takes reader g gives node f.source taken := by
  cases found with
  | nil => simp [FillsFrom]
  | cons node rest =>
    cases hf : f.collection with
    | true =>
      simp only [FillsFrom, hf, if_true, ← exists_forall₂_iff]
      constructor
      · rintro ⟨_, taken, htaken, -⟩
        refine ⟨fun hfalse => ?_, taken, htaken⟩
        cases hfalse
      · rintro ⟨-, taken, htaken⟩
        exact ⟨_, taken, htaken, rfl⟩
    | false =>
      simp only [FillsFrom, hf, Bool.false_eq_true, if_false]
      constructor
      · rintro ⟨_, rfl, taken, htaken, -⟩
        simpa using ⟨taken, htaken⟩
      · rintro ⟨hsingle, htakes⟩
        obtain ⟨taken, htaken⟩ := htakes node List.mem_cons_self
        refine ⟨_, List.eq_nil_iff_forall_not_mem.2 fun other hother => ?_, taken, htaken, rfl⟩
        have hmem := List.mem_cons_of_mem node hother
        have hsame := hsingle trivial node List.mem_cons_self other hmem
        exact (List.nodup_cons.1 hfound).1 (hsame ▸ hother)

theorem exists_fills_iff :
    (∃ filled, Fills registry reader s gives root f filled) ↔
      (∃ p, registry.compile f.selector = .ok p) ∧
        (f.collection = false → ∀ node, Finds registry s root f.selector node →
          ∀ other, Finds registry s root f.selector other → node = other) ∧
        ∀ node, Finds registry s root f.selector node →
          ∃ taken, Takes reader s.graph gives node f.source taken := by
  cases hp : registry.compile f.selector with
  | error e => simp [Fills, hp]
  | ok p => simpa [Fills, Finds, hp] using exists_fillsFrom_iff (Search.nodup_find s p root)

theorem fillable_iff :
    Fillable registry reader schema s table root ↔
      ∀ f ∈ schema.table table, (∃ p, registry.compile f.selector = .ok p) ∧
        (f.collection = false → ∀ node, Finds registry s root f.selector node →
          ∀ other, Finds registry s root f.selector other → node = other) ∧
        ∀ node, Finds registry s root f.selector node →
          (∀ name target, f.source = .value name target →
            ∀ raw, s.graph.value node name = some raw → ∃ v, reader.readAs target raw = .ok v) ∧
          ∀ inner, f.source = .element inner → Fillable registry reader schema s inner node := by
  constructor
  · rintro ⟨hcompiles, hsingle, hreadable, hnested⟩ f hf
    exact ⟨hcompiles f hf, hsingle f hf, fun node hnode =>
      ⟨fun name target hsource => hreadable f hf name target hsource node hnode,
        fun inner hsource => hnested f hf inner hsource node hnode⟩⟩
  · intro h
    exact .intro (fun f hf => (h f hf).1) (fun f hf => (h f hf).2.1)
      (fun f hf name target hsource node hnode => ((h f hf).2.2 node hnode).1 name target hsource)
      (fun f hf inner hsource node hnode => ((h f hf).2.2 node hnode).2 inner hsource)

/-- A record whose nesting ends is given when it can be filled. -/
theorem exists_answer_record_iff (h : schema.EndsWithin depth table) :
    (∃ v, answer registry (record schema s reader depth table root) = .ok v) ↔
      Fillable registry reader schema s table root := by
  induction depth generalizing table root with
  | zero => exact h.elim
  | succ depth ih =>
    have hfields : (∃ v, answer registry (record schema s reader (depth + 1) table root) = .ok v) ↔
        ∀ f ∈ schema.table table, ∃ filled, Fills registry reader s
          (Gives registry (record schema s reader depth)) root f filled := by
      rw [← exists_forall₂_iff]
      simp only [answer_record_eq_ok_iff]
      constructor
      · rintro ⟨_, filled, hfilled, -⟩
        exact ⟨filled, hfilled⟩
      · rintro ⟨filled, hfilled⟩
        exact ⟨_, filled, hfilled, rfl⟩
    rw [hfields, fillable_iff]
    refine forall₂_congr fun f hf => ?_
    rw [exists_fills_iff]
    refine and_congr_right fun _ => and_congr_right fun _ => forall₂_congr fun node _ => ?_
    rw [exists_takes_iff]
    refine and_congr_right fun _ => forall₂_congr fun inner hinner => ?_
    exact ih (h inner ⟨f, hf, hinner⟩)

/-- Whether a node has something for a source. -/
def offers (g : Graph) (node : NodeId) : Source → Bool
  | .value name _ => (g.value node name).isSome
  | .index => (g.index node).isSome
  | .element _ => true

/-- Whether a field is filled: something is found for it and, unless it takes all that is found,
what is found has something for it. -/
def isFilled (registry : Registry) (s : Search) (root : NodeId) (f : Field) : Bool :=
  match registry.compile f.selector with
  | .error _ => false
  | .ok p =>
    let found := s.find p root
    !found.isEmpty && (f.collection || found.any (offers s.graph · f.source))

theorem Takes.isSome_eq {taken : Option Bound} (h : Takes reader g gives node source taken) :
    taken.isSome = offers g node source := by
  cases source with
  | value name target =>
    rw [Takes] at h
    cases hraw : g.value node name with
    | none =>
      rw [hraw] at h
      simp [offers, hraw, show taken = none from h]
    | some raw =>
      rw [hraw] at h
      obtain ⟨v, -, rfl⟩ := h
      simp [offers, hraw]
  | index => simp [offers, show taken = _ from h]
  | element inner =>
    obtain ⟨v, -, rfl⟩ := h
    rfl

theorem Fills.map_fst_eq {filled : Option (String × Bound)}
    (h : Fills registry reader s gives root f filled) :
    filled.map Prod.fst = if isFilled registry s root f then some f.name else none := by
  obtain ⟨p, hp, h⟩ := h
  simp only [isFilled, hp]
  cases hfound : s.find p root with
  | nil =>
    rw [hfound] at h
    simp [show filled = none from h]
  | cons node rest =>
    rw [hfound, FillsFrom] at h
    cases hf : f.collection with
    | true =>
      rw [hf, if_pos rfl] at h
      obtain ⟨taken, -, rfl⟩ := h
      simp
    | false =>
      rw [hf, if_neg (by simp)] at h
      obtain ⟨rfl, taken, htaken, rfl⟩ := h
      cases taken <;> simp [← htaken.isSome_eq]

theorem names_of_answer_record {v : Bound}
    (h : answer registry (record schema s reader depth table root) = .ok v) :
    ∃ fields, v = .record fields ∧ fields.map Prod.fst =
      ((schema.table table).filter (isFilled registry s root)).map Field.name := by
  cases depth with
  | zero => cases h
  | succ depth =>
    obtain ⟨filled, hfilled, rfl⟩ := answer_record_eq_ok_iff.1 h
    refine ⟨_, rfl, ?_⟩
    clear h
    generalize schema.table table = fields at hfilled
    induction hfilled with
    | nil => rfl
    | @cons f o fields filled hf _ ih =>
      have hname := hf.map_fst_eq
      rw [List.filterMap_cons, List.filter_cons]
      cases hg : isFilled registry s root f with
      | false =>
        rw [hg, if_neg (by simp), Option.map_eq_none_iff] at hname
        subst hname
        simpa using ih
      | true =>
        rw [hg, if_pos rfl, Option.map_eq_some_iff] at hname
        obtain ⟨⟨name, v⟩, rfl, hname⟩ := hname
        simpa using ⟨hname, ih⟩

end GraphSelect.Binder
