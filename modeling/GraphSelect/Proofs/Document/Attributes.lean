import GraphSelect.Document.Build

/-!
# Attributes of loaded nodes

Both kinds of documents give attributes to a node right after it has been added, from left to
right, as texts. This always succeeds, and of several values of one name the last one stays.
-/
namespace GraphSelect

namespace Attributes

theorem get?_foldl_insert (a : Attributes) (pairs : List (String × String)) (key : String) :
    (pairs.foldl (fun a p => a.insert p.1 p.2) a).get? key =
      (pairs.reverse.lookup key).or (a.get? key) := by
  induction pairs generalizing a with
  | nil => rfl
  | cons p rest ih =>
    obtain ⟨k, v⟩ := p
    rw [List.foldl_cons, ih, get?_insert, List.reverse_cons, List.lookup_append]
    by_cases h : key = k
    · cases rest.reverse.lookup key <;> simp [h]
    · have hb : (key == k) = false := by simpa using h
      cases rest.reverse.lookup key <;> simp [h, hb, List.lookup_cons]

/-- Of several values of one name the last one counts. -/
theorem get?_ofList (pairs : List (String × String)) (key : String) :
    (ofList pairs).get? key = pairs.reverse.lookup key := by
  rw [ofList, get?_foldl_insert, get?_empty, Option.or_none]

end Attributes

def Scalar.texts (attributes : List (String × Scalar)) : List (String × String) :=
  attributes.map fun p => (p.1, p.2.render)

theorem Scalar.lookup_reverse_texts (attributes : List (String × Scalar)) (key : String) :
    (texts attributes).reverse.lookup key = (attributes.reverse.lookup key).map render := by
  rw [texts, ← List.map_reverse]
  induction attributes.reverse with
  | nil => rfl
  | cons p rest ih =>
    obtain ⟨k, v⟩ := p
    rw [List.map_cons, List.lookup_cons, List.lookup_cons, ih]
    cases h : key == k <;> simp

namespace Graph

theorem modify_push (g : Graph) (n : Node) (f : Node → Node) :
    (g.push n).modify g.size f = g.push (f n) := by
  ext id : 1
  rw [get?_modify, get?_push, get?_push]
  by_cases h : id = g.size
  · simp [h]
  · simp [h, Ne.symm h]

theorem setAttribute_push (g : Graph) (n : Node) (key value : String) :
    (g.push n).setAttribute g.size key value =
      .ok (g.push { n with attributes := n.attributes.insert key value }) := by
  have hmodify := modify_push g n fun n => { n with attributes := n.attributes.insert key value }
  rw [← hmodify, setAttribute, find, get?_push, if_pos rfl]
  rfl

theorem setScalars_push (g : Graph) (n : Node) (attributes : List (String × Scalar)) :
    (g.push n).setScalars g.size attributes =
      .ok (g.push { n with attributes :=
        (Scalar.texts attributes).foldl (fun a p => a.insert p.1 p.2) n.attributes }) := by
  induction attributes generalizing n with
  | nil => rfl
  | cons p rest ih =>
    rw [setScalars, List.foldlM_cons, setAttribute_push]
    exact ih _

end Graph

end GraphSelect
