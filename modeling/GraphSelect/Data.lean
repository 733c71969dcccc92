/-! # Data

What a data document holds, whatever its format: the fields of records keep their order and may
be repeated, and it is for the reader of a record to say what that means. -/
namespace GraphSelect

inductive Data
  | null
  | bool (b : Bool)
  | int (i : Int)
  | float (x : Float)
  | text (s : String)
  | list (items : List Data)
  | record (fields : List (String × Data))
  deriving Inhabited, Repr

namespace Data

/-- The names of the fields in ascending order, each with its last value. -/
def sortFields (fields : List (String × Data)) : List (String × Data) :=
  let names := ((fields.map Prod.fst).mergeSort (· ≤ ·)).eraseDups
  names.filterMap fun n => (fields.reverse.lookup n).map (n, ·)

/-- The only field of a name, if there is one; a repeated field has no meaning. -/
def field? (fields : List (String × Data)) (name : String) : Option (Option Data) :=
  match fields.filter (·.1 = name) with
  | [] => some none
  | [(_, d)] => some (some d)
  | _ => none

/-- The members of a structure whose fields have the given names, where they are there: a record
gives them by name, and may hold other fields too, a list by position, and may hold no more. -/
def members? (names : List String) : Data → Option (List (Option Data))
  | record fields => names.mapM (field? fields)
  | list items =>
    if items.length ≤ names.length then
      some ((List.range names.length).map fun i => items[i]?)
    else none
  | _ => none

theorem mem_of_field? {fields : List (String × Data)} {name : String} {d : Data}
    (h : field? fields name = some (some d)) : ∃ n, (n, d) ∈ fields := by
  simp only [field?] at h
  split at h
  · simp at h
  · next n d' e =>
    obtain rfl : d' = d := by simpa using h
    exact ⟨n, (List.mem_filter.1 (e ▸ List.mem_cons_self)).1⟩
  · simp at h

private theorem mem_of_mapM_eq_some {α β : Type} {f : α → Option β} {l : List α} {r : List β}
    {b : β} (h : l.mapM f = some r) (hb : b ∈ r) : ∃ a ∈ l, f a = some b := by
  induction l generalizing r with
  | nil => simp_all
  | cons a l ih =>
    simp only [List.mapM_cons, Option.bind_eq_bind, Option.bind_eq_some_iff, Option.pure_def,
      Option.some.injEq] at h
    obtain ⟨b', hb', r', hr', rfl⟩ := h
    rcases List.mem_cons.1 hb with rfl | hb
    · exact ⟨a, List.mem_cons_self, hb'⟩
    · obtain ⟨a', ha', e⟩ := ih hr' hb
      exact ⟨a', List.mem_cons_of_mem _ ha', e⟩

/-- A member is smaller than the structure that holds it. -/
theorem sizeOf_lt_of_mem_members? {names : List String} {whole d : Data}
    {members : List (Option Data)} (h : whole.members? names = some members)
    (hd : some d ∈ members) : sizeOf d < sizeOf whole := by
  cases whole with
  | record fields =>
    obtain ⟨name, _, e⟩ := mem_of_mapM_eq_some h hd
    obtain ⟨n, hn⟩ := mem_of_field? e
    have := List.sizeOf_lt_of_mem hn
    simp only [Prod.mk.sizeOf_spec, record.sizeOf_spec] at this ⊢
    omega
  | list items =>
    simp only [members?] at h
    split at h
    · obtain rfl := Option.some.inj h
      obtain ⟨i, _, e⟩ := List.mem_map.1 hd
      have := List.sizeOf_lt_of_mem (List.mem_of_getElem? e)
      simp only [list.sizeOf_spec]
      omega
    · simp at h
  | _ => simp [members?] at h

end Data

end GraphSelect
