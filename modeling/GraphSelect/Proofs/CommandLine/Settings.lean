import GraphSelect.Proofs.CommandLine.ConfigFile
import GraphSelect.Proofs.Steps

/-!
# Giving values to settings

Each setting has its own values, and a value is shown in one way whatever way it was given in. A
value is given to a setting of the file exactly when it is one of these; the new file is then read
with this value, and with the values of the other settings as they were.
-/
namespace GraphSelect.CommandLine

open Text

variable {k : Setting} {name value shown text path : String} {c d : Config}
  {file : Option String} {force : Bool}

theorem Setting.name_injective : Function.Injective Setting.name := fun s t h =>
  Option.some.inj (by rw [← ofName?_name s, h, ofName?_name])

/-- What a setting is shown as where no value was given to it. -/
def Setting.default : Setting → String
  | format => "table"
  | strategy => "bfs"
  | nodeLimit => "100000"

/-- The values of a setting, and what each is shown as. -/
inductive Canonical : Setting → String → String → Prop
  | table : Canonical .format "table" "table"
  | json : Canonical .format "json" "json"
  | breadthFirst {value : String} (hv : value = "bfs" ∨ value = "breadthfirst") :
    Canonical .strategy value "bfs"
  | depthFirst {value : String} (hv : value = "dfs" ∨ value = "depthfirst") :
    Canonical .strategy value "dfs"
  | nodeLimit {value : String} {n : Nat} (hv : Numeral value.toList n) (hpos : 1 ≤ n)
    (hmax : n ≤ 0x7fffffffffffffff) : Canonical .nodeLimit value (toString n)

namespace Config

theorem get_default (k : Setting) : ({} : Config).get k = k.default := by
  cases k with
  | format => rfl
  | strategy => rfl
  | nodeLimit => decide

theorem word_table : Toml.Word "table".toList := by decide

theorem word_json : Toml.Word "json".toList := by decide

theorem readNatural_of_numeral {n : Nat} (hv : Numeral value.toList n)
    (hmax : n ≤ 0x7fffffffffffffff) : readNatural value.toList = some n :=
  readNatural_eq_some_iff.2 ⟨hv, Nat.lt_of_le_of_lt hmax (by decide)⟩

theorem set_nodeLimit {n : Nat} (h : readNatural value.toList = some n) (hpos : 1 ≤ n) :
    c.set value .nodeLimit = .ok { c with nodeLimit := n } := by
  obtain ⟨m, rfl⟩ := Nat.exists_eq_add_of_le' hpos
  simp only [set, h]

theorem set_of_canonical (h : Canonical k value shown) (hc : c.Storable) :
    ∃ d, c.set value k = .ok d ∧ d.Storable ∧ d.get k = shown := by
  cases h with
  | table => exact ⟨{ c with format := "table" }, rfl, ⟨word_table, hc.nodeLimit⟩, rfl⟩
  | json => exact ⟨{ c with format := "json" }, rfl, ⟨word_json, hc.nodeLimit⟩, rfl⟩
  | breadthFirst hv =>
    refine ⟨{ c with strategy := .breadthFirst }, ?_, ⟨hc.format, hc.nodeLimit⟩, rfl⟩
    rcases hv with rfl | rfl <;> rfl
  | depthFirst hv =>
    refine ⟨{ c with strategy := .depthFirst }, ?_, ⟨hc.format, hc.nodeLimit⟩, rfl⟩
    rcases hv with rfl | rfl <;> rfl
  | @nodeLimit _ n hv hpos hmax =>
    have hlimit : n < signedBound := Nat.lt_of_le_of_lt hmax (by decide)
    exact ⟨{ c with nodeLimit := n }, set_nodeLimit (readNatural_of_numeral hv hmax) hpos,
      ⟨hc.format, hlimit⟩, rfl⟩

theorem canonical_of_set (h : c.set value k = .ok d) (hd : d.nodeLimit < signedBound) :
    Canonical k value (d.get k) := by
  cases k with
  | format =>
    simp only [set, Bool.or_eq_true, decide_eq_true_eq] at h
    split at h
    · next hv =>
      cases h
      rcases hv with rfl | rfl
      · exact .table
      · exact .json
    · cases h
  | strategy =>
    simp only [set] at h
    split at h
    · next s hs =>
      cases h
      have hv := List.find?_some hs
      simp only [Bool.or_eq_true, decide_eq_true_eq] at hv
      cases s with
      | breadthFirst => exact .breadthFirst hv
      | depthFirst => exact .depthFirst hv
    · cases h
  | nodeLimit =>
    simp only [set] at h
    split at h
    · cases h
    · next n hpos hn =>
      cases h
      exact .nodeLimit (readNatural_eq_some_iff.1 hn).1 (Nat.one_le_iff_ne_zero.2 hpos)
        (Nat.le_of_lt_add_one hd)
    · cases h

theorem storable_of_set (h : c.set value k = .ok d) (hd : d.nodeLimit < signedBound)
    (hc : c.Storable) : d.Storable := by
  obtain ⟨d', hset, hstorable, -⟩ := set_of_canonical (canonical_of_set h hd) hc
  rw [h] at hset
  cases hset
  exact hstorable

end Config

theorem Canonical.unique {other : String} (h : Canonical k value shown)
    (h' : Canonical k value other) : shown = other := by
  obtain ⟨d, hset, -, rfl⟩ := Config.set_of_canonical h Config.storable_default
  obtain ⟨d', hset', -, rfl⟩ := Config.set_of_canonical h' Config.storable_default
  rw [hset] at hset'
  cases hset'
  rfl

namespace Config

theorem load_of_toText (hc : Toml.Word c.format.toList) (h : c.toText = .ok text) :
    load (some text) = c := ofText_of_toText hc h

theorem find_eq_ok_iff : find name = .ok k ↔ k.name = name := by
  constructor
  · intro h
    rw [find] at h
    split at h
    · next hs =>
      cases h
      exact Setting.name_of_ofName? hs
    · cases h
  · rintro rfl
    rw [find, Setting.ofName?_name]

theorem change_eq_ok_iff : change file name value = .ok text ↔
    ∃ k d, k.name = name ∧ (load file).set value k = .ok d ∧ d.toText = .ok text := by
  simp only [change, bind_eq_ok_iff, find_eq_ok_iff, exists_and_left]

structure Changed (file : Option String) (name value text : String) : Prop where
  exists_setting : ∃ k : Setting, k.name = name ∧ Canonical k value ((load (some text)).get k)
  others (t : Setting) (ht : t.name ≠ name) : (load (some text)).get t = (load file).get t
  storable : (load (some text)).Storable

theorem changed_of_change (h : change file name value = .ok text) (hfile : (load file).Storable) :
    Changed file name value text := by
  obtain ⟨k, d, rfl, hset, htext⟩ := change_eq_ok_iff.1 h
  have hlimit := nodeLimit_lt_of_toText htext
  have hstorable := storable_of_set hset hlimit hfile
  have hload := load_of_toText hstorable.format htext
  constructor
  · exact ⟨k, rfl, by rw [hload]; exact canonical_of_set hset hlimit⟩
  · intro t ht
    rw [hload]
    exact get_of_set hset fun htk => ht (congrArg Setting.name htk)
  · rw [hload]
    exact hstorable

/-- The file is changed exactly by the values of its settings. -/
theorem exists_change_iff (hfile : (load file).Storable) :
    (∃ text, change file name value = .ok text) ↔
      ∃ k shown, k.name = name ∧ Canonical k value shown := by
  constructor
  · rintro ⟨text, h⟩
    obtain ⟨k, hk, hv⟩ := (changed_of_change h hfile).exists_setting
    exact ⟨k, _, hk, hv⟩
  · rintro ⟨k, shown, hk, hv⟩
    obtain ⟨d, hset, hd, -⟩ := set_of_canonical hv hfile
    obtain ⟨text, htext⟩ := exists_toText hd.nodeLimit
    exact ⟨text, change_eq_ok_iff.2 ⟨k, d, hk, hset, htext⟩⟩

theorem create_eq_ok_iff : create path file force = .ok text ↔
    (force = true ∨ file = none) ∧ ({} : Config).toText = .ok text := by
  rw [create]
  split
  · next hkept =>
    rw [Bool.and_eq_true, Option.isSome_iff_ne_none, Bool.not_eq_true'] at hkept
    simp [hkept]
  · next hkept =>
    have hfree : force = true ∨ file = none := by
      cases force <;> cases file <;> simp_all
    simp [hfree]

theorem exists_create_iff :
    (∃ text, create path file force = .ok text) ↔ force = true ∨ file = none := by
  simp only [create_eq_ok_iff, exists_and_left]
  exact and_iff_left (exists_toText storable_default.nodeLimit)

end Config

end GraphSelect.CommandLine
