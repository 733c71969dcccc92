import GraphSelect.CommandLine.Config
import GraphSelect.Proofs.Toml.Document

/-!
# The configuration file

The file holds one line for each setting. A configuration whose format is a word and whose limit
fits in the integers of the file is written, and it is read back from what is written.
-/
namespace GraphSelect.CommandLine

open Text Toml

theorem Setting.word_name (s : Setting) : Word s.name.toList := by cases s <;> decide

theorem word_longName (s : Strategy) : Word (longName s).toList := by cases s <;> decide

theorem strategyOfName?_longName (s : Strategy) : strategyOfName? (longName s) = some s := by
  cases s <;> decide

namespace Config

variable {c : Config} {text : String}

/-- What a file can hold and give back. -/
structure Storable (c : Config) : Prop where
  format : Word c.format.toList
  nodeLimit : c.nodeLimit < signedBound

theorem storable_default : Storable {} := ⟨by decide, by decide⟩

def valueText (c : Config) : Setting → List Char
  | .format => (quote c.format).toList
  | .strategy => (quote (longName c.strategy)).toList
  | .nodeLimit => (toString c.nodeLimit).toList

def valueData (c : Config) : Setting → Data
  | .format => .text c.format
  | .strategy => .text (longName c.strategy)
  | .nodeLimit => .int c.nodeLimit

def entries (c : Config) : List Entry :=
  Setting.all.map fun s => ⟨s.name, c.valueText s, c.valueData s⟩

theorem Storable.written (hc : c.Storable) (s : Setting) :
    Written (c.valueText s) (c.valueData s) := by
  cases s with
  | format => exact written_quote hc.format
  | strategy => exact written_quote (word_longName c.strategy)
  | nodeLimit => exact written_toString hc.nodeLimit

theorem Storable.readable (hc : c.Storable) : ∀ e ∈ c.entries, e.Readable := by
  intro e he
  obtain ⟨s, -, rfl⟩ := List.mem_map.1 he
  exact ⟨s.word_name, hc.written s⟩

theorem nodup_entries (c : Config) : (c.entries.map Entry.name).Nodup := by
  have hnames : c.entries.map Entry.name = Setting.all.map Setting.name := by
    rw [entries, List.map_map]
    rfl
  rw [hnames]
  decide

theorem exists_toText (hc : c.nodeLimit < signedBound) : ∃ text, c.toText = .ok text := by
  rw [toText, if_neg (Nat.not_le.2 hc)]
  exact ⟨_, rfl⟩

theorem nodeLimit_lt_of_toText (h : c.toText = .ok text) : c.nodeLimit < signedBound := by
  rw [toText] at h
  split at h
  · cases h
  · next hlimit => exact Nat.not_le.1 hlimit

theorem toList_of_toText (h : c.toText = .ok text) : text.toList = Entry.document c.entries := by
  rw [toText, if_neg (Nat.not_le.2 (nodeLimit_lt_of_toText h))] at h
  cases h
  change (("format = " ++ quote c.format ++ "\n") ++
    ("strategy = " ++ quote (longName c.strategy) ++ "\n") ++
    ("node_limit = " ++ toString c.nodeLimit ++ "\n")).toList = _
  simp [Entry.document, entries, Setting.all, assignmentLine, Setting.name, valueText]

theorem field?_entries (c : Config) (s : Setting) :
    Data.field? (c.entries.map fun e => (e.name, e.data)) s.name = some (some (c.valueData s)) := by
  cases s <;> rfl

theorem ofData?_entries (c : Config) :
    ofData? (.record (c.entries.map fun e => (e.name, e.data))) = some c := by
  simp only [ofData?, fieldOr, field?_entries, valueData, strategyOfData?, strategyOfName?_longName]
  simp

theorem ofText_of_toText (hc : Word c.format.toList) (h : c.toText = .ok text) :
    ofText text = c := by
  have hreadable := Storable.readable ⟨hc, nodeLimit_lt_of_toText h⟩
  rw [ofText, read?_document (toList_of_toText h) hreadable c.nodup_entries, Option.bind_some,
    ofData?_entries]
  rfl

end Config

end GraphSelect.CommandLine
