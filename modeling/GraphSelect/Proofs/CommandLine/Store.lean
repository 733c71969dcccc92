import GraphSelect.CommandLine.Run
import GraphSelect.Proofs.CommandLine.Settings

/-!
# The configuration as a store

A session is a row of command lines that begins without a configuration file. Each command line
finds the file that the one before it left. Seen from outside, the file is a store of settings: a
setting is shown with the last value that was given to it since the file was last written anew, or
with its default. A command that fails leaves the store as it is.
-/
namespace GraphSelect.CommandLine

variable {path name value shown text : String} {k : Setting} {c : Command} {force : Bool}
  {file : Option String} {r : Success}

/-- Whether a command that succeeds writes the configuration file. -/
def Command.writes : Command → Bool
  | setSetting _ _ | initConfig _ => true
  | _ => false

namespace Command

variable {s : Surroundings} {format : OutputFormat} {config : Config}

theorem run_getSetting (k : Setting) :
    (getSetting k.name).run s format config = .ok ⟨config.get k ++ "\n", none⟩ := by
  simp only [run, Config.find, Setting.ofName?_name]
  rfl

theorem run_setSetting_eq_ok_iff : (setSetting name value).run s format config = .ok r ↔
    ∃ text, Config.change s.config name value = .ok text ∧
      ⟨s!"Set {name} = {value}\n", some text⟩ = r := by
  simp only [run, bind_eq_ok_iff, mapError_eq_ok_iff, pure, Except.pure, Except.ok.injEq]

theorem run_initConfig_eq_ok_iff : (initConfig force).run s format config = .ok r ↔
    ∃ text, Config.create s.configPath s.config force = .ok text ∧
      ⟨s!"Created config file at {s.configPath}\n", some text⟩ = r := by
  simp only [run, bind_eq_ok_iff, mapError_eq_ok_iff, pure, Except.pure, Except.ok.injEq]

theorem config_of_run (hc : c.writes = false) (h : c.run s format config = .ok r) :
    r.config = none := by
  cases c with
  | query selector input depthFirst limit =>
    simp only [run, bind_eq_ok_iff] at h
    obtain ⟨d, -, pattern, -, nodes, -, h⟩ := h
    split at h <;> cases h <;> rfl
  | sort input =>
    simp only [run, bind_eq_ok_iff] at h
    obtain ⟨d, -, order, -, nodes, -, h⟩ := h
    cases h
    rfl
  | explain selector =>
    simp only [run, bind_eq_ok_iff] at h
    obtain ⟨pattern, -, h⟩ := h
    cases h
    rfl
  | getSetting name =>
    simp only [run, bind_eq_ok_iff] at h
    obtain ⟨k, -, h⟩ := h
    cases h
    rfl
  | functions | listSettings | configPath =>
    cases h
    rfl
  | setSetting name value => cases hc
  | initConfig force => cases hc

end Command

/-- A command line, with the text of the document that it names. -/
structure Turn where
  invocation : Invocation
  document : Option String

namespace Turn

def command (t : Turn) : Command := t.invocation.command

def result (t : Turn) (path : String) (file : Option String) : Except Failure Success :=
  t.invocation.run ⟨path, file, t.document⟩

def outcome (t : Turn) (path : String) (file : Option String) : Outcome :=
  .ofResult (t.result path file)

def leaves (t : Turn) (path : String) (file : Option String) : Option String :=
  (t.outcome path file).config.or file

variable {t : Turn}

theorem result_eq (t : Turn) (path : String) (file : Option String) :
    t.result path file = t.command.run ⟨path, file, t.document⟩
      (.ofName (t.invocation.format.getD (Config.load file).format)) (Config.load file) := rfl

theorem exitCode_eq_zero_iff :
    (t.outcome path file).exitCode = 0 ↔ ∃ r, t.result path file = .ok r := by
  rw [outcome]
  cases t.result path file <;> simp [Outcome.ofResult]

theorem leaves_of_ok (h : t.result path file = .ok r) : t.leaves path file = r.config.or file := by
  rw [leaves, outcome, h]
  rfl

theorem leaves_of_failure (h : (t.outcome path file).exitCode ≠ 0) :
    t.leaves path file = file := by
  rw [ne_eq, exitCode_eq_zero_iff] at h
  rw [leaves, outcome]
  cases hr : t.result path file with
  | ok r => exact absurd ⟨r, hr⟩ h
  | error f => rfl

theorem leaves_of_not_writes (h : t.command.writes = false) : t.leaves path file = file := by
  by_cases hcode : (t.outcome path file).exitCode = 0
  · obtain ⟨r, hr⟩ := exitCode_eq_zero_iff.1 hcode
    have hnone : r.config = none := Command.config_of_run h (by rwa [result_eq] at hr)
    rw [leaves_of_ok hr, hnone]
    rfl
  · exact leaves_of_failure hcode

theorem outcome_getSetting (ht : t.command = .getSetting k.name) :
    t.outcome path file = { exitCode := 0, output := (Config.load file).get k ++ "\n" } := by
  rw [outcome, result_eq, ht, Command.run_getSetting]
  rfl

theorem result_setSetting (ht : t.command = .setSetting name value) : t.result path file = .ok r ↔
    ∃ text, Config.change file name value = .ok text ∧
      ⟨s!"Set {name} = {value}\n", some text⟩ = r := by
  rw [result_eq, ht, Command.run_setSetting_eq_ok_iff]

theorem result_initConfig (ht : t.command = .initConfig force) : t.result path file = .ok r ↔
    ∃ text, Config.create path file force = .ok text ∧
      ⟨s!"Created config file at {path}\n", some text⟩ = r := by
  rw [result_eq, ht, Command.run_initConfig_eq_ok_iff]

theorem leaves_setSetting (ht : t.command = .setSetting name value)
    (h : Config.change file name value = .ok text) : t.leaves path file = some text :=
  leaves_of_ok ((result_setSetting ht).2 ⟨text, h, rfl⟩)

theorem leaves_initConfig (ht : t.command = .initConfig force)
    (h : Config.create path file force = .ok text) : t.leaves path file = some text :=
  leaves_of_ok ((result_initConfig ht).2 ⟨text, h, rfl⟩)

theorem exitCode_setSetting (ht : t.command = .setSetting name value) :
    (t.outcome path file).exitCode = 0 ↔ ∃ text, Config.change file name value = .ok text := by
  simp only [exitCode_eq_zero_iff, result_setSetting ht]
  exact ⟨fun ⟨_, text, htext, _⟩ => ⟨text, htext⟩, fun ⟨text, htext⟩ => ⟨_, text, htext, rfl⟩⟩

theorem exitCode_initConfig (ht : t.command = .initConfig force) :
    (t.outcome path file).exitCode = 0 ↔ ∃ text, Config.create path file force = .ok text := by
  simp only [exitCode_eq_zero_iff, result_initConfig ht]
  exact ⟨fun ⟨_, text, htext, _⟩ => ⟨text, htext⟩, fun ⟨text, htext⟩ => ⟨_, text, htext, rfl⟩⟩

end Turn

/-- The configuration file at some point of a session, and the commands that succeeded up to there,
the last first. -/
structure Session where
  file : Option String := none
  done : List Command := []

namespace Session

def next (path : String) (s : Session) (t : Turn) : Session where
  file := t.leaves path s.file
  done := if (t.outcome path s.file).exitCode = 0 then t.command :: s.done else s.done

/-- Runs command lines one after the other, where there is no configuration file at first. -/
def after (path : String) (turns : List Turn) : Session := turns.foldl (next path) {}

end Session

/-- The value last given to a name since the configuration was last written anew. The commands are
listed the last first. -/
def lastValue? (name : String) : List Command → Option String
  | [] => none
  | .initConfig _ :: _ => none
  | .setSetting n value :: earlier => if n = name then some value else lastValue? name earlier
  | _ :: earlier => lastValue? name earlier

/-- What a setting is shown as when some commands have succeeded. -/
def Holds (done : List Command) (k : Setting) (shown : String) : Prop :=
  match lastValue? k.name done with
  | some value => Canonical k value shown
  | none => shown = k.default

example : Holds [.setSetting "strategy" "breadthfirst", .initConfig true] .strategy "bfs" :=
  .breadthFirst (.inr rfl)

structure Session.IsStore (path : String) (s : Session) : Prop where
  /-- A setting is shown with its value or its default, which is one text. -/
  get (t : Turn) (k : Setting) (ht : t.command = .getSetting k.name) :
    ∃ shown, (∀ other, Holds s.done k other ↔ other = shown) ∧
      t.outcome path s.file = { exitCode := 0, output := shown ++ "\n" }
  set_succeeds (t : Turn) (name value : String) (ht : t.command = .setSetting name value) :
    (t.outcome path s.file).exitCode = 0 ↔ ∃ k shown, k.name = name ∧ Canonical k value shown
  init_succeeds (t : Turn) (force : Bool) (ht : t.command = .initConfig force) :
    (t.outcome path s.file).exitCode = 0 ↔ force = true ∨ s.file = none
  /-- There is a file when one was written. -/
  file_eq_none : s.file = none ↔ ∀ c ∈ s.done, c.writes = false
  /-- What fails, or only shows something, leaves the file as it is. -/
  unchanged (t : Turn) (ht : (t.outcome path s.file).exitCode ≠ 0 ∨ t.command.writes = false) :
    t.leaves path s.file = s.file
  /-- A value that is given to one setting, or refused, shows in no other. -/
  others (t u : Turn) (name value : String) (k : Setting) (ht : t.command = .setSetting name value)
    (hu : u.command = .getSetting k.name) (hk : k.name ≠ name) :
    u.outcome path (t.leaves path s.file) = u.outcome path s.file

variable {done : List Command}

theorem lastValue?_cons_of_not_writes (hc : c.writes = false) :
    lastValue? name (c :: done) = lastValue? name done := by
  cases c with
  | setSetting name value => cases hc
  | initConfig force => cases hc
  | _ => rfl

theorem Holds.of_not_writes (h : Holds done k shown) (hc : c.writes = false) :
    Holds (c :: done) k shown := by
  rwa [Holds, lastValue?_cons_of_not_writes hc]

theorem holds_setSetting (h : Canonical k value shown) :
    Holds (.setSetting k.name value :: done) k shown := by
  rwa [Holds, lastValue?, if_pos rfl]

theorem Holds.setSetting (h : Holds done k shown) (hk : k.name ≠ name) :
    Holds (.setSetting name value :: done) k shown := by
  rwa [Holds, lastValue?, if_neg (Ne.symm hk)]

theorem holds_initConfig (k : Setting) : Holds (.initConfig force :: done) k k.default := rfl

theorem Holds.unique {other : String} (h : Holds done k shown) (h' : Holds done k other) :
    other = shown := by
  unfold Holds at h h'
  split at h
  · next hvalue =>
    rw [hvalue] at h'
    exact h'.unique h
  · next hnone =>
    rw [hnone] at h'
    exact h'.trans h.symm

namespace Session

variable {s s' : Session} {t : Turn}

inductive GoesOn (s : Session) (c : Command) : Session → Prop
  | failed : GoesOn s c s
  | shown (hc : c.writes = false) : GoesOn s c ⟨s.file, c :: s.done⟩
  | set {name value text : String} (hc : c = .setSetting name value)
    (h : Config.change s.file name value = .ok text) : GoesOn s c ⟨some text, c :: s.done⟩
  | init {force : Bool} {text : String} (hc : c = .initConfig force)
    (h : ({} : Config).toText = .ok text) : GoesOn s c ⟨some text, c :: s.done⟩

theorem goesOn_next (path : String) (s : Session) (t : Turn) :
    s.GoesOn t.command (s.next path t) := by
  by_cases hcode : (t.outcome path s.file).exitCode = 0
  · have hnext : s.next path t = ⟨t.leaves path s.file, t.command :: s.done⟩ := by
      rw [next, if_pos hcode]
    rw [hnext]
    cases hc : t.command with
    | setSetting name value =>
      obtain ⟨text, htext⟩ := (Turn.exitCode_setSetting hc).1 hcode
      rw [Turn.leaves_setSetting hc htext]
      exact .set rfl htext
    | initConfig force =>
      obtain ⟨text, htext⟩ := (Turn.exitCode_initConfig hc).1 hcode
      rw [Turn.leaves_initConfig hc htext]
      exact .init rfl (Config.create_eq_ok_iff.1 htext).2
    | _ =>
      rw [Turn.leaves_of_not_writes (by rw [hc]; rfl)]
      exact .shown rfl
  · have hnext : s.next path t = s := by
      rw [next, if_neg hcode, Turn.leaves_of_failure hcode]
    rw [hnext]
    exact .failed

structure Sound (s : Session) : Prop where
  storable : (Config.load s.file).Storable
  holds (k : Setting) : Holds s.done k ((Config.load s.file).get k)
  file_eq_none : s.file = none ↔ ∀ c ∈ s.done, c.writes = false

theorem sound_start : Sound {} where
  storable := Config.storable_default
  holds k := Config.get_default k
  file_eq_none := ⟨fun _ => nofun, fun _ => rfl⟩

theorem file_eq_none_of_writes {file : Option String} (hc : c.writes) (hfile : file ≠ none) :
    file = none ↔ ∀ d ∈ c :: done, d.writes = false := by
  constructor
  · intro h
    exact absurd h hfile
  · intro h
    rw [h c List.mem_cons_self] at hc
    cases hc

theorem Sound.goesOn (hs : s.Sound) (h : s.GoesOn c s') : s'.Sound := by
  cases h with
  | failed => exact hs
  | shown hc =>
    refine ⟨hs.storable, fun k => (hs.holds k).of_not_writes hc, ?_⟩
    rw [List.forall_mem_cons, hs.file_eq_none]
    exact ⟨fun h => ⟨hc, h⟩, And.right⟩
  | @set name value text hc h =>
    subst hc
    -- The new file is read back: one setting has the new value, the others what the old file gave.
    obtain ⟨⟨k, rfl, hvalue⟩, hothers, hstorable⟩ := Config.changed_of_change h hs.storable
    refine ⟨hstorable, fun t => ?_, file_eq_none_of_writes rfl nofun⟩
    by_cases ht : t.name = k.name
    · obtain rfl := Setting.name_injective ht
      exact holds_setSetting hvalue
    · have hheld := hs.holds t
      rw [← hothers t ht] at hheld
      exact hheld.setSetting ht
  | @init force text hc h =>
    subst hc
    have hload := Config.load_of_toText Config.storable_default.format h
    refine ⟨?_, fun k => ?_, file_eq_none_of_writes rfl nofun⟩
    · rw [hload]
      exact Config.storable_default
    · rw [hload, Config.get_default]
      exact holds_initConfig k

theorem sound_after (path : String) (turns : List Turn) : (after path turns).Sound := by
  have hrun : ∀ s : Session, s.Sound → (turns.foldl (next path) s).Sound := by
    induction turns with
    | nil => exact fun s hs => hs
    | cons t turns ih => exact fun s hs => ih _ (hs.goesOn (goesOn_next path s t))
  exact hrun {} sound_start

theorem Sound.get (hs : s.Sound) (ht : t.command = .getSetting k.name) :
    ∃ shown, (∀ other, Holds s.done k other ↔ other = shown) ∧
      t.outcome path s.file = { exitCode := 0, output := shown ++ "\n" } := by
  refine ⟨(Config.load s.file).get k, fun other => ⟨(hs.holds k).unique, ?_⟩,
    Turn.outcome_getSetting ht⟩
  rintro rfl
  exact hs.holds k

theorem Sound.set_succeeds (hs : s.Sound) (ht : t.command = .setSetting name value) :
    (t.outcome path s.file).exitCode = 0 ↔ ∃ k shown, k.name = name ∧ Canonical k value shown := by
  rw [Turn.exitCode_setSetting ht, Config.exists_change_iff hs.storable]

/-- What is given to one setting, or refused, shows in no other. -/
theorem Sound.others {u : Turn} (hs : s.Sound) (ht : t.command = .setSetting name value)
    (hu : u.command = .getSetting k.name) (hk : k.name ≠ name) :
    u.outcome path (t.leaves path s.file) = u.outcome path s.file := by
  rw [Turn.outcome_getSetting hu, Turn.outcome_getSetting hu]
  by_cases hcode : (t.outcome path s.file).exitCode = 0
  · obtain ⟨text, htext⟩ := (Turn.exitCode_setSetting ht).1 hcode
    rw [Turn.leaves_setSetting ht htext, (Config.changed_of_change htext hs.storable).others k hk]
  · rw [Turn.leaves_of_failure hcode]

theorem Sound.isStore (hs : s.Sound) (path : String) : s.IsStore path where
  get _ _ ht := hs.get ht
  set_succeeds _ _ _ ht := hs.set_succeeds ht
  init_succeeds _ _ ht := by rw [Turn.exitCode_initConfig ht, Config.exists_create_iff]
  file_eq_none := hs.file_eq_none
  unchanged _ ht := ht.elim Turn.leaves_of_failure Turn.leaves_of_not_writes
  others _ _ _ _ _ ht hu hk := hs.others ht hu hk

/-- After every row of command lines, whatever they ask for, the configuration is a store. -/
theorem isStore_after (path : String) (turns : List Turn) : (after path turns).IsStore path :=
  (sound_after path turns).isStore path

end Session

end GraphSelect.CommandLine
