/-! # Readers of text

A reader takes characters off the front of a text and gives a value and what is left, or an error.
What is left is never longer than what was there, and the type of readers says so; a loop that
takes a character before it goes on therefore ends. Statements about readers are made through
`Scan.run`, which forgets the proof, and one equation per reader says what it does there. -/
namespace GraphSelect.Text

/-- What may be left of a text. -/
abbrev Rest (s : List Char) := { r : List Char // r.length ≤ s.length }

namespace Rest

def all (s : List Char) : Rest s := ⟨s, Nat.le_refl _⟩

def tail (c : Char) (s : List Char) : Rest (c :: s) := ⟨s, Nat.le_succ _⟩

def trans {s : List Char} (r : Rest s) (t : Rest r.1) : Rest s := ⟨t.1, Nat.le_trans t.2 r.2⟩

/-- What is left behind a first character is shorter than the whole. -/
theorem length_lt_cons (c : Char) {s : List Char} (r : Rest s) : r.1.length < (c :: s).length :=
  Nat.lt_succ_of_le r.2

end Rest

/-- Readers that give an `α` or fail with an `ε`. -/
def Scan (ε α : Type) := (s : List Char) → Except ε (α × Rest s)

namespace Scan

variable {ε α β : Type}

/-- The value and the remaining text, or the error. -/
def run (p : Scan ε α) (s : List Char) : Except ε (α × List Char) :=
  match p s with
  | .ok (a, r) => .ok (a, r.1)
  | .error e => .error e

def widen {s t : List Char} (h : s.length ≤ t.length) :
    Except ε (α × Rest s) → Except ε (α × Rest t)
  | .ok (a, r) => .ok (a, ⟨r.1, Nat.le_trans r.2 h⟩)
  | .error e => .error e

instance : Monad (Scan ε) where
  pure a s := .ok (a, ⟨s, Nat.le_refl _⟩)
  bind p f s :=
    match p s with
    | .ok (a, r) => widen r.2 (f a r.1)
    | .error e => .error e

/-- Fails with an error that depends on the text ahead. -/
def failAt (e : List Char → ε) : Scan ε α := fun s => .error (e s)

def fail (e : ε) : Scan ε α := failAt fun _ => e

/-- The text ahead; nothing is taken. -/
def ahead : Scan ε (List Char) := fun s => .ok (s, ⟨s, Nat.le_refl _⟩)

/-- The next character; nothing is taken. -/
def peek : Scan ε (Option Char) := fun s => .ok (s.head?, ⟨s, Nat.le_refl _⟩)

def drop (n : Nat) : Scan ε Unit := fun s => .ok ((), ⟨s.drop n, by simp⟩)

/-- Takes the longest run of characters that satisfy a predicate. -/
def takeWhile (p : Char → Bool) : Scan ε (List Char) := fun s =>
  .ok (s.takeWhile p, ⟨s.dropWhile p, (List.dropWhile_suffix p).length_le⟩)

/-- Takes the next character if it is the given one, and says whether it was. -/
def eat (c : Char) : Scan ε Bool := fun s =>
  if s.head? = some c then .ok (true, ⟨s.tail, by simp⟩) else .ok (false, ⟨s, Nat.le_refl _⟩)

/-- Takes a given text if it stands ahead, and says whether it did. -/
def eatAll (t : List Char) : Scan ε Bool := fun s =>
  if t.isPrefixOf s then .ok (true, ⟨s.drop t.length, by simp⟩)
  else .ok (false, ⟨s, Nat.le_refl _⟩)

def next (e : ε) : Scan ε Char
  | [] => .error e
  | c :: s => .ok (c, ⟨s, Nat.le_succ _⟩)

/-- Runs a reader until it gives nothing, and gathers what it gave before. A run that takes no
characters is the last one too. -/
def many (p : Scan ε (Option α)) : Scan ε (List α) := fun s =>
  match p s with
  | .error e => .error e
  | .ok (none, r) => .ok ([], r)
  | .ok (some a, r) =>
    if r.1.length < s.length then
      match many p r.1 with
      | .error e => .error e
      | .ok (as, t) => .ok (a :: as, ⟨t.1, Nat.le_trans t.2 r.2⟩)
    else .ok ([a], r)
termination_by s => s.length

/-- One or more items with commas between them, up to a closing character, which is taken too. -/
def commaList (e : ε) (item : Scan ε α) (close : Char) : Scan ε (List α) := fun s =>
  match item s with
  | .error e => .error e
  | .ok (_, ⟨[], _⟩) => .error e
  | .ok (a, ⟨c :: rest, h⟩) =>
    have hr : rest.length < s.length := h
    if c = ',' then
      match commaList e item close rest with
      | .error e => .error e
      | .ok (as, t) => .ok (a :: as, ⟨t.1, Nat.le_trans t.2 (Nat.le_of_lt hr)⟩)
    else if c = close then .ok ([a], ⟨rest, Nat.le_of_lt hr⟩)
    else .error e
termination_by s => s.length

@[simp] theorem run_pure (a : α) (s : List Char) : (pure a : Scan ε α).run s = .ok (a, s) := rfl

theorem run_bind (p : Scan ε α) (f : α → Scan ε β) (s : List Char) :
    (p >>= f).run s =
      match p.run s with
      | .ok (a, r) => (f a).run r
      | .error e => .error e := by
  simp only [run, bind]
  cases p s with
  | error e => rfl
  | ok x =>
    obtain ⟨a, r⟩ := x
    simp only [widen]
    cases f a r.1 <;> rfl

@[simp] theorem run_failAt (e : List Char → ε) (s : List Char) :
    (failAt e : Scan ε α).run s = .error (e s) := rfl

@[simp] theorem run_fail (e : ε) (s : List Char) : (fail e : Scan ε α).run s = .error e := rfl

@[simp] theorem run_ahead (s : List Char) : (ahead : Scan ε _).run s = .ok (s, s) := rfl

@[simp] theorem run_peek (s : List Char) : (peek : Scan ε _).run s = .ok (s.head?, s) := rfl

@[simp] theorem run_drop (n : Nat) (s : List Char) :
    (drop n : Scan ε _).run s = .ok ((), s.drop n) := rfl

@[simp] theorem run_takeWhile (p : Char → Bool) (s : List Char) :
    (takeWhile p : Scan ε _).run s = .ok (s.takeWhile p, s.dropWhile p) := rfl

@[simp] theorem run_eat (c : Char) (s : List Char) : (eat c : Scan ε _).run s =
    if s.head? = some c then .ok (true, s.tail) else .ok (false, s) := by
  simp only [run, eat]
  by_cases h : s.head? = some c <;> simp [h]

@[simp] theorem run_eatAll (t s : List Char) : (eatAll t : Scan ε _).run s =
    if t.isPrefixOf s then .ok (true, s.drop t.length) else .ok (false, s) := by
  simp only [run, eatAll]
  by_cases h : t.isPrefixOf s = true <;> simp only [h, if_true, if_false, Bool.false_eq_true]

@[simp] theorem run_next_nil (e : ε) : (next e).run [] = .error e := rfl

@[simp] theorem run_next_cons (e : ε) (c : Char) (s : List Char) :
    (next e).run (c :: s) = .ok (c, s) := rfl

theorem run_many (p : Scan ε (Option α)) (s : List Char) : (many p).run s =
    match p.run s with
    | .error e => .error e
    | .ok (none, r) => .ok ([], r)
    | .ok (some a, r) =>
      if r.length < s.length then
        match (many p).run r with
        | .error e => .error e
        | .ok (as, t) => .ok (a :: as, t)
      else .ok ([a], r) := by
  simp only [run]
  rw [many]
  cases p s with
  | error e => rfl
  | ok x =>
    obtain ⟨a, r⟩ := x
    cases a with
    | none => rfl
    | some a =>
      by_cases h : r.1.length < s.length
      · simp only [h, if_true]
        cases many p r.1 <;> rfl
      · simp only [h, if_false]

end Scan

end GraphSelect.Text
