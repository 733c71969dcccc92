import GraphSelect.Binding.Binder
import GraphSelect.Proofs.Selector.Cache
import Mathlib.Data.List.Forall2

/-!
# The kept selectors of a binder do not show

A step of binding is steady when it answers the same with every cache that holds the patterns of
its texts, and leaves such a cache behind. Looking up a selector is steady, and steadiness goes
through sequences and lists of steps, so filling a record is steady. A binder therefore answers
what it would answer if it were new, whatever it has been asked before.
-/
namespace GraphSelect.Binder

open PatternCache (Sound)

variable {α β : Type} {registry : Registry}

def answer (registry : Registry) (m : Step α) : Except BindError α :=
  (m.run.run (.ofRegistry registry)).1

/-- Whether a step answers the same with all caches of a registry's patterns, and leaves one. -/
structure Steady (registry : Registry) (m : Step α) : Prop where
  fst_run : ∀ {c}, Sound registry c → (m.run.run c).1 = answer registry m
  sound : ∀ {c}, Sound registry c → Sound registry (m.run.run c).2

theorem run_bind (m : Step α) (f : α → Step β) (c : PatternCache) :
    (m >>= f).run.run c =
      match m.run.run c with
      | (.ok a, c') => (f a).run.run c'
      | (.error e, c') => (.error e, c') := by
  rw [ExceptT.run_bind, StateT.run_bind]
  rcases m.run.run c with ⟨_ | a, c'⟩ <;> rfl

@[simp] theorem answer_pure (a : α) : answer registry (pure a) = .ok a := rfl

@[simp] theorem answer_throw (e : BindError) :
    answer registry (throw e : Step α) = .error e := rfl

theorem steady_pure (a : α) : Steady registry (pure a) := ⟨fun _ => rfl, id⟩

theorem steady_throw (e : BindError) : Steady registry (throw e : Step α) := ⟨fun _ => rfl, id⟩

section

variable {m : Step α} {f : α → Step β} (hm : Steady registry m) (hf : ∀ a, Steady registry (f a))

include hm hf

theorem answer_bind :
    answer registry (m >>= f) = answer registry m >>= fun a => answer registry (f a) := by
  have hc := hm.sound (Sound.ofRegistry registry)
  unfold answer
  rw [run_bind]
  rcases h : m.run.run (.ofRegistry registry) with ⟨_ | a, c⟩
  · rfl
  · rw [h] at hc
    exact (hf a).fst_run hc

theorem Steady.bind : Steady registry (m >>= f) := by
  constructor
  all_goals
    intro c hc
    have hanswer := hm.fst_run hc
    have hsound := hm.sound hc
    rw [run_bind]
    rcases h : m.run.run c with ⟨_ | a, c'⟩
    all_goals rw [h] at hanswer hsound
  · rw [answer_bind hm hf, ← hanswer]
    rfl
  · rw [answer_bind hm hf, ← hanswer]
    exact (hf a).fst_run hsound
  · exact hsound
  · exact (hf a).sound hsound

theorem answer_bind_eq_ok_iff {b : β} :
    answer registry (m >>= f) = .ok b ↔
      ∃ a, answer registry m = .ok a ∧ answer registry (f a) = .ok b := by
  rw [answer_bind hm hf]
  cases answer registry m <;> simp [Bind.bind, Except.bind]

theorem answer_bind_eq_error_iff {e : BindError} :
    answer registry (m >>= f) = .error e ↔ answer registry m = .error e ∨
      ∃ a, answer registry m = .ok a ∧ answer registry (f a) = .error e := by
  rw [answer_bind hm hf]
  cases answer registry m <;> simp [Bind.bind, Except.bind]

end

section

variable {f : α → Step β} (hf : ∀ a, Steady registry (f a))

include hf

theorem Steady.mapM (l : List α) : Steady registry (l.mapM f) := by
  induction l with
  | nil => exact steady_pure []
  | cons a l ih =>
    rw [List.mapM_cons]
    exact (hf a).bind fun b => ih.bind fun bs => steady_pure (b :: bs)

theorem answer_mapM_eq_ok_iff {l : List α} {bs : List β} :
    answer registry (l.mapM f) = .ok bs ↔
      List.Forall₂ (fun a b => answer registry (f a) = .ok b) l bs := by
  induction l generalizing bs with
  | nil => simp [eq_comm]
  | cons a l ih =>
    have hl := Steady.mapM hf l
    have hrest := fun b => hl.bind fun bs => steady_pure (b :: bs)
    rw [List.mapM_cons, answer_bind_eq_ok_iff (hf a) hrest, List.forall₂_cons_left_iff]
    simp only [answer_bind_eq_ok_iff hl fun bs => steady_pure (_ :: bs), ih, answer_pure,
      Except.ok.injEq]
    constructor
    · rintro ⟨b, hb, bs, hbs, rfl⟩
      exact ⟨b, bs, hb, hbs, rfl⟩
    · rintro ⟨b, bs, hb, hbs, rfl⟩
      exact ⟨b, hb, bs, hbs, rfl⟩

/-- A list of steps fails where one of the steps fails. -/
theorem exists_of_answer_mapM {l : List α} {e : BindError}
    (h : answer registry (l.mapM f) = .error e) : ∃ a ∈ l, answer registry (f a) = .error e := by
  induction l with
  | nil => cases h
  | cons a l ih =>
    have hl := Steady.mapM hf l
    have hrest := fun b => hl.bind fun bs => steady_pure (b :: bs)
    rw [List.mapM_cons, answer_bind_eq_error_iff (hf a) hrest] at h
    rcases h with h | ⟨b, -, h⟩
    · exact ⟨a, List.mem_cons_self, h⟩
    · rcases (answer_bind_eq_error_iff hl fun bs => steady_pure (b :: bs)).1 h with h | ⟨_, -, h⟩
      · obtain ⟨a', hm, h⟩ := ih h
        exact ⟨a', List.mem_cons_of_mem a hm, h⟩
      · cases h

end

theorem run_compile (selector : String) (c : PatternCache) :
    (compile selector).run.run c =
      match c.get selector with
      | .ok (shared, c') => (.ok shared.pattern, c')
      | .error e => (.error (.pattern e), c) := by
  have hread : (compile selector).run.run c = ((match c.get selector with
      | .ok (shared, cache) => do
        set cache
        return shared.pattern
      | .error e => throw (.pattern e)) : Step Pattern).run.run c := rfl
  rw [hread]
  cases c.get selector <;> rfl

theorem fst_run_compile {c : PatternCache} (hc : Sound registry c) (selector : String) :
    ((compile selector).run.run c).1 = (registry.compile selector).mapError .pattern := by
  rw [run_compile, ← hc.map_pattern_answer, PatternCache.answer]
  cases c.get selector <;> rfl

theorem answer_compile (selector : String) :
    answer registry (compile selector) = (registry.compile selector).mapError .pattern :=
  fst_run_compile (Sound.ofRegistry registry) selector

theorem steady_compile (selector : String) : Steady registry (compile selector) := by
  refine ⟨fun hc => ?_, fun {c} hc => ?_⟩
  · rw [fst_run_compile hc, answer_compile]
  · rw [run_compile]
    cases h : c.get selector with
    | error e => exact hc
    | ok p => exact hc.get h

def fillFrom (reader : ValueReader) (g : Graph) (nested : Nat → NodeId → Step Bound) (f : Field)
    (found : List NodeId) : Step (Option (String × Bound)) :=
  match f.collection, found with
  | _, [] => return none
  | true, found => do
    let taken ← found.mapM fun node => take reader g nested node f.source
    return some (f.name, .list (taken.filterMap id))
  | false, [node] => return (← take reader g nested node f.source).map (f.name, ·)
  | false, found => throw (.ambiguous f.name f.selector found.length)

theorem fill_eq (s : Search) (reader : ValueReader) (nested : Nat → NodeId → Step Bound)
    (root : NodeId) (f : Field) :
    fill s reader nested root f =
      compile f.selector >>= fun p => fillFrom reader s.graph nested f (s.find p root) := rfl

section

variable {nested : Nat → NodeId → Step Bound}
  (hn : ∀ table node, Steady registry (nested table node))

include hn

theorem steady_take (reader : ValueReader) (g : Graph) (node : NodeId) (source : Source) :
    Steady registry (take reader g nested node source) := by
  cases source with
  | value name target =>
    simp only [take]
    split
    · exact steady_pure none
    · split
      · exact steady_pure _
      · exact steady_throw _
  | index => exact steady_pure _
  | element table => exact (hn table node).bind fun v => steady_pure (some v)

theorem steady_fillFrom (reader : ValueReader) (g : Graph) (f : Field) (found : List NodeId) :
    Steady registry (fillFrom reader g nested f found) := by
  have htake := fun node => steady_take hn reader g node f.source
  unfold fillFrom
  split
  · exact steady_pure none
  · exact (Steady.mapM htake _).bind fun taken => steady_pure _
  · exact (htake _).bind fun taken => steady_pure _
  · exact steady_throw _

theorem steady_fill (s : Search) (reader : ValueReader) (root : NodeId) (f : Field) :
    Steady registry (fill s reader nested root f) := by
  rw [fill_eq]
  exact (steady_compile f.selector).bind fun p => steady_fillFrom hn reader s.graph f _

end

theorem steady_record (schema : Schema) (s : Search) (reader : ValueReader) (depth table : Nat)
    (root : NodeId) : Steady registry (record schema s reader depth table root) := by
  induction depth generalizing table root with
  | zero => exact steady_throw .endless
  | succ depth ih =>
    refine (Steady.mapM (fun f => steady_fill ih s reader root f) _).bind fun filled => ?_
    exact steady_pure _

inductive Event
  | bind (schema : Schema) (g : Graph) (root : NodeId)
  | setReader (reader : ValueReader)
  | setStrategy (strategy : Strategy)

def Event.apply (b : Binder) : Event → Binder
  | .bind schema g root => (b.bind schema g root).2
  | .setReader reader => { b with reader }
  | .setStrategy strategy => { b with strategy }

/-- A new binder after a row of events. -/
def after (registry : Registry) (events : List Event) : Binder :=
  events.foldl Event.apply (ofRegistry registry)

theorem bind_eq (b : Binder) (schema : Schema) (g : Graph) (root : NodeId) :
    b.bind schema g root =
      let run := (record schema ⟨g, b.strategy, none⟩ b.reader (maxDepth schema g) 0 root).run.run
        b.patterns
      (run.1, { b with patterns := run.2 }) := rfl

theorem sound_apply {b : Binder} (hb : Sound registry b.patterns) (event : Event) :
    Sound registry (event.apply b).patterns := by
  cases event with
  | bind schema g root =>
    rw [Event.apply, bind_eq]
    exact (steady_record schema _ _ _ 0 root).sound hb
  | setReader | setStrategy => exact hb

theorem sound_after (registry : Registry) (events : List Event) :
    Sound registry (after registry events).patterns := by
  suffices h : ∀ b : Binder, Sound registry b.patterns →
      Sound registry (events.foldl Event.apply b).patterns from
    h (ofRegistry registry) (Sound.ofRegistry registry)
  intro b hb
  induction events generalizing b with
  | nil => exact hb
  | cons event events ih => exact ih _ (sound_apply hb event)

/-- Whatever has happened to a binder, it answers as a new one with its reader and its order. -/
theorem fst_bind_after (registry : Registry) (events : List Event) (schema : Schema) (g : Graph)
    (root : NodeId) :
    ((after registry events).bind schema g root).1 =
      answer registry (record schema ⟨g, (after registry events).strategy, none⟩
        (after registry events).reader (maxDepth schema g) 0 root) := by
  rw [bind_eq]
  exact (steady_record schema _ _ _ 0 root).fst_run (sound_after registry events)

end GraphSelect.Binder
