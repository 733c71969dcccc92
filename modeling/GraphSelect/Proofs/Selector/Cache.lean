import GraphSelect.Proofs.Selector.Acceptance
import GraphSelect.Selector.Cache
import Mathlib.Data.Finset.Card
import Mathlib.Data.List.DropRight

/-!
# A cache does not show

A cache is used through two calls: a text is looked up, or the cache is cleared. Whatever calls
came before, a look-up answers what compiling the text answers. The numbers of the patterns say
which look-ups share one: those of the same text with no clearing between them. Both follow from
what one call keeps, that the kept patterns are those of their texts and carry different numbers,
all below the number of the next one.
-/
namespace GraphSelect.PatternCache

inductive Call
  | get (text : String)
  | clear
  deriving DecidableEq, Repr

def Call.text? : Call → Option String
  | get text => some text
  | clear => none

/-- The cache after a call. A look-up that fails leaves the cache as it was. -/
def Call.apply (c : PatternCache) : Call → PatternCache
  | get text =>
    match c.get text with
    | .ok (_, c') => c'
    | .error _ => c
  | clear => c.clear

def after (registry : Registry) (calls : List Call) : PatternCache :=
  calls.foldl Call.apply (ofRegistry registry)

/-- The texts that have been looked up since the last clearing, one for each look-up. -/
def sinceClear (calls : List Call) : List String :=
  (calls.rtakeWhile (· ≠ .clear)).filterMap Call.text?

def answer (c : PatternCache) (text : String) : Except Error SharedPattern :=
  (c.get text).map Prod.fst

theorem after_concat (registry : Registry) (calls : List Call) (call : Call) :
    after registry (calls ++ [call]) = call.apply (after registry calls) := by
  rw [after, List.foldl_append]
  rfl

theorem sinceClear_concat_get (calls : List Call) (text : String) :
    sinceClear (calls ++ [.get text]) = sinceClear calls ++ [text] := by
  rw [sinceClear, List.rtakeWhile_concat, if_pos (by simp), List.filterMap_append]
  rfl

theorem sinceClear_concat_clear (calls : List Call) : sinceClear (calls ++ [.clear]) = [] := by
  rw [sinceClear, List.rtakeWhile_concat, if_neg (by simp)]
  rfl

variable {c c' : PatternCache} {registry : Registry} {text other : String}
  {shared found : SharedPattern}

/-- A look-up that succeeds finds a kept pattern, or compiles one and keeps it under the next
number. -/
theorem get_eq_ok_iff :
    c.get text = .ok (shared, c') ↔
      c.entries.lookup text = some shared ∧ c' = c ∨
      c.entries.lookup text = none ∧ ∃ p, c.registry.compile text = .ok p ∧
        shared = ⟨c.next, p⟩ ∧
        c' = { c with entries := (text, shared) :: c.entries, next := c.next + 1 } := by
  unfold get
  cases hl : c.entries.lookup text with
  | some kept => simp [eq_comm]
  | none =>
    cases hp : c.registry.compile text with
    | error e => simp
    | ok p =>
      simp only [Except.ok.injEq, Prod.mk.injEq, reduceCtorEq, false_and, true_and, false_or]
      constructor
      · rintro ⟨rfl, rfl⟩
        exact ⟨p, rfl, rfl, rfl⟩
      · rintro ⟨_, rfl, rfl, rfl⟩
        exact ⟨rfl, rfl⟩

theorem get_eq_error_iff {e : Error} :
    c.get text = .error e ↔ c.entries.lookup text = none ∧ c.registry.compile text = .error e := by
  unfold get
  cases c.entries.lookup text with
  | some kept => simp
  | none => cases c.registry.compile text <;> simp

theorem answer_eq_ok_iff : c.answer text = .ok shared ↔ ∃ c', c.get text = .ok (shared, c') := by
  unfold answer
  cases c.get text with
  | error e => simp [Except.map]
  | ok p => simp [Except.map, Prod.ext_iff]

theorem answer_eq_error_iff {e : Error} : c.answer text = .error e ↔ c.get text = .error e := by
  unfold answer
  cases c.get text <;> simp [Except.map]

theorem apply_get (h : c.get text = .ok (shared, c')) : (Call.get text).apply c = c' := by
  simp only [Call.apply, h]

theorem apply_get_of_error {e : Error} (h : c.get text = .error e) :
    (Call.get text).apply c = c := by
  simp only [Call.apply, h]

theorem lookup_of_get (h : c.get text = .ok (shared, c')) (other : String) :
    c'.entries.lookup other = if other = text then some shared else c.entries.lookup other := by
  rcases get_eq_ok_iff.1 h with ⟨hl, rfl⟩ | ⟨-, p, -, -, rfl⟩
  · split
    · next e => rw [e, hl]
    · rfl
  · by_cases e : other = text
    · simp [e]
    · have hb : (other == text) = false := by simpa using e
      simp [List.lookup_cons, hb, e]

/-- The kept patterns are those of their texts, and are told apart by their numbers. -/
structure Sound (registry : Registry) (c : PatternCache) : Prop where
  registry_eq : c.registry = registry
  nodup : (c.entries.map Prod.fst).Nodup
  compiled : ∀ {text shared}, c.entries.lookup text = some shared →
    registry.compile text = .ok shared.pattern
  lt_next : ∀ {text shared}, c.entries.lookup text = some shared → shared.number < c.next
  number_inj : ∀ {text other shared found}, c.entries.lookup text = some shared →
    c.entries.lookup other = some found → shared.number = found.number → text = other

theorem lookup_eq_none_iff {entries : List (String × SharedPattern)} :
    entries.lookup text = none ↔ text ∉ entries.map Prod.fst := by
  rw [List.lookup_eq_none_iff]
  simp only [List.mem_map, not_exists, not_and, bne_iff_ne]
  exact ⟨fun h p hp e => h p hp e.symm, fun h p hp e => h p hp e.symm⟩

namespace Sound

theorem ofRegistry (registry : Registry) : Sound registry (PatternCache.ofRegistry registry) where
  registry_eq := rfl
  nodup := List.nodup_nil
  compiled h := by cases h
  lt_next h := by cases h
  number_inj h := by cases h

theorem clear (hc : Sound registry c) : Sound registry c.clear where
  registry_eq := hc.registry_eq
  nodup := List.nodup_nil
  compiled h := by cases h
  lt_next h := by cases h
  number_inj h := by cases h

/-- A look-up answers what compiling answers. -/
theorem map_pattern_answer (hc : Sound registry c) (text : String) :
    (c.answer text).map SharedPattern.pattern = registry.compile text := by
  unfold answer
  cases h : c.get text with
  | error e =>
    have hcompile := (get_eq_error_iff.1 h).2
    rw [hc.registry_eq] at hcompile
    rw [hcompile]
    rfl
  | ok p =>
    obtain ⟨shared, c'⟩ := p
    rcases get_eq_ok_iff.1 h with ⟨hl, -⟩ | ⟨-, p, hp, rfl, -⟩
    · rw [hc.compiled hl]
      rfl
    · rw [hc.registry_eq] at hp
      rw [hp]
      rfl

theorem isOk_compile (hc : Sound registry c) (text : String) :
    (registry.compile text).isOk = (c.get text).isOk := by
  rw [← hc.map_pattern_answer text, answer]
  cases c.get text <;> rfl

theorem get (hc : Sound registry c) (h : c.get text = .ok (shared, c')) : Sound registry c' := by
  rcases get_eq_ok_iff.1 h with ⟨-, rfl⟩ | ⟨hl, p, hp, hs, hc'⟩
  · exact hc
  have hlookup := lookup_of_get h
  rw [hc.registry_eq] at hp
  -- A pattern of the new cache is the new one, or an old one with a smaller number.
  have hcases : ∀ {t s}, c'.entries.lookup t = some s →
      t = text ∧ s = shared ∨ t ≠ text ∧ c.entries.lookup t = some s ∧ s.number < c.next := by
    intro t s ht
    rw [hlookup] at ht
    split at ht
    · next e => exact .inl ⟨e, (Option.some.inj ht).symm⟩
    · next e => exact .inr ⟨e, ht, hc.lt_next ht⟩
  have hnumber : shared.number = c.next := by rw [hs]
  have hnext : c'.next = c.next + 1 := by rw [hc']
  refine ⟨?_, ?_, fun {t s} ht => ?_, fun {t s} ht => ?_, fun {t u s r} ht hu e => ?_⟩
  · rw [hc']
    exact hc.registry_eq
  · rw [hc', List.map_cons, List.nodup_cons]
    exact ⟨lookup_eq_none_iff.1 hl, hc.nodup⟩
  · rcases hcases ht with ⟨rfl, rfl⟩ | ⟨-, hold, -⟩
    · rw [hp, hs]
    · exact hc.compiled hold
  · rcases hcases ht with ⟨-, rfl⟩ | ⟨-, -, hlt⟩ <;> omega
  · rcases hcases ht with ⟨rfl, rfl⟩ | ⟨-, hold, hlt⟩
    · rcases hcases hu with ⟨rfl, -⟩ | ⟨-, -, hlt⟩
      · rfl
      · omega
    · rcases hcases hu with ⟨-, rfl⟩ | ⟨-, hold', -⟩
      · omega
      · exact hc.number_inj hold hold' e

theorem apply (hc : Sound registry c) (call : Call) : Sound registry (call.apply c) := by
  cases call with
  | clear => exact hc.clear
  | get text =>
    cases h : c.get text with
    | error e =>
      rw [apply_get_of_error h]
      exact hc
    | ok p =>
      rw [apply_get h]
      exact hc.get h

theorem foldl (hc : Sound registry c) (calls : List Call) :
    Sound registry (calls.foldl Call.apply c) := by
  induction calls generalizing c with
  | nil => exact hc
  | cons call calls ih => exact ih (hc.apply call)

end Sound

theorem sound_after (registry : Registry) (calls : List Call) :
    Sound registry (after registry calls) := (Sound.ofRegistry registry).foldl calls

theorem mem_keys_of_get (h : c.get text = .ok (shared, c')) :
    other ∈ c'.entries.map Prod.fst ↔ other = text ∨ other ∈ c.entries.map Prod.fst := by
  rw [← not_iff_not, ← lookup_eq_none_iff, not_or, ← lookup_eq_none_iff, lookup_of_get h]
  split <;> simp [*]

/-- The kept texts are those that have been looked up with success since the last clearing. -/
theorem mem_keys_after (registry : Registry) (calls : List Call) (text : String) :
    text ∈ (after registry calls).entries.map Prod.fst ↔
      text ∈ sinceClear calls ∧ (registry.compile text).isOk := by
  induction calls using List.reverseRecOn with
  | nil => simp [after, PatternCache.ofRegistry, sinceClear]
  | append_singleton calls call ih =>
    have hc := sound_after registry calls
    rw [after_concat]
    cases call with
    | clear =>
      rw [sinceClear_concat_clear]
      simp [Call.apply, PatternCache.clear]
    | get asked =>
      rw [sinceClear_concat_get, List.mem_append, List.mem_singleton, or_and_right, ← ih]
      cases h : (after registry calls).get asked with
      | error e =>
        have hfail : (registry.compile asked).isOk = false := by rw [hc.isOk_compile, h]; rfl
        rw [apply_get_of_error h]
        refine (or_iff_left ?_).symm
        rintro ⟨rfl, hok⟩
        rw [hfail] at hok
        cases hok
      | ok p =>
        have hok : (registry.compile asked).isOk = true := by rw [hc.isOk_compile, h]; rfl
        rw [apply_get h, mem_keys_of_get h, or_comm]
        refine or_congr_right ⟨?_, And.left⟩
        rintro rfl
        exact ⟨rfl, hok⟩

theorem size_after (registry : Registry) (calls : List Call) :
    (after registry calls).size =
      ((sinceClear calls).filter fun t => (registry.compile t).isOk).toFinset.card := by
  have hnodup := (sound_after registry calls).nodup
  rw [size, ← List.length_map (f := Prod.fst), ← List.toFinset_card_of_nodup hnodup]
  congr 1
  ext text
  rw [List.mem_toFinset, List.mem_toFinset, List.mem_filter, mem_keys_after]

theorem next_le_apply (c : PatternCache) (call : Call) : c.next ≤ (call.apply c).next := by
  cases call with
  | clear => exact Nat.le_refl _
  | get text =>
    cases h : c.get text with
    | error e => rw [apply_get_of_error h]
    | ok p =>
      rw [apply_get h]
      rcases get_eq_ok_iff.1 h with ⟨-, e⟩ | ⟨-, _, -, -, e⟩ <;> simp [e]

theorem next_le_foldl (c : PatternCache) (calls : List Call) :
    c.next ≤ (calls.foldl Call.apply c).next := by
  induction calls generalizing c with
  | nil => exact Nat.le_refl _
  | cons call calls ih => exact Nat.le_trans (next_le_apply c call) (ih _)

/-- A pattern with an old number is kept after a call exactly when it was kept before, under the
same text, and the call is no clearing. -/
theorem lookup_apply_iff (call : Call) (hn : shared.number < c.next) :
    (call.apply c).entries.lookup text = some shared ↔
      call ≠ .clear ∧ c.entries.lookup text = some shared := by
  cases call with
  | clear => simp [Call.apply, PatternCache.clear]
  | get asked =>
    cases h : c.get asked with
    | error e => simp [apply_get_of_error h]
    | ok p =>
      obtain ⟨found, c'⟩ := p
      rw [apply_get h, lookup_of_get h]
      split
      · next e =>
        subst e
        rcases get_eq_ok_iff.1 h with ⟨hl, -⟩ | ⟨hl, _, -, hs, -⟩
        · simp [hl]
        · have hne : found ≠ shared := by
            rintro rfl
            rw [hs] at hn
            exact Nat.lt_irrefl _ hn
          simp [hl, hne]
      · simp

theorem lookup_foldl_iff (calls : List Call) (hn : shared.number < c.next) :
    (calls.foldl Call.apply c).entries.lookup text = some shared ↔
      .clear ∉ calls ∧ c.entries.lookup text = some shared := by
  induction calls generalizing c with
  | nil => simp
  | cons call calls ih =>
    have hn' := Nat.lt_of_lt_of_le hn (next_le_apply c call)
    rw [List.foldl_cons, ih hn', lookup_apply_iff call hn, List.mem_cons, not_or, ne_comm,
      and_left_comm, and_assoc]

/-- What is looked up after some calls has the number of an earlier pattern when it is that pattern,
and then the texts are the same and no clearing stands between. -/
theorem number_eq_iff (hc : Sound registry c) (hl : c.entries.lookup text = some shared)
    (calls : List Call) (hfound : (calls.foldl Call.apply c).answer other = .ok found) :
    (shared.number = found.number ↔ text = other ∧ .clear ∉ calls) ∧
      (shared.number = found.number → shared = found) := by
  have hn := hc.lt_next hl
  have hkept : .clear ∉ calls → (calls.foldl Call.apply c).entries.lookup text = some shared :=
    fun h => (lookup_foldl_iff calls hn).2 ⟨h, hl⟩
  obtain ⟨c', hget⟩ := answer_eq_ok_iff.1 hfound
  rcases get_eq_ok_iff.1 hget with ⟨hfind, -⟩ | ⟨hnone, p, -, hs, -⟩
  · have hsame : shared.number = found.number →
        (text = other ∧ .clear ∉ calls) ∧ shared = found := by
      intro e
      obtain ⟨hclear, hold⟩ := (lookup_foldl_iff calls (e ▸ hn)).1 hfind
      have htext := hc.number_inj hl hold e
      subst htext
      rw [hl] at hold
      exact ⟨⟨rfl, hclear⟩, Option.some.inj hold⟩
    refine ⟨⟨fun e => (hsame e).1, ?_⟩, fun e => (hsame e).2⟩
    rintro ⟨rfl, hclear⟩
    rw [hkept hclear] at hfind
    rw [Option.some.inj hfind]
  · have hlt : shared.number < found.number := by
      rw [hs]
      exact Nat.lt_of_lt_of_le hn (next_le_foldl c calls)
    have hne : shared.number ≠ found.number := Nat.ne_of_lt hlt
    refine ⟨⟨fun e => absurd e hne, ?_⟩, fun e => absurd e hne⟩
    rintro ⟨rfl, hclear⟩
    rw [hkept hclear] at hnone
    cases hnone

/-- After any calls on a new cache, looking up a text answers what compiling it answers, and leaves
the cache as it is when it fails. The cache holds as many patterns as different texts have been
looked up with success since it was last cleared. Two look-ups that succeed give the same pattern
when they ask for the same text and the cache is not cleared between them, and otherwise give
patterns of different numbers. -/
theorem answer_eq_compile (registry : Registry) (calls : List Call) :
    (∀ text, ((after registry calls).answer text).map SharedPattern.pattern =
        registry.compile text) ∧
      (∀ text e, (after registry calls).answer text = .error e →
        after registry (calls ++ [.get text]) = after registry calls) ∧
      (after registry calls).size =
        ((sinceClear calls).filter fun text => (registry.compile text).isOk).toFinset.card ∧
      ∀ text shared between other found, (after registry calls).answer text = .ok shared →
        (after registry (calls ++ .get text :: between)).answer other = .ok found →
        (shared.number = found.number ↔ text = other ∧ .clear ∉ between) ∧
          (shared.number = found.number → shared = found) := by
  have hc := sound_after registry calls
  refine ⟨hc.map_pattern_answer, fun text e he => ?_, size_after registry calls, ?_⟩
  · rw [after_concat]
    exact apply_get_of_error (answer_eq_error_iff.1 he)
  · intro text shared between other found hshared hfound
    obtain ⟨c', hget⟩ := answer_eq_ok_iff.1 hshared
    have hlookup : c'.entries.lookup text = some shared := by rw [lookup_of_get hget, if_pos rfl]
    have hafter : after registry (calls ++ .get text :: between) =
        between.foldl Call.apply c' := by
      rw [after, List.foldl_append, List.foldl_cons, ← after, apply_get hget]
    rw [hafter] at hfound
    exact number_eq_iff (hc.get hget) hlookup between hfound

/-- A star with a blank in front of it is another text, but gives an equal pattern; after a clearing
the star gives a new pattern. -/
theorem answer_star : ∃ star blank again,
    (after .empty []).answer "*" = .ok star ∧
    (after .empty [.get "*"]).answer " *" = .ok blank ∧
    (after .empty [.get "*", .get " *", .clear]).answer "*" = .ok again ∧
    (star.number ≠ blank.number ∧ star.pattern = blank.pattern) ∧
    (star.number ≠ again.number ∧ star.pattern = again.pattern) := by
  have hstages : ∀ a, Text.Blanks a → Grammar.IsSelector .empty Limits.maxBlockDepth none
      (a ++ [] ++ ['*'] ++ []) [⟨.descendant, [.any]⟩] := fun a ha =>
    .mk ha .none (.last (.filters (by decide) (.last (.star (by decide))))) Text.blanks_nil
  have hstar : Registry.empty.compile "*" = .ok ⟨"*", [⟨.descendant, [.any]⟩]⟩ :=
    Registry.compile_of_isSelector (by decide) (hstages [] Text.blanks_nil)
  have hblank : Registry.empty.compile " *" = .ok ⟨"*", [⟨.descendant, [.any]⟩]⟩ :=
    Registry.compile_of_isSelector (by decide) (hstages [' '] (by simp [Text.Blanks, Text.isBlank]))
  have hget : ∀ calls text p, Registry.empty.compile text = .ok p →
      ∃ shared, (after .empty calls).answer text = .ok shared ∧ shared.pattern = p := by
    intro calls text p hp
    have hanswer := (answer_eq_compile .empty calls).1 text
    rw [hp] at hanswer
    cases h : (after .empty calls).answer text with
    | error e => rw [h] at hanswer; cases hanswer
    | ok shared =>
      rw [h] at hanswer
      exact ⟨shared, rfl, Except.ok.inj hanswer⟩
  obtain ⟨star, hs, hsp⟩ := hget [] "*" _ hstar
  obtain ⟨blank, hb, hbp⟩ := hget [.get "*"] " *" _ hblank
  obtain ⟨again, ha, hap⟩ := hget [.get "*", .get " *", .clear] "*" _ hstar
  have hshare := (answer_eq_compile .empty []).2.2.2
  have hsb := (hshare "*" star [] " *" blank hs hb).1
  have hsa := (hshare "*" star [.get " *", .clear] "*" again hs ha).1
  refine ⟨star, blank, again, hs, hb, ha, ⟨?_, hsp.trans hbp.symm⟩, ?_, hsp.trans hap.symm⟩
  · rw [ne_eq, hsb]
    decide
  · rw [ne_eq, hsa]
    decide

end GraphSelect.PatternCache
