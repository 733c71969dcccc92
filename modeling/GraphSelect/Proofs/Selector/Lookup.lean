import GraphSelect.Proofs.Selector.Embedding
import GraphSelect.Proofs.Selector.SelectorAgreement

/-!
# Functions that a selector looks up

Two registries compile a text in the same way as long as they agree on the words that stand in front
of an opening parenthesis. A reader looks up whole words only: what stands in front of a snippet
ends between two words, because a word is taken as a whole and every other piece of a selector ends
with, or in front of, a character that is no part of a word. So both compilers are run side by side,
from one place between words to the next, up to the first function that only one of them knows.
-/
namespace GraphSelect

open Text Grammar
open Selector (Read Stop isIdentChar isQuote snippet? snippets)

variable {registry other : Registry}

/-- A whole word of a text stands directly in front of an opening parenthesis. -/
def Calls (text word : List Char) : Prop :=
  Identifier word ∧ ∃ u v, text = u ++ word ++ '(' :: v ∧ StopsAt isIdentChar u.getLast?

/-- An end of a text begins where no word goes on. -/
def BetweenWords (text s : List Char) : Prop :=
  ∃ u, text = u ++ s ∧ (StopsAt isIdentChar u.getLast? ∨ StopsAt isIdentChar s.head?)

namespace BetweenWords

variable {src s t r : List Char} {c : Char}

theorem self (src : List Char) : BetweenWords src src := ⟨[], rfl, .inl (stopsAt_none _)⟩

/-- Behind a piece that ends no word there is such a place, and where the piece ends in a word, when
the word ends too. -/
theorem append (h : BetweenWords src (c :: t ++ r))
    (ht : StopsAt isIdentChar (c :: t).getLast? ∨ StopsAt isIdentChar r.head?) :
    BetweenWords src r := by
  obtain ⟨u, rfl, -⟩ := h
  refine ⟨u ++ c :: t, by simp, ht.imp_left fun hlast => ?_⟩
  rwa [List.getLast?_append_of_ne_nil _ (List.cons_ne_nil c t)]

theorem skip (h : BetweenWords src (t ++ r)) (ht : ∀ c ∈ t, isIdentChar c = false) :
    BetweenWords src r := by
  cases t with
  | nil => exact h
  | cons c t => exact h.append (.inl fun d hd => ht d (List.mem_of_getLast? hd))

theorem skipChar (h : BetweenWords src (c :: r)) (hc : isIdentChar c = false) :
    BetweenWords src r :=
  h.append (t := []) (.inl ((stopsAt_some _ _).2 hc))

theorem skipBlanks (h : BetweenWords src s) : BetweenWords src (skipBlanks s) := by
  obtain ⟨a, hs, ha, -⟩ := exists_skipBlanks s
  rw [hs] at h
  exact h.skip fun c hc => Selector.isIdentChar_of_isBlank (ha c hc)

theorem calls {w : List Char} (h : BetweenWords src (w ++ '(' :: s)) (hw : Identifier w) :
    Calls src w := by
  obtain ⟨u, rfl, hu | hhead⟩ := h
  · exact ⟨hw, u, s, by simp, hu⟩
  · obtain ⟨c, w, rfl⟩ := List.exists_cons_of_ne_nil hw.1
    have hc := (stopsAt_some _ _).1 hhead
    rw [hw.2 c List.mem_cons_self] at hc
    cases hc

end BetweenWords

namespace Grammar

variable {Block : List Char → List Stage → Prop} {next : Option Char} {t : List Char}

theorem stopsAt_getLast?_of_quotedText {content : List Char} (h : QuotedText t content) :
    StopsAt isIdentChar t.getLast? := by
  obtain @⟨quote, s, content, hq, h⟩ := h
  have hlast : s.getLast? = some quote := by
    induction h with
    | close => rfl
    | escaped _ ih => simp [List.getLast?_cons, ih]
    | plain _ _ _ ih => simp [List.getLast?_cons, ih]
  rw [List.getLast?_cons, hlast]
  exact (stopsAt_some _ _).2 (Selector.isIdentChar_of_isQuote hq)

/-- A snippet ends no word, unless it is a word, which then ends there. -/
theorem Snippet.stopsAt {f : Filter} (h : Snippet registry Block next t f) :
    StopsAt isIdentChar t.getLast? ∨ StopsAt isIdentChar next := by
  cases h with
  | quoted ht => exact .inl (stopsAt_getLast?_of_quotedText ht)
  | word _ hnext => exact .inr hnext
  | star => exact .inl ((stopsAt_some _ _).2 rfl)
  | index _ _ _ hnext =>
    refine .inr (hnext.mono fun c hc => ?_)
    cases hfollow : mayFollowIndex c with
    | false => rfl
    | true => rw [isIdentChar_of_mayFollowIndex hfollow] at hc; cases hc
  | clause ht =>
    left
    cases ht <;> simp [List.getLast?_cons, List.getLast?_append, isIdentChar]
  | call => simp [List.getLast?_cons, List.getLast?_append, isIdentChar]
  | block => simp [List.getLast?_cons, List.getLast?_append, isIdentChar]

end Grammar

/-- Wherever the text calls a function that the first registry knows, the second one has the same
maker. -/
def Registry.CoveredIn (registry other : Registry) (src : List Char) : Prop :=
  ∀ name, Calls src name.toList →
    registry.find? name = none ∨ registry.find? name = other.find? name

/-- Two runs end alike: both in the same way, and at a place between words if they succeed, or the
first one at a call of a function that only the second registry knows. -/
inductive Alike {α : Type} (registry other : Registry) (src : List Char) :
    Except Stop (α × List Char) → Except Stop (α × List Char) → Prop
  | ok {a : α} {r : List Char} (hr : BetweenWords src r) :
      Alike registry other src (.ok (a, r)) (.ok (a, r))
  | error (stop : Stop) : Alike registry other src (.error stop) (.error stop)
  | unknown {name : String} {y : Except Stop (α × List Char)} (hcall : Calls src name.toList)
      (hnone : registry.find? name = none) (hsome : other.find? name ≠ none) :
      Alike registry other src (.error (.error (.unknownFunction name))) y

namespace Alike

variable {α β : Type} {src s r : List Char} {c : Char}

/-- A run by itself, of a reader that has nothing to look up. -/
theorem self {x : Except Stop (α × List Char)}
    (h : ∀ a r, x = .ok (a, r) → BetweenWords src r) : Alike registry other src x x := by
  cases x with
  | error stop => exact .error stop
  | ok x =>
    obtain ⟨a, r⟩ := x
    exact .ok (h a r rfl)

theorem bind {p q : Read α} {f g : α → Read β}
    (h : Alike registry other src (p.run s) (q.run s))
    (hfg : ∀ a r, p.run s = .ok (a, r) → BetweenWords src r →
      Alike registry other src ((f a).run r) ((g a).run r)) :
    Alike registry other src ((p >>= f).run s) ((q >>= g).run s) := by
  rw [Scan.run_bind, Scan.run_bind]
  generalize hx : p.run s = x at h hfg
  generalize q.run s = y at h
  cases h with
  | ok hr => exact hfg _ _ rfl hr
  | error stop => exact .error stop
  | unknown hcall hnone hsome => exact .unknown hcall hnone hsome

/-- The arguments of a call are read in the same way, and then the function is looked up. -/
theorem call (hcovered : registry.CoveredIn other src) {function : String} {start : List Char}
    (hcall : Calls src function.toList)
    (hend : ∀ f r, (Selector.callSnippet registry start function).run s = .ok (f, r) →
      BetweenWords src r) :
    Alike registry other src ((Selector.callSnippet registry start function).run s)
      ((Selector.callSnippet other start function).run s) := by
  by_cases hfind : registry.find? function = other.find? function
  · have hsame : Selector.callSnippet other start function =
        Selector.callSnippet registry start function := by
      unfold Selector.callSnippet Registry.resolve
      rw [hfind]
    rw [hsame]
    exact self hend
  · have hnone := (hcovered function hcall).resolve_right hfind
    have hsome : other.find? function ≠ none := fun h => hfind (hnone.trans h.symm)
    unfold Selector.callSnippet Registry.resolve
    rw [hnone, Scan.run_bind, Scan.run_bind]
    cases (Selector.callArguments start function).run s with
    | error stop => exact .error stop
    | ok => exact .unknown hcall hnone hsome

/-- What is read as a snippet ends at a place between words. -/
theorem betweenWords_of_snippet {Block : List Char → List Stage → Prop} {f : Filter}
    (hs : BetweenWords src (c :: s))
    (h : ∃ t, s = t ++ r ∧ Snippet registry Block r.head? (c :: t) f) : BetweenWords src r := by
  obtain ⟨t, rfl, ht⟩ := h
  exact BetweenWords.append hs ht.stopsAt

theorem run_wordSnippet (registry : Registry) (c : Char) (start s : List Char) :
    (Selector.wordSnippet registry c start).run s =
      if (s.dropWhile isIdentChar).head? = some '(' then
        (Selector.callSnippet registry start (String.ofList (c :: s.takeWhile isIdentChar))).run
          (s.dropWhile isIdentChar).tail
      else
        (Selector.lift (Regex.literal (String.ofList (c :: s.takeWhile isIdentChar))) >>= fun r =>
          pure (Filter.name r)).run (s.dropWhile isIdentChar) := by
  unfold Selector.wordSnippet
  rw [Scan.run_bind, Scan.run_takeWhile]
  dsimp only
  rw [Scan.run_bind, Scan.run_eat]
  by_cases hopen : (s.dropWhile isIdentChar).head? = some '('
  · rw [if_pos hopen, if_pos hopen]
    rfl
  · rw [if_neg hopen, if_neg hopen]
    rfl

theorem word (hcovered : registry.CoveredIn other src) (hc : isIdentChar c)
    (hs : BetweenWords src (c :: s)) :
    Alike registry other src ((Selector.wordSnippet registry c (c :: s)).run s)
      ((Selector.wordSnippet other c (c :: s)).run s) := by
  have hend : ∀ f r, (Selector.wordSnippet registry c (c :: s)).run s = .ok (f, r) →
      BetweenWords src r := by
    intro f r h
    have hsnippet : ∃ t, s = t ++ r ∧ Snippet registry (fun _ _ => False) r.head? (c :: t) f :=
      Selector.exists_wordSnippet hc h
    exact betweenWords_of_snippet hs hsnippet
  rw [run_wordSnippet] at hend ⊢
  rw [run_wordSnippet]
  split
  · next hopen =>
    rw [if_pos hopen] at hend
    obtain ⟨u, hu⟩ := List.head?_eq_some_iff.1 hopen
    have hword : Identifier (c :: s.takeWhile isIdentChar) :=
      ⟨List.cons_ne_nil _ _, List.forall_mem_cons.2 ⟨hc, fun _ => List.mem_takeWhile_imp⟩⟩
    refine call hcovered (BetweenWords.calls (s := u) ?_ (by simpa using hword)) hend
    rwa [String.toList_ofList, List.cons_append, ← hu, List.takeWhile_append_dropWhile]
  · next hopen =>
    rw [if_neg hopen] at hend
    exact self hend

def OnBlocks (registry other : Registry) (src : List Char)
    (block block' : List Char → Read Filter) : Prop :=
  ∀ s, BetweenWords src ('\x7b' :: s) →
    Alike registry other src ((block ('\x7b' :: s)).run s) ((block' ('\x7b' :: s)).run s)

section

variable {block block' : List Char → Read Filter} (hcovered : registry.CoveredIn other src)
  (hblock : OnBlocks registry other src block block')

include hcovered hblock

/-- Either no snippet stands ahead, or one does that both readers read alike. -/
theorem snippet (hs : BetweenWords src (c :: s)) :
    snippet? registry block c s = none ∧ snippet? other block' c s = none ∨
      ∃ p q, snippet? registry block c s = some p ∧ snippet? other block' c s = some q ∧
        Alike registry other src (p.run s) (q.run s) := by
  have hself : ∀ {p : Read Filter},
      (∀ f r, p.run s = .ok (f, r) →
        ∃ t, s = t ++ r ∧ Snippet registry (fun _ _ => False) r.head? (c :: t) f) →
      Alike registry other src (p.run s) (p.run s) :=
    fun h => self fun f r hrun => betweenWords_of_snippet hs (h f r hrun)
  unfold snippet?
  split
  · next hq => exact .inr ⟨_, _, rfl, rfl, hself fun _ _ => Selector.exists_quotedSnippet hq⟩
  · split
    · next hc => exact .inr ⟨_, _, rfl, rfl, word hcovered hc hs⟩
    · split
      · split
        · exact .inl ⟨rfl, rfl⟩
        · next hstar =>
          refine .inr ⟨_, _, rfl, rfl, hself fun f r h => ?_⟩
          cases h
          exact ⟨[], rfl, .star hstar⟩
      · exact .inr ⟨_, _, rfl, rfl, hself fun _ _ => Selector.exists_indexSnippet⟩
      · refine .inr ⟨_, _, rfl, rfl, hself fun f r h => ?_⟩
        obtain ⟨t, rfl, ht⟩ := Selector.exists_attributeSnippet h
        exact ⟨t, rfl, .clause ht⟩
      · exact .inr ⟨_, _, rfl, rfl, hblock s hs⟩
      · exact .inl ⟨rfl, rfl⟩

/-- Every snippet takes a character, so the rows end. -/
theorem snippets (hs : BetweenWords src s) :
    Alike registry other src ((snippets registry block).run s) ((snippets other block').run s) := by
  induction hn : s.length using Nat.strongRecOn generalizing s with
  | ind n ih =>
    cases s with
    | nil =>
      rw [Selector.run_snippets_nil, Selector.run_snippets_nil]
      exact .ok hs
    | cons c s =>
      rcases snippet hcovered hblock hs with ⟨hp, hq⟩ | ⟨p, q, hp, hq, h⟩
      · rw [Selector.run_snippets_cons, Selector.run_snippets_cons, hp, hq]
        exact .ok hs
      · rw [Cursor.run_snippets_of_eq_some hp, Cursor.run_snippets_of_eq_some hq]
        refine h.bind fun f r hrun hr => ?_
        have hlt : r.length < n := by
          have hle := Scan.length_le_of_run hrun
          rw [List.length_cons] at hn
          omega
        exact (ih _ hlt hr rfl).bind fun _ _ _ hr => .ok hr

omit hcovered hblock in
theorem stopsAt_of_isBoundary {inBlock : Bool} (h : Selector.isBoundary inBlock s) :
    StopsAt isIdentChar s.head? :=
  (Selector.stopsAt_of_isBoundary h).mono fun c hc => by
    simp [Selector.goesOn, Selector.startsSnippet, hc]

theorem segment {inBlock : Bool} {relation : Relation} (hs : BetweenWords src (c :: s)) :
    Alike registry other src ((Selector.segment registry block inBlock relation c).run s)
      ((Selector.segment other block' inBlock relation c).run s) := by
  unfold Selector.segment
  rw [Scan.run_ahead_bind, Scan.run_ahead_bind]
  split
  · next hstars =>
    obtain ⟨⟨rfl, hhead⟩, -⟩ : (c = '*' ∧ s.head? = some '*') ∧
        Selector.isBoundary inBlock s.tail := by simpa using hstars
    obtain ⟨u, rfl⟩ := List.head?_eq_some_iff.1 hhead
    exact .ok (hs.append (t := ['*']) (.inl ((stopsAt_some _ _).2 rfl)))
  · split
    · next hdot =>
      obtain ⟨rfl, hend⟩ : c = '.' ∧ Selector.isBoundary inBlock s := by simpa using hdot
      exact .ok (hs.append (t := []) (.inr (stopsAt_of_isBoundary hend)))
    · rcases snippet hcovered hblock hs with ⟨hp, hq⟩ | ⟨p, q, hp, hq, h⟩
      · rw [hp, hq]
        exact .error _
      · rw [hp, hq]
        refine h.bind fun f r _ hr => ?_
        exact (snippets hcovered hblock hr).bind fun _ _ _ hr => .ok hr

omit hcovered hblock in
theorem isIdentChar_of_mem_separator {gap : List Char} {relation : Relation}
    (h : Separator gap relation) : ∀ c ∈ gap, isIdentChar c = false := by
  have hblanks : ∀ {a : List Char}, Blanks a → ∀ c ∈ a, isIdentChar c = false :=
    fun ha c hc => Selector.isIdentChar_of_isBlank (ha c hc)
  have hslash : isIdentChar '/' = false := rfl
  cases h with
  | slash ha hb =>
    simp only [List.forall_mem_append, List.forall_mem_cons]
    exact ⟨hblanks ha, hslash, hblanks hb⟩
  | slashes ha hb =>
    simp only [List.forall_mem_append, List.forall_mem_cons]
    exact ⟨hblanks ha, hslash, hslash, hblanks hb⟩
  | blanks _ ha => exact hblanks ha

omit hcovered hblock in
theorem afterSegment {inBlock : Bool} (hs : BetweenWords src s) :
    Alike registry other src ((Selector.afterSegment inBlock).run s)
      ((Selector.afterSegment inBlock).run s) := by
  refine self fun o r h => ?_
  rcases Selector.exists_afterSegment h with ⟨-, z, rfl, hz, -⟩ | ⟨_, gap, -, rfl, hgap⟩
  · exact hs.skip fun c hc => Selector.isIdentChar_of_isBlank (hz c hc)
  · exact hs.skip (isIdentChar_of_mem_separator hgap)

/-- Every segment takes a character, so the rows end. -/
theorem segments {inBlock : Bool} {relation : Relation} (hs : BetweenWords src s) :
    Alike registry other src ((Selector.segments registry block inBlock relation).run s)
      ((Selector.segments other block' inBlock relation).run s) := by
  induction hn : s.length using Nat.strongRecOn generalizing s relation with
  | ind n ih =>
    have hskip := hs.skipBlanks
    have hle := length_skipBlanks_le s
    cases hskipped : Text.skipBlanks s with
    | nil =>
      rw [Selector.run_segments, Selector.run_segments, hskipped]
      exact .error _
    | cons c u =>
      rw [hskipped] at hskip hle
      cases hcloses : Selector.closes inBlock (c :: u) with
      | true =>
        rw [Selector.run_segments, Selector.run_segments, hskipped]
        dsimp only
        rw [hcloses, if_pos rfl, if_pos rfl]
        exact .error _
      | false =>
        rw [Cursor.run_segments_of_eq_cons hskipped hcloses,
          Cursor.run_segments_of_eq_cons hskipped hcloses]
        refine (segment hcovered hblock hskip).bind fun stage r hrun hr => ?_
        have hlength : r.length < (c :: u).length := Nat.lt_succ_of_le (Scan.length_le_of_run hrun)
        refine (afterSegment hr).bind fun next v hgap hv => ?_
        cases next with
        | none => exact .ok hv
        | some next =>
          have hlt : v.length < n := by
            have hle := Scan.length_le_of_run hgap
            omega
          exact (ih _ hlt hv rfl).bind fun _ _ _ hw => .ok hw

theorem selectorWith {inBlock : Bool} (hs : BetweenWords src s) :
    Alike registry other src ((Selector.selectorWith registry block inBlock).run s)
      ((Selector.selectorWith other block' inBlock).run s) := by
  unfold Selector.selectorWith
  have hblanks : Alike registry other src (Selector.blanks.run s) (Selector.blanks.run s) :=
    .ok hs.skipBlanks
  refine hblanks.bind fun _ r _ hr => ?_
  rw [Scan.run_ahead_bind, Scan.run_ahead_bind]
  split
  · split
    · exact .error _
    · exact .error _
  · refine (self fun o v h => ?_).bind fun relation v _ hv => segments hcovered hblock hv
    rcases Selector.run_separator_cases h with ⟨rfl, -⟩ | ⟨rfl, -⟩ | ⟨rfl, -, -⟩
    · exact (hr.skipChar rfl).skipChar rfl
    · exact hr.skipChar rfl
    · exact hr

end

theorem blockOf {inner inner' : Read (List Stage)}
    (h : ∀ s, BetweenWords src s → Alike registry other src (inner.run s) (inner'.run s)) :
    OnBlocks registry other src (Selector.blockOf inner) (Selector.blockOf inner') := by
  intro s hs
  have hbehind : BetweenWords src s := hs.skipChar rfl
  unfold Selector.blockOf
  rw [Scan.run_ahead_bind, Scan.run_ahead_bind]
  refine (h s hbehind).bind fun stages r _ hr => ?_
  rw [Scan.run_ahead_bind]
  refine self fun f v hrun => ?_
  rcases Scan.run_eat_bind_eq_ok_iff.1 hrun with ⟨u, rfl, hend⟩ | ⟨-, hend⟩
  · cases hend
    exact hr.skipChar rfl
  · cases hend

/-- The levels of blocks are gone down on both sides at once. -/
theorem selector (hcovered : registry.CoveredIn other src) (levels : Nat) (inBlock : Bool)
    (hs : BetweenWords src s) :
    Alike registry other src ((Selector.selector registry levels inBlock).run s)
      ((Selector.selector other levels inBlock).run s) := by
  induction levels generalizing inBlock s with
  | zero => exact selectorWith hcovered (fun _ _ => .error _) hs
  | succ levels ih => exact selectorWith hcovered (blockOf fun _ => ih true) hs

end Alike

namespace Registry

variable {text : String}

/-- Compiling ends in the same way, or with a function that only the second registry knows. -/
theorem compile_eq_or_unknown (hcovered : registry.CoveredIn other text.toList) :
    registry.compile text = other.compile text ∨
      ∃ name, Calls text.toList name.toList ∧ registry.find? name = none ∧
        other.find? name ≠ none ∧ registry.compile text = .error (.unknownFunction name) := by
  by_cases hlength : byteLength text.toList ≤ Limits.maxSelectorLength
  · have h := Alike.selector hcovered Limits.maxBlockDepth false (BetweenWords.self text.toList)
    rw [compile_eq hlength, compile_eq hlength]
    generalize (Selector.selector registry Limits.maxBlockDepth false).run text.toList = x at h
    generalize (Selector.selector other Limits.maxBlockDepth false).run text.toList = y at h
    cases h with
    | ok => exact .inl rfl
    | error => exact .inl rfl
    | unknown hcall hnone hsome => exact .inr ⟨_, hcall, hnone, hsome, rfl⟩
  · left
    have hlong : ∀ r : Registry, r.compile text =
        .error (.selectorTooLong (byteLength text.toList) Limits.maxSelectorLength) := by
      intro r
      unfold compile Limits.checkSelector
      dsimp only
      rw [if_neg hlength]
      rfl
    rw [hlong, hlong]

theorem find?_register (registry : Registry) {name word : String} (maker : Maker)
    (hne : word ≠ name) : (registry.register name maker).find? word = registry.find? word := by
  have hlookup : ∀ entries : List (String × Maker),
      (entries.filter (·.1 ≠ name)).lookup word = entries.lookup word := by
    intro entries
    induction entries with
    | nil => rfl
    | cons entry entries ih =>
      obtain ⟨key, made⟩ := entry
      by_cases hkey : key = name
      · have hword : (word == key) = false := beq_eq_false_iff_ne.2 (hkey ▸ hne)
        rw [List.filter_cons_of_neg (by simpa using hkey), ih, List.lookup_cons, hword]
      · rw [List.filter_cons_of_pos (by simpa using hkey), List.lookup_cons, List.lookup_cons, ih]
  have hword : (word == name) = false := beq_eq_false_iff_ne.2 hne
  unfold find? register
  rw [List.lookup_cons, hword, hlookup]

theorem find?_foldl_register {added : List (String × Maker)} {word : String}
    (hne : ∀ entry ∈ added, word ≠ entry.1) :
    (added.foldl (fun r entry => r.register entry.1 entry.2) registry).find? word =
      registry.find? word := by
  induction added generalizing registry with
  | nil => rfl
  | cons entry added ih =>
    obtain ⟨hfirst, hrest⟩ := List.forall_mem_cons.1 hne
    rw [List.foldl_cons, ih hrest, find?_register registry entry.2 hfirst]

/-- A registry influences compiling through the functions that a text calls and through nothing
else: with another registry that agrees on the whole words in front of opening parentheses, a text
is compiled to the same pattern or refused with the same error. A text that compiles keeps its
pattern when functions are registered under new names, whether or not it holds these names. -/
theorem compile_eq_of_calls (registry : Registry) (text : String) :
    (∀ other : Registry,
      (∀ name, Calls text.toList name.toList → registry.find? name = other.find? name) →
        registry.compile text = other.compile text) ∧
    ∀ p, registry.compile text = .ok p → ∀ added : List (String × Maker),
      (∀ entry ∈ added, registry.find? entry.1 = none) →
        (added.foldl (fun r entry => r.register entry.1 entry.2) registry).compile text =
          .ok p := by
  constructor
  · intro other hagree
    have hcovered : registry.CoveredIn other text.toList :=
      fun name hcall => .inr (hagree name hcall)
    rcases compile_eq_or_unknown hcovered with h | ⟨name, hcall, hnone, hsome, -⟩
    · exact h
    · exact absurd ((hagree name hcall).symm.trans hnone) hsome
  · intro p hp added hnew
    have hcovered : registry.CoveredIn
        (added.foldl (fun r entry => r.register entry.1 entry.2) registry) text.toList := by
      intro name _
      cases hfind : registry.find? name with
      | none => exact .inl rfl
      | some maker =>
        refine .inr ((find?_foldl_register fun entry hentry => ?_).trans hfind).symm
        rintro rfl
        rw [hnew entry hentry] at hfind
        cases hfind
    rcases compile_eq_or_unknown hcovered with h | ⟨name, -, -, -, h⟩
    · rw [← h, hp]
    · rw [hp] at h
      cases h

/-- A registry of one function stands in for the built-in ones where no other function is called,
and a function whose name ends like the called one changes nothing. -/
theorem compile_eq_of_calls_root :
    (∀ name : String, Calls "root()".toList name.toList ↔ name = "root") ∧
    Builtin.registry.compile "root()" =
      (empty.registerPredicate "root" Builtin.isRoot).compile "root()" ∧
    ∃ p, Builtin.registry.compile "root()" = .ok p ∧
      (Builtin.registry.registerPredicate "oot" Builtin.isLeaf).compile "root()" = .ok p := by
  have hcalls : ∀ name : String, Calls "root()".toList name.toList ↔ name = "root" := by
    intro name
    constructor
    · rintro ⟨-, u, v, htext, hu⟩
      have hsplit : ['r', 'o', 'o', 't'] ++ '(' :: [')'] = u ++ name.toList ++ '(' :: v := htext
      obtain ⟨hword, -, -⟩ :=
        (List.append_cons_inj_of_notMem (by decide) (by decide)).1 hsplit
      rcases List.eq_nil_or_concat u with rfl | ⟨u, c, rfl⟩
      · exact String.toList_inj.1 hword.symm
      · have hall : ∀ c ∈ ['r', 'o', 'o', 't'], isIdentChar c :=
          List.all_eq_true.1 rfl
        have hc := hall c (by rw [hword]; simp)
        rw [hu c (by simp)] at hc
        cases hc
    · rintro rfl
      exact ⟨⟨by decide, List.all_eq_true.1 rfl⟩, [], [')'], rfl, stopsAt_none _⟩
  have hcompile : ∃ p, Builtin.registry.compile "root()" = .ok p := by
    have hrun : ∃ p, Cursor.compile Builtin.registry 8 "root()" = .ok p := ⟨_, rfl⟩
    rw [Cursor.compile_eq_mapError _ _ (by decide)] at hrun
    cases h : Builtin.registry.compile "root()" with
    | ok p => exact ⟨p, rfl⟩
    | error e =>
      rw [h] at hrun
      obtain ⟨p, hp⟩ := hrun
      cases hp
  obtain ⟨hagree, hkeeps⟩ := compile_eq_of_calls Builtin.registry "root()"
  obtain ⟨p, hp⟩ := hcompile
  refine ⟨hcalls, hagree _ fun name hcall => ?_, p, hp, hkeeps p hp [("oot", _)] ?_⟩
  · rw [(hcalls name).1 hcall]
    rfl
  · exact List.forall_mem_singleton.2 rfl

end Registry

end GraphSelect
