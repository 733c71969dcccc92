import GraphSelect.Proofs.Selector.Acceptance
import GraphSelect.Proofs.Selector.Embedding
import Mathlib.Data.List.DropRight

/-!
# The text of a pattern

A pattern keeps its text without the blanks at its ends, and so does every block in it. Both texts
compile again to what they were kept for. Nothing that a selector ends with is a blank, so trimming
takes away just the blanks around it; the text of a block is a part of the whole text, and what
stands before its brace reads the same at the end of a text.
-/
namespace GraphSelect

open Text

namespace Text

theorem trimmed_trim (s : List Char) : Trimmed (trim s) := by
  obtain ⟨a, -, -, hstop⟩ := exists_skipBlanks s
  obtain ⟨b, -, -, htrim⟩ := exists_trim hstop
  have hskip : skipBlanks (skipBlanks s) = skipBlanks s := skipBlanks_append blanks_nil hstop
  rwa [trim, hskip] at htrim

theorem trim_of_trimmed {s : List Char} (h : Trimmed s) : trim s = s := by
  have htrim := trim_append blanks_nil h blanks_nil
  rwa [List.nil_append, List.append_nil] at htrim

theorem trim_within (s : List Char) : trim s <:+: s :=
  (List.rdropWhile_prefix isBlank (skipBlanks s)).isInfix.trans
    (List.dropWhile_suffix isBlank).isInfix

theorem byteLength_le_of_within {s t : List Char} (h : s <:+: t) : byteLength s ≤ byteLength t := by
  obtain ⟨a, b, rfl⟩ := h
  simp only [byteLength_append]
  omega

end Text

namespace Grammar

open Selector (startsWith_of_segments startsWith_of_lead
  isBlank_of_startsSelector isBlank_of_isQuote)

variable {registry : Registry} {Block : List Char → List Stage → Prop} {s t u : List Char}
  {next : Option Char} {relation : Relation} {stages : List Stage} {levels bound : Nat}
  {q : Pattern}

def EndsFilled (t : List Char) : Prop := ∃ u c, t = u ++ [c] ∧ isBlank c = false

theorem EndsFilled.append (h : EndsFilled u) (t : List Char) : EndsFilled (t ++ u) := by
  obtain ⟨v, c, rfl, hc⟩ := h
  exact ⟨t ++ v, c, by rw [List.append_assoc], hc⟩

theorem EndsFilled.cons (h : EndsFilled u) (c : Char) : EndsFilled (c :: u) := h.append [c]

theorem endsFilled_of_forall (hne : t ≠ []) (h : ∀ c ∈ t, isBlank c = false) : EndsFilled t := by
  obtain ⟨u, c, rfl⟩ := (List.eq_nil_or_concat' t).resolve_left hne
  exact ⟨u, c, rfl, h c (by simp)⟩

theorem EndsFilled.stopsAt (h : EndsFilled t) : StopsAt isBlank t.getLast? := by
  obtain ⟨u, c, rfl, hc⟩ := h
  rw [List.getLast?_concat, stopsAt_some]
  exact hc

theorem endsFilled_of_quotedText (h : QuotedText t s) : EndsFilled t := by
  obtain ⟨hq, h⟩ := h
  refine EndsFilled.cons ?_ _
  induction h with
  | close => exact ⟨[], _, rfl, isBlank_of_isQuote hq⟩
  | escaped _ ih => exact (ih.cons _).cons _
  | plain _ _ _ ih => exact ih.cons _

theorem endsFilled_of_attributeClause {f : Filter} (h : AttributeClause t f) : EndsFilled t := by
  have hclose : EndsFilled [']'] := ⟨[], ']', rfl, rfl⟩
  cases h with
  | name => exact hclose.append _
  | value => exact ((hclose.append _).cons '=').append _

theorem Snippet.endsFilled {f : Filter} (h : Snippet registry Block next t f) : EndsFilled t := by
  cases h with
  | quoted ht => exact endsFilled_of_quotedText ht
  | word ht => exact endsFilled_of_forall ht.1 fun c hc => Selector.isBlank_of_isIdentChar (ht.2 c hc)
  | star => exact ⟨[], '*', rfl, rfl⟩
  | index hne hd =>
    refine (endsFilled_of_forall hne fun c hc => ?_).cons '#'
    exact Selector.isBlank_of_isIdentChar (Selector.isIdentChar_of_isDigit (hd c hc))
  | clause ht => exact (endsFilled_of_attributeClause ht).cons '['
  | call => exact ((EndsFilled.append ⟨[], ')', rfl, rfl⟩ _).cons '(').append _
  | block => exact (EndsFilled.append ⟨[], '}', rfl, rfl⟩ _).cons _

theorem Snippets.endsFilled {fs : List Filter} (h : Snippets registry Block next t fs) :
    EndsFilled t := by
  induction h with
  | last ht => exact ht.endsFilled
  | more _ _ ih => exact ih.append _

theorem Segment.endsFilled {stage : Stage} (h : Segment registry Block relation next t stage) :
    EndsFilled t := by
  cases h with
  | here => exact ⟨[], '.', rfl, rfl⟩
  | anywhere => exact ⟨['*'], '*', rfl, rfl⟩
  | filters _ ht => exact ht.endsFilled

theorem Segments.endsFilled (h : Segments registry Block next relation t stages) :
    EndsFilled t := by
  induction h with
  | last ht => exact ht.endsFilled
  | more _ _ _ ih => exact ih.append _

/-- Without the blanks at its ends a selector can stand at the end of a text. -/
theorem SelectorOver.trim (h : SelectorOver registry Block next t stages) :
    SelectorOver registry Block none (trim t) stages := by
  obtain @⟨a, lead, t, z, relation, stages, ha, hlead, ht, hz⟩ := h
  have hhead := (startsWith_of_lead hlead (startsWith_of_segments ht)).stopsAt
    fun _ => isBlank_of_startsSelector
  have htrim : Text.trim (a ++ lead ++ t ++ z) = [] ++ lead ++ t ++ [] := by
    rw [List.append_assoc a, trim_append ha ⟨hhead, (ht.endsFilled.append lead).stopsAt⟩ hz,
      List.nil_append, List.append_nil]
  rw [htrim]
  exact .mk blanks_nil hlead (ht.before (stopsAt_none _)) blanks_nil

theorem IsSelector.trim (h : IsSelector registry levels next t stages) :
    IsSelector registry levels none (trim t) stages := by
  cases levels with
  | zero => exact SelectorOver.trim h
  | succ levels => exact SelectorOver.trim h

theorem IsSelector.mono (h : IsSelector registry levels next t stages) (hle : levels ≤ bound) :
    IsSelector registry bound next t stages := by
  induction levels generalizing bound next t stages with
  | zero =>
    cases bound with
    | zero => exact h
    | succ bound =>
      exact SelectorOver.of_depth_le (fun _ _ hblock _ => hblock.elim) h (Nat.le_refl _)
  | succ levels ih =>
    obtain ⟨bound, rfl⟩ : ∃ k, bound = k + 1 := ⟨bound - 1, by omega⟩
    have hle : levels ≤ bound := by omega
    exact SelectorOver.of_depth_le (fun _ _ hblock _ => ih hblock hle) h (Nat.le_refl _)

def HasBlock (Block : List Char → List Stage → Prop) (t : List Char) (q : Pattern) : Prop :=
  ∃ u, Block u q.stages ∧ q.source = String.ofList (Text.trim u) ∧ u <:+: t

theorem HasBlock.of_within (h : HasBlock Block s q) (hst : s <:+: t) : HasBlock Block t q := by
  obtain ⟨u, hu, hsource, hinfix⟩ := h
  exact ⟨u, hu, hsource, hinfix.trans hst⟩

theorem Snippet.hasBlock (h : Snippet registry Block next t (.has q)) : HasBlock Block t q := by
  cases h with
  | clause ht => cases ht
  | @block u stages ht => exact ⟨u, ht, rfl, ['\x7b'], ['}'], by simp⟩

theorem Snippets.hasBlock {fs : List Filter} (h : Snippets registry Block next t fs)
    (hf : .has q ∈ fs) : HasBlock Block t q := by
  induction h with
  | last ht =>
    rw [List.mem_singleton] at hf
    subst hf
    exact ht.hasBlock
  | @more t u f fs ht _ ih =>
    rcases List.mem_cons.1 hf with rfl | hf
    · exact ht.hasBlock.of_within (List.prefix_append t u).isInfix
    · exact (ih hf).of_within (List.suffix_append t u).isInfix

theorem Segment.hasBlock {stage : Stage} (h : Segment registry Block relation next t stage)
    (hf : .has q ∈ stage.filters) : HasBlock Block t q := by
  cases h with
  | here | anywhere => cases List.mem_singleton.1 hf
  | filters _ ht => exact ht.hasBlock hf

theorem Segments.hasBlock (h : Segments registry Block next relation t stages) {stage : Stage}
    (hs : stage ∈ stages) (hf : .has q ∈ stage.filters) : HasBlock Block t q := by
  induction h with
  | last ht =>
    rw [List.mem_singleton] at hs
    subst hs
    exact ht.hasBlock hf
  | @more _ _ t gap u _ _ ht _ _ ih =>
    rcases List.mem_cons.1 hs with rfl | hs
    · refine (ht.hasBlock hf).of_within ?_
      rw [List.append_assoc]
      exact (List.prefix_append t _).isInfix
    · exact (ih hs).of_within (List.suffix_append _ u).isInfix

/-- Each block of a selector is a selector of fewer levels, and its text is a part of the whole. -/
theorem IsSelector.exists_block (h : IsSelector registry levels next t stages) {stage : Stage}
    (hs : stage ∈ stages) (hf : .has q ∈ stage.filters) :
    ∃ inner < levels, HasBlock (IsSelector registry inner (some '}')) t q := by
  have hover : ∀ {Block}, SelectorOver registry Block next t stages → HasBlock Block t q := by
    rintro Block @⟨a, lead, t, z, _, _, -, -, ht, -⟩
    exact (ht.hasBlock hs hf).of_within ⟨a ++ lead, z, rfl⟩
  cases levels with
  | zero =>
    obtain ⟨u, hu, -⟩ := hover h
    exact hu.elim
  | succ levels => exact ⟨levels, Nat.lt_succ_self levels, hover h⟩

end Grammar

/-- A pattern stands in a block of another one, at any depth. -/
inductive Pattern.Contains : Pattern → Pattern → Prop
  | block {p q : Pattern} {stage : Stage} (hs : stage ∈ p.stages) (hf : .has q ∈ stage.filters) :
      Contains p q
  | inner {p r q : Pattern} {stage : Stage} (hs : stage ∈ p.stages)
      (hf : .has r ∈ stage.filters) (h : Contains r q) : Contains p q

namespace Registry

variable {registry : Registry} {text : String} {p q : Pattern} {t : List Char}
  {next : Option Char} {levels : Nat}

/-- The kept text of a selector compiles to its stages, wherever the selector stands. -/
theorem compile_trim (h : Grammar.IsSelector registry levels next t p.stages)
    (hlevels : levels ≤ Limits.maxBlockDepth) (hlength : byteLength t ≤ Limits.maxSelectorLength)
    (hsource : p.source = String.ofList (trim t)) : registry.compile p.source = .ok p := by
  obtain ⟨source, stages⟩ := p
  subst hsource
  have hselector := h.trim.mono hlevels
  have hbytes := Nat.le_trans (byteLength_le_of_within (trim_within t)) hlength
  rw [← String.toList_ofList (l := trim t)] at hselector hbytes
  rw [compile_of_isSelector hbytes hselector, trimString, String.toList_ofList,
    trim_of_trimmed (trimmed_trim t)]

/-- Every block in a selector compiles on its own, by induction on the way to the block. -/
theorem compile_of_contains (h : Grammar.IsSelector registry levels next t p.stages)
    (hlevels : levels ≤ Limits.maxBlockDepth) (hlength : byteLength t ≤ Limits.maxSelectorLength)
    (hq : p.Contains q) : registry.compile q.source = .ok q := by
  induction hq generalizing levels next t with
  | block hs hf =>
    obtain ⟨inner, hinner, u, hu, hsource, hinfix⟩ := h.exists_block hs hf
    have hbytes := Nat.le_trans (byteLength_le_of_within hinfix) hlength
    exact compile_trim hu (by omega) hbytes hsource
  | inner hs hf _ ih =>
    obtain ⟨inner, hinner, u, hu, -, hinfix⟩ := h.exists_block hs hf
    have hbytes := Nat.le_trans (byteLength_le_of_within hinfix) hlength
    exact ih hu (by omega) hbytes

/-- The text that a compiled pattern keeps compiles to the same pattern, and so do the texts of the
blocks in it, at any depth. -/
theorem compile_source (h : registry.compile text = .ok p) :
    registry.compile p.source = .ok p ∧
      ∀ q, p.Contains q → registry.compile q.source = .ok q := by
  obtain ⟨hlength, hsource, hselector⟩ := isSelector_of_compile h
  exact ⟨compile_trim hselector (Nat.le_refl _) hlength hsource,
    fun q hq => compile_of_contains hselector (Nat.le_refl _) hlength hq⟩

/-- A dot in a block, whose brace stands right behind it, is a dot at the end of a text too. -/
theorem compile_source_dot :
    let dot : Pattern := ⟨".", [⟨.current, [.origin]⟩]⟩
    let place : Pattern := ⟨"/#1\x7b.\x7d", [⟨.immediate, [.index 1, .has dot]⟩]⟩
    let star : Pattern := ⟨"*\x7b /#1\x7b.\x7d \x7d", [⟨.descendant, [.any, .has place]⟩]⟩
    Registry.empty.compile " *\x7b /#1\x7b.\x7d \x7d " = .ok star ∧
      Registry.empty.compile star.source = .ok star ∧
      Registry.empty.compile place.source = .ok place ∧
      Registry.empty.compile dot.source = .ok dot := by
  intro dot place star
  have hblank : Blanks [' '] := by simp [Blanks, isBlank]
  have hdot : Grammar.IsSelector .empty 14 (some '}') ['.'] dot.stages :=
    .mk (a := []) (z := []) blanks_nil .none (.last .here) blanks_nil
  have hindex : Grammar.Snippet .empty (Grammar.IsSelector .empty 14 (some '}')) (some '\x7b')
      ['#', '1'] (.index 1) :=
    .index (by decide) (List.forall_mem_singleton.2 rfl) (by decide)
      ((stopsAt_some _ _).2 (by decide))
  have hfilters : Grammar.Snippets .empty (Grammar.IsSelector .empty 14 (some '}')) (some ' ')
      (['#', '1'] ++ '\x7b' :: (['.'] ++ ['}'])) [.index 1, .has dot] :=
    .more hindex (.last (.block hdot))
  have hplace : Grammar.IsSelector .empty 15 (some '}')
      ([' '] ++ ['/'] ++ (['#', '1'] ++ '\x7b' :: (['.'] ++ ['}'])) ++ [' ']) place.stages :=
    .mk hblank (.slash blanks_nil) (.last (.filters (by decide) hfilters)) hblank
  have hstar : Grammar.IsSelector .empty 16 none " *\x7b /#1\x7b.\x7d \x7d ".toList star.stages :=
    .mk (a := [' ']) (z := [' ']) hblank Grammar.Lead.none
      (.last (.filters (by decide) (.more (t := ['*']) (.star (by decide)) (.last (.block hplace)))))
      hblank
  have hcompile := compile_of_isSelector (by decide) hstar
  obtain ⟨hsource, hblocks⟩ := compile_source hcompile
  have hfilter : Filter.has place ∈ [.any, .has place] := List.mem_cons_of_mem _ (by simp)
  have hinner : Filter.has dot ∈ [.index 1, .has dot] := List.mem_cons_of_mem _ (by simp)
  refine ⟨hcompile, hsource, hblocks place (.block List.mem_cons_self hfilter), ?_⟩
  exact hblocks dot (.inner List.mem_cons_self hfilter (.block List.mem_cons_self hinner))

end Registry

end GraphSelect
