import GraphSelect.Proofs.Selector.Agreement

/-!
# Snippets by byte positions

The program that reads snippets tries one kind after the other, and at most one of them finds its
first character ahead; the others leave the position as it is. Every filter takes a character, so the
loop ends within as many rounds as the text has characters. What blocks do is a hypothesis here.
-/
namespace GraphSelect.Cursor

open Text
open Selector (Read Stop isQuote isIdentChar startsSnippet snippet?)

variable {α β : Type} {registry : Registry} {src s : List Char} {c : Char} {pos rounds : Nat}
  {inner : Move (List Stage)} {depth : Nat} {reader : List Char → Read Filter}

theorem agree_index (hs : s <:+ src) :
    Agree registry src (index.run src (place src s)) (Selector.indexSnippet.run s) := by
  have hrest := suffix_dropWhile Char.isDigit hs
  unfold index Selector.indexSnippet
  rw [run_bind_of_ok (run_countWhile _ hs), run_bind_of_ok (run_take_takeWhile _ hs),
    run_bind_of_ok (run_peek hrest), Scan.run_bind, Scan.run_takeWhile]
  dsimp only
  rw [Scan.run_bind, Scan.run_peek]
  dsimp only
  have hempty : decide (byteLength (s.takeWhile Char.isDigit) = 0) =
      (s.takeWhile Char.isDigit).isEmpty := by
    rw [Bool.eq_iff_iff, decide_eq_true_eq, byteLength_eq_zero_iff, List.isEmpty_iff]
  rw [hempty]
  split
  · rw [run_bind_of_ok (run_countWhile _ hrest), run_bind_of_ok (run_take_takeWhile _ hrest),
      Scan.run_bind, Scan.run_takeWhile]
    exact ⟨.unplaced ⟨rfl, nofun⟩, rfl⟩
  · cases readDigits (s.takeWhile Char.isDigit) with
    | some i => exact agree_pure _ hrest
    | none => exact ⟨.unplaced ⟨rfl, nofun⟩, rfl⟩

theorem run_countWhile_of_stopsAt {p : Char → Bool} (hs : s <:+ src) (hp : StopsAt p s.head?) :
    (countWhile p).run src (place src s) = .ok (0, place src s) := by
  rw [run_countWhile p hs, takeWhile_eq_nil_iff.2 hp]
  rfl

theorem run_nameSnippet_of_stopsAt (hs : s <:+ src) (hq : StopsAt isQuote s.head?)
    (hw : StopsAt isIdentChar s.head?) :
    nameSnippet.run src (place src s) = .ok (none, place src s) := by
  unfold nameSnippet
  rw [run_bind_of_ok (run_quoted?_of_stopsAt hs hq)]
  dsimp only
  rw [run_bind_of_ok (run_countWhile_of_stopsAt hs hw), if_pos rfl]
  rfl

theorem run_callSnippet_of_stopsAt (hs : s <:+ src) (hw : StopsAt isIdentChar s.head?) :
    (callSnippet registry rounds).run src (place src s) = .ok (none, place src s) := by
  unfold callSnippet
  rw [run_bind_of_ok (run_countWhile_of_stopsAt hs hw), if_pos rfl]
  rfl

theorem run_starSnippet_of_ne (hs : s <:+ src) (hc : s.head? ≠ some '*') :
    starSnippet.run src (place src s) = .ok (none, place src s) := by
  unfold starSnippet
  rw [run_bind_of_ok (run_peek hs), if_neg hc]
  rfl

theorem run_indexSnippet_of_ne (hs : s <:+ src) (hc : s.head? ≠ some '#') :
    indexSnippet.run src (place src s) = .ok (none, place src s) := by
  unfold indexSnippet
  rw [run_bind_of_ok (run_eat_of_ne hs hc)]
  rfl

theorem run_clauseSnippet_of_ne (hs : s <:+ src) (hc : s.head? ≠ some '[') :
    clauseSnippet.run src (place src s) = .ok (none, place src s) := by
  unfold clauseSnippet
  rw [run_bind_of_ok run_position, run_bind_of_ok (run_eat_of_ne hs hc)]
  rfl

theorem run_blockSnippet_of_ne (hs : s <:+ src) (hc : s.head? ≠ some '\x7b') :
    (blockSnippet inner depth).run src (place src s) = .ok (none, place src s) := by
  unfold blockSnippet
  rw [run_bind_of_ok run_position, run_bind_of_ok (run_eat_of_ne hs hc)]
  rfl

theorem Agree.some {m : Move α} {p : Read α} (h : Agree registry src (m.run src pos) (p.run s)) :
    Agree registry src ((m >>= fun a => pure (some a)).run src pos)
      ((p >>= fun a => pure (some a)).run s) :=
  h.bind fun _ _ _ hr => agree_pure _ hr

theorem run_map_bind {γ : Type} (p : Read α) (g : α → β) (f : β → Read γ) (s : List Char) :
    ((p >>= fun a => pure (g a)) >>= f).run s = (p >>= fun a => f (g a)).run s := by
  rw [Scan.run_bind, Scan.run_bind, Scan.run_bind]
  cases p.run s <;> rfl

theorem agree_name {x : Except Error Regex}
    (h : Agree registry src ((lift x).run src (place src s)) ((Selector.lift x).run s)) :
    Agree registry src
      ((lift x >>= fun pattern => pure (some (Filter.name pattern))).run src (place src s))
      (((Selector.lift x >>= fun pattern => pure (Filter.name pattern)) >>= fun f =>
        pure (some f)).run s) := by
  rw [run_map_bind]
  exact h.bind fun _ _ _ hr => agree_pure _ hr

theorem agree_quotedName (hq : isQuote c) (hs : c :: s <:+ src) :
    Agree registry src (nameSnippet.run src (place src (c :: s)))
      ((Selector.quotedSnippet c (c :: s) >>= fun f => pure (some f)).run s) := by
  have hquoted := run_quoted?_cons hq hs
  unfold nameSnippet Selector.quotedSnippet
  rw [Scan.run_bind, Scan.run_bind, Selector.run_quoted]
  cases hu : Selector.unquote c s with
  | none =>
    rw [hu] at hquoted
    exact ⟨.fault hs, run_bind_of_error hquoted⟩
  | some x =>
    obtain ⟨t, r⟩ := x
    rw [hu] at hquoted
    have hr : r <:+ src := suffix_of_unquote hu (suffix_of_cons hs)
    have hname : Agree registry src _ _ := agree_name (agree_anchored (String.ofList t) hr)
    rw [Scan.run_bind] at hname
    rw [run_bind_of_ok hquoted]
    exact hname

theorem stopsAt_isQuote_word (hc : isIdentChar c) : StopsAt isQuote (c :: s).head? :=
  (stopsAt_some isQuote c).2 (Selector.isQuote_of_isIdentChar hc)

section

variable (hc : isIdentChar c) (hs : c :: s <:+ src)

include hc hs

theorem run_countWhile_word :
    (countWhile isIdentChar).run src (place src (c :: s)) =
      .ok (byteLength (c :: s.takeWhile isIdentChar), place src (c :: s)) := by
  rw [run_countWhile _ hs, List.takeWhile_cons_of_pos hc]

theorem run_peekAt_word :
    (peekAt (byteLength (c :: s.takeWhile isIdentChar))).run src (place src (c :: s)) =
      .ok ((s.dropWhile isIdentChar).head?, place src (c :: s)) := by
  have h := run_peekAt_takeWhile isIdentChar hs
  rwa [List.takeWhile_cons_of_pos hc, List.dropWhile_cons_of_pos hc] at h

theorem run_take_word :
    (take (byteLength (c :: s.takeWhile isIdentChar))).run src (place src (c :: s)) =
      .ok (c :: s.takeWhile isIdentChar, place src (s.dropWhile isIdentChar)) := by
  have h := run_take_takeWhile isIdentChar hs
  rwa [List.takeWhile_cons_of_pos hc, List.dropWhile_cons_of_pos hc] at h

theorem agree_word (hcall : (s.dropWhile isIdentChar).head? ≠ some '(') :
    Agree registry src (nameSnippet.run src (place src (c :: s)))
      ((Selector.wordSnippet registry c (c :: s) >>= fun f => pure (some f)).run s) := by
  have hrest : s.dropWhile isIdentChar <:+ src := suffix_dropWhile _ (suffix_of_cons hs)
  have hname : Agree registry src _ _ :=
    agree_name (agree_literal (String.ofList (c :: s.takeWhile isIdentChar)) hrest)
  rw [Scan.run_bind] at hname
  unfold nameSnippet Selector.wordSnippet
  rw [run_bind_of_ok (run_quoted?_of_stopsAt hs (stopsAt_isQuote_word hc))]
  dsimp only
  rw [run_bind_of_ok (run_countWhile_word hc hs), if_neg (byteLength_cons_ne_zero c _),
    run_bind_of_ok (run_peekAt_word hc hs), if_neg hcall, run_bind_of_ok (run_take_word hc hs),
    Scan.run_bind, Scan.run_bind, Scan.run_takeWhile]
  dsimp only
  rw [Scan.run_bind, Scan.run_eat, if_neg hcall]
  exact hname

theorem run_nameSnippet_of_call (hcall : (s.dropWhile isIdentChar).head? = some '(') :
    nameSnippet.run src (place src (c :: s)) = .ok (none, place src (c :: s)) := by
  unfold nameSnippet
  rw [run_bind_of_ok (run_quoted?_of_stopsAt hs (stopsAt_isQuote_word hc))]
  dsimp only
  rw [run_bind_of_ok (run_countWhile_word hc hs), if_neg (byteLength_cons_ne_zero c _),
    run_bind_of_ok (run_peekAt_word hc hs), if_pos hcall]
  rfl

theorem agree_callSnippet (hcall : (s.dropWhile isIdentChar).head? = some '(')
    (hrounds : s.length < rounds) :
    Agree registry src ((callSnippet registry rounds).run src (place src (c :: s)))
      ((Selector.wordSnippet registry c (c :: s) >>= fun f => pure (some f)).run s) := by
  obtain ⟨r, hr⟩ := List.head?_eq_some_iff.1 hcall
  have hwhole : c :: s = c :: s.takeWhile isIdentChar ++ '(' :: r := by
    rw [List.cons_append, ← hr, List.takeWhile_append_dropWhile]
  have hlength : r.length < rounds := by
    have h := (List.dropWhile_suffix isIdentChar (l := s)).length_le
    rw [hr, List.length_cons] at h
    omega
  have hagree : Agree registry src
      ((call registry rounds (byteLength (c :: s.takeWhile isIdentChar))).run src
        (place src (c :: s)))
      ((Selector.callSnippet registry (c :: s)
        (String.ofList (c :: s.takeWhile isIdentChar))).run r) := by
    have h : Agree registry src _ _ := agree_call (hwhole ▸ hs) hlength
    rwa [← hwhole] at h
  have hsome := hagree.some
  rw [Scan.run_bind] at hsome
  unfold callSnippet Selector.wordSnippet
  rw [run_bind_of_ok (run_countWhile_word hc hs), if_neg (byteLength_cons_ne_zero c _),
    run_bind_of_ok (run_peekAt_word hc hs), if_pos hcall, Scan.run_bind, Scan.run_bind,
    Scan.run_takeWhile]
  dsimp only
  rw [Scan.run_bind, Scan.run_eat, if_pos hcall, hr, List.tail_cons]
  exact hsome

end

theorem run_firstOf_of_none {m : Move (Option α)} {others : List (Move (Option α))}
    (h : m.run src pos = .ok (none, pos)) :
    (firstOf (m :: others)).run src pos = (firstOf others).run src pos := by
  rw [firstOf, run_bind_of_ok h]

/-- A program that gives what there is goes on with it. -/
theorem agree_some_bind {m : Move (Option α)} {f : Option α → Move β} {p : Read α}
    {q : α → Read β} (h : Agree registry src (m.run src pos) ((p >>= fun a => pure (some a)).run s))
    (hf : ∀ a r, p.run s = .ok (a, r) → r <:+ src →
      Agree registry src ((f (some a)).run src (place src r)) ((q a).run r)) :
    Agree registry src ((m >>= f).run src pos) ((p >>= q).run s) := by
  rw [Scan.run_bind] at h ⊢
  cases hp : p.run s with
  | error stop =>
    rw [hp] at h
    exact ⟨h.1, run_bind_of_error h.2⟩
  | ok x =>
    obtain ⟨a, r⟩ := x
    rw [hp] at h
    obtain ⟨hr, h⟩ : r <:+ src ∧ m.run src pos = .ok (some a, place src r) := h
    rw [run_bind_of_ok h]
    exact hf a r hp hr

theorem agree_firstOf {m : Move (Option α)} {others : List (Move (Option α))} {p : Read α}
    (h : Agree registry src (m.run src pos) ((p >>= fun a => pure (some a)).run s)) :
    Agree registry src ((firstOf (m :: others)).run src pos)
      ((p >>= fun a => pure (some a)).run s) := by
  rw [firstOf]
  exact agree_some_bind h fun _ _ _ hr => agree_pure _ hr

theorem agree_starSnippet (hs : '*' :: s <:+ src) (hstar : s.head? ≠ some '*') :
    Agree registry src (starSnippet.run src (place src ('*' :: s)))
      (((pure .any : Read Filter) >>= fun f => pure (some f)).run s) := by
  have hnext : (peekAt 1).run src (place src ('*' :: s)) = .ok (s.head?, place src ('*' :: s)) :=
    run_peekAt (t := ['*']) hs
  have htake : (advance 1).run src (place src ('*' :: s)) = .ok ((), place src s) :=
    run_advance (t := ['*']) hs
  unfold starSnippet
  rw [run_bind_of_ok (run_peek hs), List.head?_cons, if_pos rfl, run_bind_of_ok hnext,
    if_neg hstar, run_bind_of_ok htake]
  exact agree_ok (suffix_of_cons hs)

theorem run_starSnippet_stars (hs : '*' :: s <:+ src) (hstar : s.head? = some '*') :
    starSnippet.run src (place src ('*' :: s)) = .ok (none, place src ('*' :: s)) := by
  have hnext : (peekAt 1).run src (place src ('*' :: s)) = .ok (s.head?, place src ('*' :: s)) :=
    run_peekAt (t := ['*']) hs
  unfold starSnippet
  rw [run_bind_of_ok (run_peek hs), List.head?_cons, if_pos rfl, run_bind_of_ok hnext,
    if_pos hstar]
  rfl

theorem agree_indexSnippet (hs : '#' :: s <:+ src) :
    Agree registry src (indexSnippet.run src (place src ('#' :: s)))
      ((Selector.indexSnippet >>= fun f => pure (some f)).run s) := by
  unfold indexSnippet
  rw [run_bind_of_ok (run_eat_cons hs), if_pos rfl]
  exact (agree_index (suffix_of_cons hs)).some

theorem agree_clauseSnippet (hs : '[' :: s <:+ src) :
    Agree registry src (clauseSnippet.run src (place src ('[' :: s)))
      ((Selector.attributeSnippet ('[' :: s) >>= fun f => pure (some f)).run s) := by
  unfold clauseSnippet
  rw [run_bind_of_ok run_position, run_bind_of_ok (run_eat_cons hs), if_pos rfl]
  exact (agree_clause hs (suffix_of_cons hs)).some

theorem startsSnippet_of_eq_none (hp : snippet? registry reader c s = none) (hne : c ≠ '*') :
    startsSnippet c = false := by
  unfold snippet? at hp
  split at hp
  · cases hp
  · next hq =>
    split at hp
    · cases hp
    · next hc =>
      split at hp
      · exact absurd rfl hne
      · cases hp
      · cases hp
      · cases hp
      · next hhash hbracket hbrace =>
        simpa [startsSnippet, hq, hc, hne] using And.intro (And.intro hhash hbracket) hbrace

/-- Blocks are read alike when what is left of the text is shorter than a bound. -/
def AgreeOnBlocks (registry : Registry) (src : List Char) (bound : Nat)
    (block : Move (Option Filter)) (reader : List Char → Read Filter) : Prop :=
  (∀ s, s <:+ src → s.head? ≠ some '\x7b' → block.run src (place src s) = .ok (none, place src s)) ∧
    ∀ s, '\x7b' :: s <:+ src → s.length < bound →
      Agree registry src (block.run src (place src ('\x7b' :: s)))
        ((reader ('\x7b' :: s) >>= fun f => pure (some f)).run s)

section

variable {block : Move (Option Filter)} {bound : Nat}
  (hblock : AgreeOnBlocks registry src bound block reader)

include hblock

/-- One filter is read alike: the kinds before its own find nothing. -/
theorem agree_snippet (hs : c :: s <:+ src) (hbound : s.length < bound)
    (hrounds : s.length < rounds) {p : Read Filter} (hp : snippet? registry reader c s = some p) :
    Agree registry src ((snippet registry block rounds).run src (place src (c :: s)))
      ((p >>= fun f => pure (some f)).run s) := by
  unfold snippet? at hp
  unfold snippet
  split at hp
  · next hq =>
    cases hp
    exact agree_firstOf (agree_quotedName hq hs)
  · next hq =>
    have hq := (stopsAt_some isQuote c).2 (Bool.eq_false_iff.2 hq)
    split at hp
    · next hc =>
      cases hp
      by_cases hcall : (s.dropWhile isIdentChar).head? = some '('
      · have hword : StartsWith isIdentChar (c :: s).head? := ⟨c, rfl, hc⟩
        rw [run_firstOf_of_none (run_nameSnippet_of_call hc hs hcall),
          run_firstOf_of_none (run_starSnippet_of_ne hs (hword.ne rfl)),
          run_firstOf_of_none (run_indexSnippet_of_ne hs (hword.ne rfl)),
          run_firstOf_of_none (run_clauseSnippet_of_ne hs (hword.ne rfl))]
        exact agree_firstOf (agree_callSnippet hc hs hcall hrounds)
      · exact agree_firstOf (agree_word hc hs hcall)
    · next hc =>
      have hc := (stopsAt_some isIdentChar c).2 (Bool.eq_false_iff.2 hc)
      rw [run_firstOf_of_none (run_nameSnippet_of_stopsAt hs hq hc)]
      split at hp
      · split at hp
        · cases hp
        · next hstar =>
          cases hp
          exact agree_firstOf (agree_starSnippet hs hstar)
      · cases hp
        rw [run_firstOf_of_none (run_starSnippet_of_ne hs nofun)]
        exact agree_firstOf (agree_indexSnippet hs)
      · cases hp
        rw [run_firstOf_of_none (run_starSnippet_of_ne hs nofun),
          run_firstOf_of_none (run_indexSnippet_of_ne hs nofun)]
        exact agree_firstOf (agree_clauseSnippet hs)
      · cases hp
        rw [run_firstOf_of_none (run_starSnippet_of_ne hs nofun),
          run_firstOf_of_none (run_indexSnippet_of_ne hs nofun),
          run_firstOf_of_none (run_clauseSnippet_of_ne hs nofun),
          run_firstOf_of_none (run_callSnippet_of_stopsAt hs hc)]
        exact agree_firstOf (hblock.2 s hs hbound)
      · cases hp

theorem run_snippet_of_none (hs : s <:+ src) (hstar : s.head? = some '*' → s.tail.head? = some '*')
    (hother : ∀ c, s.head? = some c → c ≠ '*' → startsSnippet c = false) :
    (snippet registry block rounds).run src (place src s) = .ok (none, place src s) := by
  have hne : ∀ c, startsSnippet c → c ≠ '*' → s.head? ≠ some c := by
    intro c hc hcstar hhead
    rw [hother c hhead hcstar] at hc
    cases hc
  have hkind : ∀ {p : Char → Bool}, p '*' = false → (∀ c, p c → startsSnippet c) →
      StopsAt p s.head? := by
    intro p hp hstart c hhead
    by_cases hc : c = '*'
    · rw [hc, hp]
    · cases hpc : p c with
      | false => rfl
      | true => exact absurd hhead (hne c (hstart c hpc) hc)
  have hquote : StopsAt isQuote s.head? := hkind rfl fun c hc => by simp [startsSnippet, hc]
  have hword : StopsAt isIdentChar s.head? := hkind rfl fun c hc => by simp [startsSnippet, hc]
  have hstarNone : starSnippet.run src (place src s) = .ok (none, place src s) := by
    by_cases hhead : s.head? = some '*'
    · obtain ⟨u, rfl⟩ := List.head?_eq_some_iff.1 hhead
      exact run_starSnippet_stars hs (hstar hhead)
    · exact run_starSnippet_of_ne hs hhead
  unfold snippet
  rw [run_firstOf_of_none (run_nameSnippet_of_stopsAt hs hquote hword),
    run_firstOf_of_none hstarNone,
    run_firstOf_of_none (run_indexSnippet_of_ne hs (hne '#' rfl (by decide))),
    run_firstOf_of_none (run_clauseSnippet_of_ne hs (hne '[' rfl (by decide))),
    run_firstOf_of_none (run_callSnippet_of_stopsAt hs hword),
    run_firstOf_of_none (hblock.1 s hs (hne '\x7b' rfl (by decide)))]
  rfl

theorem run_snippet_of_eq_none (hs : c :: s <:+ src) (hp : snippet? registry reader c s = none) :
    (snippet registry block rounds).run src (place src (c :: s)) =
      .ok (none, place src (c :: s)) := by
  refine run_snippet_of_none hblock hs (fun hstar => ?_) fun d hd hne => ?_
  · obtain rfl : c = '*' := by simpa using hstar
    by_contra hnext
    cases hp.symm.trans (Selector.snippet?_star hnext)
  · obtain rfl : c = d := by simpa using hd
    exact startsSnippet_of_eq_none hp hne

theorem run_snippet_nil :
    (snippet registry block rounds).run src (place src []) = .ok (none, place src []) :=
  run_snippet_of_none hblock (List.nil_suffix) nofun nofun

omit hblock in
theorem run_snippets_of_eq_some {p : Read Filter} (hp : snippet? registry reader c s = some p) :
    (Selector.snippets registry reader).run (c :: s) =
      (p >>= fun f => Selector.snippets registry reader >>= fun fs => pure (f :: fs)).run s := by
  rw [Selector.run_snippets_cons, hp, Scan.run_bind]
  dsimp only
  cases p.run s with
  | error stop => rfl
  | ok x =>
    dsimp only
    rw [Scan.run_bind]
    cases (Selector.snippets registry reader).run x.2 <;> rfl

/-- Every filter takes a character, so there are no more rounds than characters. -/
theorem agree_snippets {perSnippet : Nat} (hs : s <:+ src) (hbound : s.length ≤ bound)
    (hsnippet : bound ≤ perSnippet) (hrounds : s.length < rounds) :
    Agree registry src ((snippets (snippet registry block perSnippet) rounds).run src (place src s))
      ((Selector.snippets registry reader).run s) := by
  induction rounds generalizing s with
  | zero => cases hrounds
  | succ rounds ih =>
    rw [snippets]
    cases s with
    | nil =>
      rw [run_bind_of_ok (run_snippet_nil hblock), Selector.run_snippets_nil]
      exact agree_ok hs
    | cons c s =>
      cases hp : snippet? registry reader c s with
      | none =>
        rw [Selector.run_snippets_cons, hp, run_bind_of_ok (run_snippet_of_eq_none hblock hs hp)]
        exact agree_ok hs
      | some p =>
        have hfirst := agree_snippet hblock hs hbound (Nat.lt_of_lt_of_le hbound hsnippet) hp
        rw [run_snippets_of_eq_some hp]
        refine agree_some_bind hfirst fun f r hrun hr => ?_
        have hlength : r.length < (c :: s).length := Nat.lt_succ_of_le (Scan.length_le_of_run hrun)
        exact (ih hr (by omega) (by omega)).bind fun _ _ _ hu => agree_pure _ hu

end

end GraphSelect.Cursor
