import GraphSelect.Proofs.Selector.Position
import GraphSelect.Proofs.Selector.Snippet

/-!
# Snippets by byte positions

The programs that read snippets by byte positions agree with the readers of snippets: at the place of
a text they give what the reader of the text gives, move to the place of what the reader leaves, and
fail with the reader's error. The readers leave ends of the text and remember ends of it, so every
place that is met or reported is one between two characters.
-/
namespace GraphSelect

open Text

/-- An error of a selector that has no position. -/
def Error.Unplaced (e : Error) : Prop :=
  e.isCompileError ∧ ∀ position fault, e ≠ .malformed position fault

theorem Regex.unplaced_of_anchored {pattern : String} {e : Error}
    (h : Regex.anchored pattern = .error e) : e.Unplaced := by
  unfold anchored at h
  split at h
  · cases h
  · cases h
    exact ⟨rfl, nofun⟩

theorem Regex.unplaced_of_literal {text : String} {e : Error}
    (h : Regex.literal text = .error e) : e.Unplaced := by
  unfold literal at h
  split at h
  · cases h
  · cases h
    exact ⟨rfl, nofun⟩

namespace Cursor

open Grammar (Arguments passed)
open Selector (Read Stop isQuote isIdentChar unquote)

variable {α β : Type} {registry : Registry} {src s r t : List Char} {c : Char} {pos : Nat}

/-- Why reading a text may stop: for a fault at some place of the text, for an error without a
position, or for the error of a maker at the arguments of a call in the text. -/
inductive Justified (registry : Registry) (src : List Char) : Stop → Prop
  | fault {ahead : List Char} {what : SelectorFault} (h : ahead <:+ src) :
      Justified registry src (.fault ahead what)
  | unplaced {e : Error} (h : e.Unplaced) : Justified registry src (.error e)
  | resolve {function : String} {t : List Char} {as : List (Option String × String × Bool)}
      {e : Error} (hcall : function.toList ++ '(' :: (t ++ [')']) <:+: src) (ht : Arguments t as)
      (h : registry.resolve function (passed as) = .error e) : Justified registry src (.error e)

/-- A run by positions ends like a run of a reader: at the place of what the reader leaves, or with
the error of its stop. -/
def Agree (registry : Registry) (src : List Char) (x : Except Halt (α × Nat)) :
    Except Stop (α × List Char) → Prop
  | .ok (a, r) => r <:+ src ∧ x = .ok (a, place src r)
  | .error stop => Justified registry src stop ∧ x = .error (.error (stop.toError src))

theorem agree_ok {a : α} (hr : r <:+ src) :
    Agree registry src (.ok (a, place src r)) (.ok (a, r)) := ⟨hr, rfl⟩

theorem agree_pure (a : α) (hs : s <:+ src) :
    Agree registry src ((pure a : Move α).run src (place src s)) ((pure a : Read α).run s) :=
  agree_ok hs

theorem Agree.bind {m : Move α} {f : α → Move β} {p : Read α} {q : α → Read β}
    (h : Agree registry src (m.run src pos) (p.run s))
    (hf : ∀ a r, p.run s = .ok (a, r) → r <:+ src →
      Agree registry src ((f a).run src (place src r)) ((q a).run r)) :
    Agree registry src ((m >>= f).run src pos) ((p >>= q).run s) := by
  rw [Scan.run_bind]
  cases hp : p.run s with
  | ok x =>
    obtain ⟨a, r⟩ := x
    rw [hp] at h
    rw [run_bind_of_ok h.2]
    exact hf a r hp h.1
  | error stop =>
    rw [hp] at h
    exact ⟨h.1, run_bind_of_error h.2⟩

theorem agree_fault {what : SelectorFault} (h : t <:+ src) :
    Agree registry src ((fault (place src t) what : Move α).run src pos)
      ((Scan.fail (.fault t what) : Read α).run s) := ⟨.fault h, rfl⟩

theorem agree_lift {x : Except Error α} (hs : s <:+ src)
    (hx : ∀ e, x = .error e → Justified registry src (.error e)) :
    Agree registry src ((lift x).run src (place src s)) ((Selector.lift x).run s) := by
  cases x with
  | ok a => exact agree_ok hs
  | error e => exact ⟨hx e rfl, rfl⟩

theorem agree_anchored (pattern : String) (hs : s <:+ src) :
    Agree registry src ((lift (Regex.anchored pattern)).run src (place src s))
      ((Selector.lift (Regex.anchored pattern)).run s) :=
  agree_lift hs fun _ h => .unplaced (Regex.unplaced_of_anchored h)

theorem agree_literal (text : String) (hs : s <:+ src) :
    Agree registry src ((lift (Regex.literal text)).run src (place src s))
      ((Selector.lift (Regex.literal text)).run s) :=
  agree_lift hs fun _ h => .unplaced (Regex.unplaced_of_literal h)

theorem agree_eat (c : Char) (hs : s <:+ src) :
    Agree registry src ((eat c).run src (place src s)) ((Scan.eat c : Read _).run s) := by
  rw [run_eat c hs, Scan.run_eat]
  split
  · exact agree_ok ((List.tail_suffix s).trans hs)
  · exact agree_ok hs

/-- Blanks are passed over, whether or not it matters that there were some. -/
theorem agree_blanks_bind {f : Bool → Move β} {q : Unit → Read β} (hs : s <:+ src)
    (hf : Agree registry src
      ((f (0 < byteLength (s.takeWhile isBlank))).run src (place src (skipBlanks s)))
      ((q ()).run (skipBlanks s))) :
    Agree registry src ((blanks >>= f).run src (place src s)) ((Selector.blanks >>= q).run s) := by
  have hread : Selector.blanks.run s = .ok ((), skipBlanks s) := rfl
  rw [run_bind_of_ok (run_blanks hs), Scan.run_bind, hread]
  exact hf

/-- The closing quote is found at the byte offset of its character. -/
theorem closing?_of_unquote {quote : Char} (h : unquote quote s = some (t, r)) (i : Nat) :
    ∃ u, s = u ++ quote :: r ∧ closing? quote i s = some (t, i + byteLength u) := by
  fun_induction unquote quote s generalizing t i with
  | case1 => cases h
  | case2 =>
    cases h
    exact ⟨[], rfl, by rw [closing?, if_pos rfl]; rfl⟩
  | case3 => cases h
  | case4 d s =>
    cases h
    exact ⟨[], rfl, by rw [closing?, if_pos rfl]; rfl⟩
  | case5 c d s hne hescape ih =>
    obtain ⟨⟨t', r'⟩, hrest, he⟩ := Option.map_eq_some_iff.1 h
    cases he
    obtain ⟨u, rfl, hu⟩ := ih hrest (i + c.utf8Size + d.utf8Size)
    refine ⟨c :: d :: u, rfl, ?_⟩
    obtain ⟨-, rfl⟩ : c = '\\' ∧ d = quote := by simpa using hescape
    rw [closing?, if_neg hne, if_pos hescape, hu, byteLength_cons, byteLength_cons, ← Nat.add_assoc,
      ← Nat.add_assoc]
    rfl
  | case6 c d s hne hescape ih =>
    obtain ⟨⟨t', r'⟩, hrest, he⟩ := Option.map_eq_some_iff.1 h
    cases he
    obtain ⟨u, hs, hu⟩ := ih hrest (i + c.utf8Size)
    refine ⟨c :: u, congrArg (c :: ·) hs, ?_⟩
    rw [closing?, if_neg hne, if_neg hescape, hu, byteLength_cons, ← Nat.add_assoc]
    rfl

theorem closing?_eq_none {quote : Char} (h : unquote quote s = none) (i : Nat) :
    closing? quote i s = none := by
  fun_induction unquote quote s generalizing i with
  | case1 => rfl
  | case2 => cases h
  | case3 c hne => rw [closing?, if_neg hne]
  | case4 => cases h
  | case5 c d s hne hescape ih =>
    rw [closing?, if_neg hne, if_pos hescape, ih (Option.map_eq_none_iff.1 h)]
    rfl
  | case6 c d s hne hescape ih =>
    rw [closing?, if_neg hne, if_neg hescape, ih (Option.map_eq_none_iff.1 h)]
    rfl

theorem utf8Size_of_isQuote (hq : isQuote c) : c.utf8Size = 1 := by
  rcases Selector.isQuote_iff.1 hq with rfl | rfl <;> rfl

theorem suffix_of_unquote {quote : Char} (h : unquote quote s = some (t, r)) (hs : s <:+ src) :
    r <:+ src := by
  obtain ⟨u, rfl, -⟩ := closing?_of_unquote h 0
  exact suffix_of_cons (suffix_of_append hs)

theorem run_quoted?_cons (hq : isQuote c) (hs : c :: s <:+ src) :
    quoted?.run src (place src (c :: s)) =
      match unquote c s with
      | some (t, r) => .ok (some (String.ofList t), place src r)
      | none => .error (.error (.malformed (place src (c :: s)) .openQuote)) := by
  have hs' : s <:+ src := suffix_of_cons hs
  have hopen : (advance 1).run src (place src (c :: s)) = .ok ((), place src s) := by
    rw [← utf8Size_of_isQuote hq]
    exact run_advance (t := [c]) hs
  unfold quoted?
  rw [run_bind_of_ok run_position, run_bind_of_ok (run_peek hs), List.head?_cons]
  dsimp only
  rw [if_pos hq, run_bind_of_ok hopen, run_bind_of_ok (run_rest hs')]
  cases hu : unquote c s with
  | none =>
    rw [closing?_eq_none hu]
    rfl
  | some x =>
    obtain ⟨t, r⟩ := x
    obtain ⟨u, rfl, hclosing⟩ := closing?_of_unquote hu 0
    have hlength : byteLength (u ++ [c]) = byteLength u + 1 := by
      rw [byteLength_append, byteLength_cons, byteLength_nil, Nat.add_zero, utf8Size_of_isQuote hq]
    have hclose : (advance (byteLength u + 1)).run src (place src (u ++ c :: r)) =
        .ok ((), place src r) := by
      have hend : u ++ [c] ++ r <:+ src := by rwa [List.append_assoc]
      have h := run_advance hend
      rwa [hlength, List.append_assoc] at h
    rw [hclosing, Nat.zero_add]
    dsimp only
    rw [run_bind_of_ok hclose]
    rfl

theorem run_quoted?_of_stopsAt (hs : s <:+ src) (hq : StopsAt isQuote s.head?) :
    quoted?.run src (place src s) = .ok (none, place src s) := by
  unfold quoted?
  rw [run_bind_of_ok run_position, run_bind_of_ok (run_peek hs)]
  cases s with
  | nil => rfl
  | cons c s =>
    rw [List.head?_cons, stopsAt_some] at hq
    rw [List.head?_cons]
    dsimp only
    rw [hq]
    rfl

theorem agree_quoted? (hs : s <:+ src) :
    Agree registry src (quoted?.run src (place src s)) (Selector.quoted?.run s) := by
  by_cases hstop : StopsAt isQuote s.head?
  · rw [run_quoted?_of_stopsAt hs hstop, Selector.run_quoted?_of_stopsAt hstop]
    exact agree_ok hs
  · cases s with
    | nil => exact absurd (stopsAt_none _) hstop
    | cons c s =>
      have hq : isQuote c := by simpa using hstop
      unfold Selector.quoted?
      rw [run_quoted?_cons hq hs, Scan.run_ahead_bind]
      dsimp only
      rw [if_pos hq, Scan.run_bind, Scan.run_drop]
      dsimp only
      rw [List.drop_one, List.tail_cons, Scan.run_bind, Selector.run_quoted]
      cases hu : unquote c s with
      | none => exact ⟨.fault hs, rfl⟩
      | some x => exact agree_ok (suffix_of_unquote hu (suffix_of_cons hs))

theorem takeWhile_eq_nil_iff {p : Char → Bool} : s.takeWhile p = [] ↔ StopsAt p s.head? := by
  cases s with
  | nil => simp
  | cons c s => cases hc : p c <;> simp [hc]

theorem agree_attributeName (hs : s <:+ src) :
    Agree registry src (attributeName.run src (place src s)) (Selector.attributeName.run s) := by
  refine (agree_eat '*' hs).bind fun star r _ hr => ?_
  cases star with
  | true => exact agree_anchored _ hr
  | false =>
    refine (agree_quoted? hr).bind fun o r _ hr => ?_
    cases o with
    | some pattern => exact agree_anchored pattern hr
    | none =>
      dsimp only
      rw [run_bind_of_ok (run_countWhile _ hr), Scan.run_ahead_bind, Scan.run_bind,
        Scan.run_takeWhile]
      dsimp only
      by_cases hw : r.takeWhile isIdentChar = []
      · rw [if_pos (byteLength_eq_zero_iff.2 hw), if_pos (by rw [hw]; rfl)]
        exact agree_fault hr
      · rw [if_neg fun h => hw (byteLength_eq_zero_iff.1 h), if_neg (by simpa using hw),
          run_bind_of_ok (run_take_takeWhile _ hr)]
        exact agree_literal _ (suffix_dropWhile _ hr)

theorem agree_attributeValue (hs : s <:+ src) :
    Agree registry src (attributeValue.run src (place src s)) (Selector.attributeValue.run s) := by
  refine (agree_quoted? hs).bind fun o r _ hr => ?_
  cases o with
  | some pattern => exact agree_anchored pattern hr
  | none =>
    dsimp only
    rw [run_bind_of_ok (run_countWhile _ hr), run_bind_of_ok (run_take_takeWhile _ hr),
      Scan.run_bind, Scan.run_takeWhile]
    exact agree_literal _ (suffix_dropWhile _ hr)

theorem agree_clause (hstart : t <:+ src) (hs : s <:+ src) :
    Agree registry src ((clause (place src t)).run src (place src s))
      ((Selector.attributeSnippet t).run s) := by
  unfold clause Selector.attributeSnippet
  have hclose : ∀ {name : Regex} {value : Option Regex} {r : List Char}, r <:+ src →
      Agree registry src
        ((do
          let _ ← blanks
          if ← eat ']' then return .hasAttribute name value
          else fault (place src t) .openAttribute : Move Filter).run src (place src r))
        ((do
          Selector.blanks
          if ← Scan.eat ']' then return .hasAttribute name value
          else Scan.fail (.fault t .openAttribute) : Read Filter).run r) := by
    intro name value r hr
    refine agree_blanks_bind hr ((agree_eat ']' (suffix_skipBlanks hr)).bind fun closed r _ hr => ?_)
    cases closed with
    | true => exact agree_pure _ hr
    | false => exact agree_fault hstart
  refine agree_blanks_bind hs ((agree_attributeName (suffix_skipBlanks hs)).bind fun name r _ hr => ?_)
  refine agree_blanks_bind hr ((agree_eat '=' (suffix_skipBlanks hr)).bind fun equals r _ hr => ?_)
  cases equals with
  | true =>
    refine agree_blanks_bind hr
      ((agree_attributeValue (suffix_skipBlanks hr)).bind fun value r _ hr => ?_)
    exact (agree_pure _ hr).bind fun _ _ _ hr => hclose hr
  | false => exact (agree_pure _ hr).bind fun _ _ _ hr => hclose hr

theorem agree_argumentValue (hs : s <:+ src) :
    Agree registry src (argumentValue.run src (place src s)) (Selector.argumentValue.run s) := by
  refine (agree_quoted? hs).bind fun o r _ hr => ?_
  cases o with
  | some text => exact agree_pure _ hr
  | none =>
    dsimp only
    rw [run_bind_of_ok (run_countWhile _ hr), run_bind_of_ok run_position,
      run_bind_of_ok (run_slice_takeWhile _ hr _), Scan.run_ahead_bind, Scan.run_bind,
      Scan.run_takeWhile]
    dsimp only
    split
    · exact agree_fault hr
    · rw [run_bind_of_ok (run_advance_takeWhile _ hr)]
      exact agree_pure _ (suffix_dropWhile _ hr)

theorem run_lookahead {m : Move α} {a : α} {q : Nat} (h : m.run src pos = .ok (a, q)) :
    (lookahead m).run src pos = .ok (a, pos) := by
  rw [Move.run] at h
  rw [Move.run, lookahead, h]

theorem agree_argumentKey (hs : s <:+ src) :
    Agree registry src (argumentKey.run src (place src s)) (Selector.argumentKey.run s) := by
  have hword := suffix_dropWhile isIdentChar hs
  have hskip := suffix_skipBlanks hword
  have hnext : (lookahead do
      advance (byteLength (s.takeWhile isIdentChar))
      let _ ← blanks
      peek).run src (place src s) =
        .ok ((skipBlanks (s.dropWhile isIdentChar)).head?, place src s) := by
    refine run_lookahead (q := place src (skipBlanks (s.dropWhile isIdentChar))) ?_
    rw [run_bind_of_ok (run_advance_takeWhile _ hs), run_bind_of_ok (run_blanks hword)]
    exact run_peek hskip
  unfold argumentKey Selector.argumentKey
  rw [run_bind_of_ok (run_countWhile _ hs), run_bind_of_ok hnext, Scan.run_ahead_bind]
  dsimp only
  split
  · next hfound =>
    obtain ⟨hkey, hhead⟩ : s.takeWhile isIdentChar ≠ [] ∧
        (skipBlanks (s.dropWhile isIdentChar)).head? = some '=' := by
      simpa [Nat.pos_iff_ne_zero, byteLength_eq_zero_iff] using hfound
    obtain ⟨rest, hrest⟩ := List.head?_eq_some_iff.1 hhead
    rw [hrest] at hskip
    have hrest' : rest <:+ src := suffix_of_cons hskip
    have hdrop : s.drop (s.length - rest.length) = rest := by
      have h : '=' :: rest <:+ s := by
        rw [← hrest]
        exact suffix_skipBlanks (suffix_dropWhile isIdentChar List.suffix_rfl)
      exact (List.suffix_iff_eq_drop.1 (suffix_of_cons h)).symm
    have hblanks := run_blanks hword
    rw [hrest] at hblanks
    have hequals : (advance 1).run src (place src ('=' :: rest)) = .ok ((), place src rest) :=
      run_advance (t := ['=']) hskip
    simp only [hrest]
    rw [run_bind_of_ok (run_take_takeWhile _ hs), run_bind_of_ok hblanks, run_bind_of_ok hequals,
      if_neg (by simpa using hkey), Scan.run_bind, Scan.run_drop, hdrop]
    exact agree_blanks_bind hrest' (agree_pure _ (suffix_skipBlanks hrest'))
  · next hnone =>
    split
    · next rest hrest =>
      have hkey : s.takeWhile isIdentChar = [] := by
        simpa [hrest, Nat.pos_iff_ne_zero, byteLength_eq_zero_iff] using hnone
      rw [hkey]
      exact agree_pure none hs
    · exact agree_pure none hs

theorem agree_argument (hs : s <:+ src) :
    Agree registry src (argument.run src (place src s)) (Selector.argument.run s) := by
  refine agree_blanks_bind hs ((agree_argumentKey (suffix_skipBlanks hs)).bind fun key r _ hr => ?_)
  refine (agree_argumentValue hr).bind fun value r _ hr => ?_
  exact agree_blanks_bind hr (agree_pure _ (suffix_skipBlanks hr))

/-- Every round takes a comma, so there are no more rounds than characters. -/
theorem agree_arguments {function : String} {rounds : Nat} {args : Args} (ht : t <:+ src)
    (hs : s <:+ src) (hrounds : s.length < rounds) :
    Agree registry src ((arguments (place src t) function rounds args).run src (place src s))
      ((Scan.commaList (.fault t (.openCall function)) Selector.argument ')' >>= fun given =>
        pure (given.foldl Selector.addArgument args)).run s) := by
  induction rounds generalizing s args with
  | zero => cases hrounds
  | succ rounds ih =>
    have hargument : Agree registry src _ _ := agree_argument hs
    rw [arguments, Scan.run_bind, Scan.run_commaList]
    cases hrun : Selector.argument.run s with
    | error stop =>
      rw [hrun] at hargument
      exact ⟨hargument.1, run_bind_of_error hargument.2⟩
    | ok x =>
      obtain ⟨a, r⟩ := x
      rw [hrun] at hargument
      obtain ⟨hr, hargument⟩ := hargument
      have hlength := Scan.length_le_of_run hrun
      rw [run_bind_of_ok hargument]
      cases r with
      | nil =>
        rw [run_bind_of_ok (run_eat_of_ne hr nofun), if_neg Bool.false_ne_true,
          run_bind_of_ok (run_eat_of_ne hr nofun), if_neg Bool.false_ne_true]
        exact ⟨.fault ht, rfl⟩
      | cons c r =>
        dsimp only
        by_cases hcomma : c = ','
        · subst hcomma
          have hmore := @ih r (Selector.addArgument args a) (suffix_of_cons hr)
            (Nat.lt_of_lt_of_le hlength (Nat.le_of_lt_succ hrounds))
          rw [run_bind_of_ok (run_eat_cons hr), if_pos rfl, if_pos rfl]
          rw [Scan.run_bind] at hmore
          cases hlist : (Scan.commaList (.fault t (.openCall function)) Selector.argument ')').run r
            <;> (rw [hlist] at hmore; exact hmore)
        · rw [run_bind_of_ok (run_eat_of_ne hr (by simpa using hcomma)), if_neg Bool.false_ne_true,
            if_neg hcomma]
          by_cases hclose : c = ')'
          · subst hclose
            rw [run_bind_of_ok (run_eat_cons hr), if_pos rfl, if_pos rfl]
            exact agree_ok (suffix_of_cons hr)
          · rw [run_bind_of_ok (run_eat_of_ne hr (by simpa using hclose)),
              if_neg Bool.false_ne_true, if_neg hclose]
            exact ⟨.fault ht, rfl⟩

/-- The arguments of a call, with the parenthesis behind them. -/
theorem agree_callArguments {function : String} {rounds : Nat} (ht : t <:+ src) (hs : s <:+ src)
    (hrounds : s.length < rounds) :
    Agree registry src ((callArguments (place src t) function rounds).run src (place src s))
      ((Selector.callArguments t function).run s) := by
  unfold callArguments Selector.callArguments
  refine agree_blanks_bind hs
    ((agree_eat ')' (suffix_skipBlanks hs)).bind fun closed r hrun hr => ?_)
  cases closed with
  | true =>
    dsimp only
    rw [if_pos rfl, if_pos rfl, Scan.run_pure_bind]
    exact agree_pure _ hr
  | false =>
    have hlength : r.length < rounds := by
      have hle := Scan.length_le_of_run hrun
      exact Nat.lt_of_le_of_lt (Nat.le_trans hle (length_skipBlanks_le s)) hrounds
    exact agree_arguments ht hr hlength

/-- A call, where the name of the function and the parenthesis have been found ahead. -/
theorem agree_call {w : List Char} {rounds : Nat} (hs : w ++ '(' :: s <:+ src)
    (hrounds : s.length < rounds) :
    Agree registry src
      ((call registry rounds (byteLength w)).run src (place src (w ++ '(' :: s)))
      ((Selector.callSnippet registry (w ++ '(' :: s) (String.ofList w)).run s) := by
  have hopen : '(' :: s <:+ src := suffix_of_append hs
  have hparenthesis : (advance 1).run src (place src ('(' :: s)) = .ok ((), place src s) :=
    run_advance (t := ['(']) hopen
  have hs' : s <:+ src := suffix_of_cons hopen
  unfold call Selector.callSnippet
  rw [run_bind_of_ok run_position, run_bind_of_ok (run_take hs), run_bind_of_ok hparenthesis]
  refine (agree_callArguments hs hs' hrounds).bind fun args r hargs hr => ?_
  obtain ⟨t, as, rfl, ht, rfl⟩ := Selector.run_callArguments_eq_ok_iff.1 hargs
  have hcall : (String.ofList w).toList ++ '(' :: (t ++ [')']) <:+: src := by
    have hw : w ++ '(' :: (t ++ [')']) <+: w ++ '(' :: (t ++ ')' :: r) := ⟨r, by simp⟩
    rw [String.toList_ofList]
    exact hw.isInfix.trans hs.isInfix
  exact (agree_lift hr fun _ h => .resolve hcall ht h).bind fun _ _ _ hr => agree_pure _ hr

end Cursor

end GraphSelect
