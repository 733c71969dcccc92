import GraphSelect.Proofs.Selector.Agreement

/-!
# Quoting a text

A text is quoted by a backslash in front of each quote of the kind around it. What is read back is
the text, since a backslash anywhere else stands for itself, and nothing behind the closing quote is
touched. Only a text that ends in a backslash cannot be quoted: that backslash would take the meaning
from the closing quote, and no other way to write the text gets around it.
-/
namespace GraphSelect

open Text Grammar
open Selector (isQuote)

/-- A text with a backslash in front of every quote of a kind. -/
def Selector.escaped (quote : Char) (t : List Char) : List Char :=
  t.flatMap fun c => if c = quote then ['\\', c] else [c]

def Selector.quotation (quote : Char) (t : List Char) : List Char :=
  quote :: (Selector.escaped quote t ++ [quote])

open Selector (escaped quotation)

variable {quote c : Char} {s t : List Char}

theorem Selector.escaped_cons (quote c : Char) (t : List Char) :
    escaped quote (c :: t) = (if c = quote then ['\\', c] else [c]) ++ escaped quote t := rfl

theorem Selector.ne_backslash_of_isQuote (hq : isQuote quote) : quote ≠ '\\' := by
  rintro rfl
  cases hq

namespace Grammar

theorem head?_escaped_ne (hquote : quote ≠ '\\') (hne : t ≠ []) (u : List Char) :
    (escaped quote t ++ u).head? ≠ some quote := by
  obtain ⟨d, t, rfl⟩ := List.exists_cons_of_ne_nil hne
  rw [Selector.escaped_cons]
  split
  · exact fun h => hquote (Option.some.inj h).symm
  · next hd => exact fun h => hd (Option.some.inj h)

theorem getLast?_tail_ne (h : (c :: t).getLast? ≠ some '\\') : t.getLast? ≠ some '\\' := by
  intro ht
  rw [List.getLast?_cons, ht] at h
  exact h rfl

/-- An escaped text stands for the text, unless it would end in a backslash. -/
theorem quoted_escaped (hquote : quote ≠ '\\') (hlast : t.getLast? ≠ some '\\') :
    Quoted quote (escaped quote t ++ [quote]) t := by
  induction t with
  | nil => exact .close
  | cons c t ih =>
    have hrest := ih (getLast?_tail_ne hlast)
    rw [Selector.escaped_cons]
    split
    · next hc =>
      subst hc
      exact .escaped hrest
    · next hc =>
      refine .plain hc (fun hbackslash => head?_escaped_ne hquote ?_ _) hrest
      rintro rfl
      exact hlast (congrArg some hbackslash)

theorem eq_of_quoted_nil (h : Quoted quote s []) : s = [quote] := by
  cases h
  rfl

/-- What stands between quotes never ends in a backslash. -/
theorem getLast?_ne_of_quoted (hquote : quote ≠ '\\') (h : Quoted quote s t) :
    t.getLast? ≠ some '\\' := by
  induction h with
  | close => exact nofun
  | @escaped s t _ ih =>
    cases t with
    | nil => exact fun he => hquote (Option.some.inj he)
    | cons d t => rwa [List.getLast?_cons_cons]
  | @plain c s t _ hs hrest ih =>
    cases t with
    | nil =>
      -- The closing quote is next, and a backslash here would take its meaning.
      rintro he
      exact hs (Option.some.inj he) (by rw [eq_of_quoted_nil hrest]; rfl)
    | cons d t => rwa [List.getLast?_cons_cons]

end Grammar

namespace Selector

theorem quotedText_quotation (hq : isQuote quote) (hlast : t.getLast? ≠ some '\\') :
    QuotedText (quotation quote t) t :=
  .mk hq (quoted_escaped (ne_backslash_of_isQuote hq) hlast)

/-- No text is read as one that ends in a backslash. -/
theorem getLast?_ne_of_run_quoted? {x : String} {r : List Char}
    (h : quoted?.run s = .ok (some x, r)) : x.toList.getLast? ≠ some '\\' := by
  rcases run_quoted?_eq_ok_iff.1 h with ⟨u, t, -, ⟨hq, ht⟩, hx⟩ | ⟨hx, -⟩
  · rw [Option.some.inj hx, String.toList_ofList]
    exact getLast?_ne_of_quoted (ne_backslash_of_isQuote hq) ht
  · cases hx

end Selector

theorem Text.eq_append_of_cut? {n : Nat} {a b : List Char} (h : cut? n s = some (a, b)) :
    s = a ++ b ∧ n = byteLength a := by
  fun_induction cut? n s generalizing a with
  | case1 s =>
    cases h
    exact ⟨rfl, rfl⟩
  | case2 => cases h
  | case3 n c s hle ih =>
    obtain ⟨⟨a', b'⟩, hcut, he⟩ := Option.map_eq_some_iff.1 h
    cases he
    obtain ⟨rfl, hn⟩ := ih hcut
    refine ⟨rfl, ?_⟩
    rw [byteLength_cons, ← hn]
    omega
  | case4 => cases h

namespace Cursor

/-- Wherever a text is read by byte positions, it is read from some part of the whole. -/
theorem exists_run_quoted? {src : List Char} {pos pos' : Nat} {x : String}
    (h : quoted?.run src pos = .ok (some x, pos')) :
    ∃ s r, Selector.quoted?.run s = .ok (some x, r) := by
  cases hcut : cut? pos src with
  | none =>
    have hrest : rest.run src pos = .error .badSlice := by rw [Move.run, rest, hcut]
    have hpeek : peek.run src pos = .error .badSlice := run_bind_of_error hrest
    unfold quoted? at h
    rw [run_bind_of_ok run_position, run_bind_of_error hpeek] at h
    cases h
  | some p =>
    obtain ⟨a, s⟩ := p
    obtain ⟨rfl, rfl⟩ := eq_append_of_cut? hcut
    have hagree := @agree_quoted? .empty _ _ (List.suffix_append a s)
    rw [place_of_eq_append rfl, h] at hagree
    cases hread : Selector.quoted?.run s with
    | error stop =>
      rw [hread] at hagree
      cases hagree.2
    | ok y =>
      obtain ⟨o, r⟩ := y
      rw [hread] at hagree
      have he := Except.ok.inj hagree.2
      rw [Prod.mk.injEq] at he
      rw [he.1]
      exact ⟨s, r, hread⟩

end Cursor

namespace Selector

/-- A text in quotes is read back exactly, up to right behind the closing quote, both by what is left
and by byte positions. A text that ends in a backslash is read from no source at all. -/
theorem quotation_exact (hq : isQuote quote) (text : String) :
    (text.toList.getLast? ≠ some '\\' → ∀ before rest : List Char,
      quoted?.run (quotation quote text.toList ++ rest) = .ok (some text, rest) ∧
      Cursor.quoted?.run (before ++ quotation quote text.toList ++ rest) (byteLength before) =
        .ok (some text, byteLength (before ++ quotation quote text.toList))) ∧
    (text.toList.getLast? = some '\\' →
      (∀ source rest, quoted?.run source ≠ .ok (some text, rest)) ∧
      ∀ source pos pos', Cursor.quoted?.run source pos ≠ .ok (some text, pos')) := by
  constructor
  · intro hlast before rest
    have hread : quoted?.run (quotation quote text.toList ++ rest) = .ok (some text, rest) := by
      rw [run_quoted?_append (quotedText_quotation hq hlast), String.ofList_toList]
    have hagree := @Cursor.agree_quoted? .empty _ _
      (List.suffix_append before (quotation quote text.toList ++ rest))
    rw [hread, ← List.append_assoc, Cursor.place_of_eq_append (List.append_assoc _ _ _)] at hagree
    refine ⟨hread, ?_⟩
    rw [hagree.2, Cursor.place_of_eq_append rfl]
  · intro hlast
    refine ⟨fun source rest h => getLast?_ne_of_run_quoted? h hlast, fun source pos pos' h => ?_⟩
    obtain ⟨s, r, hread⟩ := Cursor.exists_run_quoted? h
    exact getLast?_ne_of_run_quoted? hread hlast

/-- Of the backslashes, quotes and apostrophes of a text only its quotation marks need a backslash;
one that ends in a backslash cannot be quoted. -/
theorem quotation_exact_marks : isQuote '"' ∧
    quotation '"' "\\\"it's\" \\o/".toList = "\"\\\\\"it's\\\" \\o/\"".toList ∧
    Cursor.quoted?.run "é \"\\\\\"it's\\\" \\o/\"]".toList 3 = .ok (some "\\\"it's\" \\o/", 18) ∧
    ∀ source rest, quoted?.run source ≠ .ok (some "it\\", rest) := by
  have hq : isQuote '"' := by decide
  have hread := (quotation_exact hq "\\\"it's\" \\o/").1 (by decide) "é ".toList "]".toList
  exact ⟨hq, by decide, hread.2, ((quotation_exact hq "it\\").2 (by decide)).1⟩

end Selector

end GraphSelect
