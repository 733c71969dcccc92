import GraphSelect.Proofs.Selector.Cursor
import GraphSelect.Proofs.Selector.Token

/-!
# Positions and what is left of a text

A position between two characters of a text belongs to what is left behind it. At such positions
every slice is possible, and each movement of a program leads to such a position again: lengths that
were counted end where a run of characters ends, and the fixed ones pass over characters of one
byte. A program agrees with a reader when it does at the position of a text what the reader does
with the text.
-/
namespace GraphSelect

open Text

theorem Text.byteLength_cons_ne_zero (c : Char) (s : List Char) : byteLength (c :: s) ≠ 0 :=
  Nat.ne_of_gt (Nat.add_pos_left c.utf8Size_pos _)

theorem Text.cut?_append (a b : List Char) : cut? (byteLength a) (a ++ b) = some (a, b) := by
  induction a with
  | nil => rw [byteLength_nil, List.nil_append, cut?]
  | cons c a ih =>
    obtain ⟨n, hn⟩ := Nat.exists_eq_add_one_of_ne_zero (byteLength_cons_ne_zero c a)
    have hle : c.utf8Size ≤ n + 1 := by
      rw [← hn]
      exact Nat.le_add_right _ _
    have hrest : n + 1 - c.utf8Size = byteLength a := by
      rw [← hn, byteLength_cons, Nat.add_sub_cancel_left]
    rw [hn, List.cons_append, cut?, if_pos hle, hrest, ih]
    rfl

theorem Text.length_le_byteLength (s : List Char) : s.length ≤ byteLength s := by
  induction s with
  | nil => exact Nat.le_refl 0
  | cons c s ih =>
    have hpos := c.utf8Size_pos
    rw [List.length_cons, byteLength_cons]
    omega

theorem Text.utf8ByteSize_ofList (s : List Char) :
    (String.ofList s).utf8ByteSize = byteLength s := by
  induction s with
  | nil => rfl
  | cons c s ih =>
    rw [String.ofList_cons, String.utf8ByteSize_append, String.utf8ByteSize_singleton, ih,
      byteLength_cons]

/-- Between two characters of a text is a position of the string. -/
theorem Text.isValid_of_eq_append {text : String} {a b : List Char} (h : text.toList = a ++ b) :
    (⟨byteLength a⟩ : String.Pos.Raw).IsValid text := by
  refine String.Pos.Raw.isValid_iff_exists_append.2 ⟨String.ofList a, String.ofList b, ?_, ?_⟩
  · rw [← String.ofList_append, ← h, String.ofList_toList]
  · rw [String.Pos.Raw.ext_iff, String.byteIdx_rawEndPos, utf8ByteSize_ofList]

theorem Text.byteLength_eq_zero_iff {s : List Char} : byteLength s = 0 ↔ s = [] := by
  cases s with
  | nil => simp
  | cons c s => exact ⟨fun h => absurd h (byteLength_cons_ne_zero c _), nofun⟩

namespace Cursor

variable {α β : Type} {src s r t : List Char} {c : Char} {inBlock : Bool} {pos : Nat}

/-- Where what is left of a text begins. -/
def place (src s : List Char) : Nat := byteLength src - byteLength s

theorem place_of_eq_append {a : List Char} (h : src = a ++ s) : place src s = byteLength a := by
  rw [place, h, byteLength_append, Nat.add_sub_cancel]

theorem place_self (src : List Char) : place src src = 0 := Nat.sub_self _

theorem place_append (h : t ++ r <:+ src) : place src (t ++ r) + byteLength t = place src r := by
  obtain ⟨a, rfl⟩ := h
  rw [place_of_eq_append rfl, place_of_eq_append (List.append_assoc a t r).symm, byteLength_append]

theorem suffix_of_append (h : t ++ r <:+ src) : r <:+ src := (List.suffix_append t r).trans h

theorem suffix_of_cons (h : c :: r <:+ src) : r <:+ src := (List.suffix_cons c r).trans h

theorem suffix_dropWhile (p : Char → Bool) (hs : s <:+ src) : s.dropWhile p <:+ src :=
  (List.dropWhile_suffix p).trans hs

theorem suffix_skipBlanks (hs : s <:+ src) : skipBlanks s <:+ src := suffix_dropWhile isBlank hs

theorem cut?_place (hs : s <:+ src) : ∃ a, cut? (place src s) src = some (a, s) := by
  obtain ⟨a, rfl⟩ := hs
  exact ⟨a, by rw [place_of_eq_append rfl, cut?_append]⟩

theorem run_bind (m : Move α) (f : α → Move β) (src : List Char) (pos : Nat) :
    (m >>= f).run src pos =
      match m.run src pos with
      | .ok (a, pos') => (f a).run src pos'
      | .error h => .error h := rfl

theorem run_bind_of_ok {m : Move α} {f : α → Move β} {a : α} {pos' : Nat}
    (h : m.run src pos = .ok (a, pos')) : (m >>= f).run src pos = (f a).run src pos' := by
  rw [run_bind, h]

theorem run_bind_of_error {m : Move α} {f : α → Move β} {e : Halt}
    (h : m.run src pos = .error e) : (m >>= f).run src pos = .error e := by
  rw [run_bind, h]

@[simp] theorem run_pure (a : α) : (pure a : Move α).run src pos = .ok (a, pos) := rfl

theorem run_position : position.run src pos = .ok (pos, pos) := rfl

theorem run_rest (hs : s <:+ src) : rest.run src (place src s) = .ok (s, place src s) := by
  obtain ⟨a, ha⟩ := cut?_place hs
  rw [Move.run, rest, ha]

theorem run_peek (hs : s <:+ src) : peek.run src (place src s) = .ok (s.head?, place src s) := by
  unfold peek
  rw [run_bind_of_ok (run_rest hs)]
  rfl

theorem run_peekAt (h : t ++ r <:+ src) :
    (peekAt (byteLength t)).run src (place src (t ++ r)) = .ok (r.head?, place src (t ++ r)) := by
  unfold peekAt
  rw [run_bind_of_ok (run_rest h), cut?_append]
  rfl

theorem run_startsWith (t : List Char) (hs : s <:+ src) :
    (startsWith t).run src (place src s) = .ok (t.isPrefixOf s, place src s) := by
  unfold startsWith
  rw [run_bind_of_ok (run_rest hs)]
  rfl

theorem run_advance (h : t ++ r <:+ src) :
    (advance (byteLength t)).run src (place src (t ++ r)) = .ok ((), place src r) := by
  have hle : place src r ≤ byteLength src := Nat.sub_le _ _
  rw [Move.run, advance, place_append h, Nat.min_eq_left hle]

theorem run_slice (h : t ++ r <:+ src) (pos : Nat) :
    (slice (place src (t ++ r)) (place src (t ++ r) + byteLength t)).run src pos =
      .ok (t, pos) := by
  obtain ⟨a, ha⟩ := cut?_place h
  rw [Move.run, slice, if_neg (Nat.not_lt.2 (Nat.le_add_right _ _)), ha]
  dsimp only
  rw [Nat.add_sub_cancel_left, cut?_append]

theorem run_take (h : t ++ r <:+ src) :
    (take (byteLength t)).run src (place src (t ++ r)) = .ok (t, place src r) := by
  unfold take
  rw [run_bind_of_ok run_position, run_bind_of_ok (run_slice h _), run_bind_of_ok (run_advance h)]
  rfl

theorem run_countWhile (p : Char → Bool) (hs : s <:+ src) :
    (countWhile p).run src (place src s) = .ok (byteLength (s.takeWhile p), place src s) := by
  unfold countWhile
  rw [run_bind_of_ok (run_rest hs)]
  rfl

theorem suffix_takeWhile (p : Char → Bool) (hs : s <:+ src) :
    s.takeWhile p ++ s.dropWhile p <:+ src := by
  rwa [List.takeWhile_append_dropWhile]

theorem run_take_takeWhile (p : Char → Bool) (hs : s <:+ src) :
    (take (byteLength (s.takeWhile p))).run src (place src s) =
      .ok (s.takeWhile p, place src (s.dropWhile p)) := by
  have h := run_take (suffix_takeWhile p hs)
  rwa [List.takeWhile_append_dropWhile] at h

theorem run_advance_takeWhile (p : Char → Bool) (hs : s <:+ src) :
    (advance (byteLength (s.takeWhile p))).run src (place src s) =
      .ok ((), place src (s.dropWhile p)) := by
  have h := run_advance (suffix_takeWhile p hs)
  rwa [List.takeWhile_append_dropWhile] at h

theorem run_slice_takeWhile (p : Char → Bool) (hs : s <:+ src) (pos : Nat) :
    (slice (place src s) (place src s + byteLength (s.takeWhile p))).run src pos =
      .ok (s.takeWhile p, pos) := by
  have h := run_slice (suffix_takeWhile p hs) pos
  rwa [List.takeWhile_append_dropWhile] at h

theorem run_peekAt_takeWhile (p : Char → Bool) (hs : s <:+ src) :
    (peekAt (byteLength (s.takeWhile p))).run src (place src s) =
      .ok ((s.dropWhile p).head?, place src s) := by
  have h := run_peekAt (suffix_takeWhile p hs)
  rwa [List.takeWhile_append_dropWhile] at h

theorem run_blanks (hs : s <:+ src) :
    blanks.run src (place src s) =
      .ok (0 < byteLength (s.takeWhile isBlank), place src (skipBlanks s)) := by
  unfold blanks
  rw [run_bind_of_ok (run_countWhile isBlank hs), run_bind_of_ok (run_advance_takeWhile isBlank hs)]
  rfl

theorem run_eat (c : Char) (hs : s <:+ src) :
    (eat c).run src (place src s) =
      .ok (if s.head? = some c then (true, place src s.tail) else (false, place src s)) := by
  unfold eat
  rw [run_bind_of_ok (run_peek hs)]
  by_cases hc : s.head? = some c
  · obtain ⟨r, rfl⟩ := List.head?_eq_some_iff.1 hc
    have hadvance : (advance c.utf8Size).run src (place src (c :: r)) = .ok ((), place src r) :=
      run_advance (t := [c]) hs
    rw [if_pos hc, if_pos hc, run_bind_of_ok hadvance]
    rfl
  · rw [if_neg hc, if_neg hc]
    rfl

theorem run_eat_cons (hs : c :: r <:+ src) :
    (eat c).run src (place src (c :: r)) = .ok (true, place src r) := by
  rw [run_eat c hs, List.head?_cons, if_pos rfl]
  rfl

theorem run_eat_of_ne (hs : s <:+ src) (hc : s.head? ≠ some c) :
    (eat c).run src (place src s) = .ok (false, place src s) := by
  rw [run_eat c hs, if_neg hc]

theorem run_eatAll (t : List Char) (hs : s <:+ src) :
    (eatAll t).run src (place src s) =
      .ok (if t.isPrefixOf s then (true, place src (s.drop t.length)) else (false, place src s)) := by
  unfold eatAll
  rw [run_bind_of_ok (run_startsWith t hs)]
  by_cases ht : t.isPrefixOf s
  · obtain ⟨r, rfl⟩ := List.isPrefixOf_iff_prefix.1 ht
    rw [if_pos ht, if_pos ht, run_bind_of_ok (run_advance hs), List.drop_left]
    rfl
  · rw [if_neg ht, if_neg ht]
    rfl

theorem run_atEnd (hs : s <:+ src) :
    atEnd.run src (place src s) = .ok (s.isEmpty, place src s) := by
  obtain ⟨a, rfl⟩ := hs
  have hend : (byteLength (a ++ s) ≤ place (a ++ s) s) ↔ s = [] := by
    rw [place_of_eq_append rfl, byteLength_append, ← byteLength_eq_zero_iff]
    omega
  rw [Move.run, atEnd, decide_eq_decide.2 hend]
  cases s <;> rfl

theorem run_atClose (hs : s <:+ src) :
    (atClose inBlock).run src (place src s) = .ok (Selector.closes inBlock s, place src s) := by
  unfold atClose
  rw [run_bind_of_ok (run_atEnd hs)]
  cases s with
  | nil => rfl
  | cons c s =>
    change (peek >>= _).run src (place src (c :: s)) = _
    rw [run_bind_of_ok (run_peek hs)]
    simp [Selector.closes]

theorem run_isBoundary (h : t ++ r <:+ src) :
    (isBoundary inBlock (byteLength t)).run src (place src (t ++ r)) =
      .ok (Selector.isBoundary inBlock r, place src (t ++ r)) := by
  unfold isBoundary
  rw [run_bind_of_ok (run_peekAt h)]
  cases r <;> rfl

theorem run_unexpected_cons (hs : c :: s <:+ src) :
    (unexpected : Move α).run src (place src (c :: s)) =
      .error (.error (.malformed (place src (c :: s)) (.unexpected c))) := by
  unfold unexpected
  rw [run_bind_of_ok (run_peek hs)]
  rfl

end Cursor

end GraphSelect
