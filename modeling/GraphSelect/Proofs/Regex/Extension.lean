import GraphSelect.Proofs.Regex.Reading
import GraphSelect.Proofs.Text.Scan

/-!
# Readers in front of the anchors

A reader that is given a text with the end of the anchors behind it does what it does on the text
alone, and leaves the end. There are two ways in which it may not: a comment that is open at the end
of the text takes the end as well, and a reader that fails at the end of the text may go on into the
anchors. What it then leaves is shorter than the end, with one exception in the readers below.
-/
namespace GraphSelect.Regex

open Text

variable {α β : Type}

/-- How the outcome of a reader on a text goes with its outcome in front of the anchors. An outcome
that leaves all of the anchors comes from one on the text alone, or is of a kind that is told
apart. -/
structure Extended (apart : α → List Char → Prop) (x y : Except Unit (α × List Char)) : Prop where
  extend : ∀ {a r}, x = .ok (a, r) → y = .ok (a, r ++ anchorEnd) ∨ r = [] ∧ y = .ok (a, [])
  cut : ∀ {a r}, y = .ok (a, r) → anchorEnd.length ≤ r.length →
    (∃ u, r = u ++ anchorEnd ∧ x = .ok (a, u)) ∨ apart a r

def LeavesSuffix (p : Read α) : Prop := ∀ s a r, p.run s = .ok (a, r) → r <:+ s

/-- A reader in front of the anchors does what it does alone, but for what is told apart. -/
structure ExtendsBut (apart : α → List Char → Prop) (p : Read α) : Prop where
  extended : ∀ s, Extended apart (p.run s) (p.run (s ++ anchorEnd))
  leaves : LeavesSuffix p

def Extends (p : Read α) : Prop := ExtendsBut (fun _ _ => False) p

namespace Extended

variable {apart : α → List Char → Prop} {x y : Except Unit (α × List Char)} {a : α}
  {r u : List Char}

/-- Both leave the same, or a comment has taken all. -/
theorem of_rest (h : u = r ++ anchorEnd ∨ r = [] ∧ u = []) :
    Extended apart (.ok (a, r)) (.ok (a, u)) where
  extend := by
    rintro b v ⟨⟩
    exact h.imp (fun h => by rw [h]) fun h => ⟨h.1, by rw [h.2]⟩
  cut := by
    rintro b v ⟨⟩ hle
    rcases h with rfl | ⟨rfl, rfl⟩
    · exact .inl ⟨r, rfl, rfl⟩
    · exact absurd hle (by decide)

theorem ok (a : α) (r : List Char) : Extended apart (.ok (a, r)) (.ok (a, r ++ anchorEnd)) :=
  of_rest (.inl rfl)

/-- Where reading fails on the text alone, it fails in front of the anchors, goes into them or is
told apart. -/
theorem of_error (h : ∀ b v, y = .ok (b, v) → anchorEnd.length ≤ v.length → apart b v) :
    Extended apart (.error ()) y where
  extend := nofun
  cut := fun hy hle => .inr (h _ _ hy hle)

theorem error : Extended apart (.error ()) (.error ()) := of_error nofun

theorem weaken (h : Extended (fun _ _ => False) x y) : Extended apart x y where
  extend := h.extend
  cut := fun hy hle => (h.cut hy hle).imp_right False.elim

/-- Two readers one behind the other. What is told apart of the first one must not be read on, or
be told apart again. -/
theorem bind {p : Read α} {f : α → Read β} {apart' : β → List Char → Prop} {s : List Char}
    (hp : Extended apart (p.run s) (p.run (s ++ anchorEnd)))
    (hf : ∀ a r, p.run s = .ok (a, r) →
      Extended apart' ((f a).run r) ((f a).run (r ++ anchorEnd)))
    (hapart : ∀ a r b v, apart a r → (f a).run r = .ok (b, v) →
      anchorEnd.length ≤ v.length → apart' b v) :
    Extended apart' ((p >>= f).run s) ((p >>= f).run (s ++ anchorEnd)) where
  extend := by
    intro b v h
    obtain ⟨a, r, hr, hv⟩ := Scan.run_bind_eq_ok_iff.1 h
    rcases hp.extend hr with hy | ⟨rfl, hy⟩
    · rcases (hf a r hr).extend hv with hz | ⟨rfl, hz⟩
      · exact .inl (Scan.run_bind_eq_ok_iff.2 ⟨a, _, hy, hz⟩)
      · exact .inr ⟨rfl, Scan.run_bind_eq_ok_iff.2 ⟨a, _, hy, hz⟩⟩
    · have hnil : v = [] := List.eq_nil_of_length_eq_zero
        (Nat.le_zero.1 (Scan.length_le_of_run hv))
      subst hnil
      exact .inr ⟨rfl, Scan.run_bind_eq_ok_iff.2 ⟨a, [], hy, hv⟩⟩
  cut := by
    intro b v h hle
    obtain ⟨a, r, hr, hv⟩ := Scan.run_bind_eq_ok_iff.1 h
    rcases hp.cut hr (Nat.le_trans hle (Scan.length_le_of_run hv)) with ⟨u, rfl, hu⟩ | h
    · refine ((hf a u hu).cut hv hle).imp_left ?_
      rintro ⟨w, hw, hx⟩
      exact ⟨w, hw, Scan.run_bind_eq_ok_iff.2 ⟨a, u, hu, hx⟩⟩
    · exact .inr (hapart a r b v h hv hle)

theorem andThen {p : Read α} {f : α → Read β} {apart : β → List Char → Prop} {s : List Char}
    (hp : Extended (fun _ _ => False) (p.run s) (p.run (s ++ anchorEnd)))
    (hf : ∀ a r, p.run s = .ok (a, r) → Extended apart ((f a).run r) ((f a).run (r ++ anchorEnd))) :
    Extended apart ((p >>= f).run s) ((p >>= f).run (s ++ anchorEnd)) :=
  hp.bind hf fun _ _ _ _ h => h.elim

theorem drop_bind {f : Unit → Read β} {apart : β → List Char → Prop} {c : Char} {s : List Char}
    (h : Extended apart ((f ()).run s) ((f ()).run (s ++ anchorEnd))) :
    Extended apart ((Scan.drop 1 >>= f).run (c :: s))
      ((Scan.drop 1 >>= f).run (c :: (s ++ anchorEnd))) := by
  rw [Scan.run_bind, Scan.run_bind]
  exact h

end Extended

namespace LeavesSuffix

variable {p p' : Read α} {f : α → Read β}

theorem pure (a : α) : LeavesSuffix (pure a : Read α) := by
  rintro s b r ⟨⟩
  exact List.suffix_refl s

theorem fail : LeavesSuffix (Scan.fail () : Read α) := nofun

theorem give (o : Option α) : LeavesSuffix (give o) := by
  cases o with
  | none => exact fail
  | some a => exact pure a

theorem bind (hp : LeavesSuffix p) (hf : ∀ a, LeavesSuffix (f a)) : LeavesSuffix (p >>= f) := by
  intro s b r h
  obtain ⟨a, u, hu, hr⟩ := Scan.run_bind_eq_ok_iff.1 h
  exact (hf a u b r hr).trans (hp s a u hu)

theorem ite {q : Prop} [Decidable q] (hp : LeavesSuffix p) (hp' : LeavesSuffix p') :
    LeavesSuffix (if q then p else p') := by
  split
  · exact hp
  · exact hp'

theorem take : LeavesSuffix take := by
  intro s a r h
  cases s with
  | nil => cases h
  | cons c s =>
    cases h
    exact List.suffix_cons _ _

theorem drop (n : Nat) : LeavesSuffix (Scan.drop n : Read Unit) := by
  rintro s a r ⟨⟩
  exact List.drop_suffix n s

theorem takeWhile (q : Char → Bool) : LeavesSuffix (Scan.takeWhile q : Read (List Char)) := by
  rintro s a r ⟨⟩
  exact List.dropWhile_suffix q

theorem ahead : LeavesSuffix (Scan.ahead : Read (List Char)) := by
  rintro s a r ⟨⟩
  exact List.suffix_refl s

theorem peek : LeavesSuffix (Scan.peek : Read (Option Char)) := by
  rintro s a r ⟨⟩
  exact List.suffix_refl s

end LeavesSuffix

namespace Extends

variable {p : Read α} {f : α → Read β} {a : α} {c : Char}

theorem bind_at {apart : β → List Char → Prop} (hp : Extends p) {s : List Char}
    (hf : ∀ a r, p.run s = .ok (a, r) → Extended apart ((f a).run r) ((f a).run (r ++ anchorEnd))) :
    Extended apart ((p >>= f).run s) ((p >>= f).run (s ++ anchorEnd)) :=
  (hp.extended s).andThen hf

theorem bind (hp : Extends p) (hf : ∀ a, Extends (f a)) : Extends (p >>= f) where
  extended := fun _ => hp.bind_at fun a r _ => (hf a).extended r
  leaves := hp.leaves.bind fun a => (hf a).leaves

theorem pure (a : α) : Extends (pure a : Read α) := ⟨fun s => .ok a s, .pure a⟩

theorem fail : Extends (Scan.fail () : Read α) := ⟨fun _ => .error, .fail⟩

theorem give (o : Option α) : Extends (give o) := by
  cases o with
  | none => exact fail
  | some a => exact pure a

theorem ite {q : Prop} [Decidable q] {p p' : Read α} (hp : Extends p) (hp' : Extends p') :
    Extends (if q then p else p') := by
  split
  · exact hp
  · exact hp'

theorem fail_bind (f : α → Read β) : Extends (Scan.fail () >>= f) where
  extended := fun _ => fail.bind_at nofun
  leaves := by
    intro s b r h
    obtain ⟨a, u, hu, -⟩ := Scan.run_bind_eq_ok_iff.1 h
    cases hu

theorem take : Extends take where
  extended := by
    intro s
    cases s with
    | nil =>
      refine .of_error ?_
      rintro b v ⟨⟩ hle
      exact absurd hle (by decide)
    | cons c s => exact .ok c s
  leaves := .take

theorem eat (hc : c ≠ ')') : Extends (Scan.eat c) where
  extended := by
    intro s
    rw [Scan.run_eat, Scan.run_eat]
    cases s with
    | nil =>
      have hne : (([] : List Char) ++ anchorEnd).head? ≠ some c := fun h => hc (by cases h; rfl)
      rw [if_neg hne, if_neg nofun]
      exact .ok false []
    | cons d s =>
      rw [List.cons_append, List.head?_cons, List.head?_cons]
      split
      · exact .ok true s
      · exact .ok false (d :: s)
  leaves := by
    intro s b r h
    rw [Scan.run_eat] at h
    split at h
    · cases h
      exact List.tail_suffix s
    · cases h
      exact List.suffix_refl s

theorem takeWhile {q : Char → Bool} (hq : q ')' = false) : Extends (Scan.takeWhile q) where
  extended := by
    intro s
    have h : (s ++ anchorEnd).takeWhile q = s.takeWhile q ∧
        (s ++ anchorEnd).dropWhile q = s.dropWhile q ++ anchorEnd := by
      induction s with
      | nil => simp [anchorEnd, hq]
      | cons c s ih => cases hc : q c <;> simp [hc, ih]
    rw [Scan.run_takeWhile, Scan.run_takeWhile, h.1, h.2]
    exact .ok _ _
  leaves := .takeWhile q

theorem isPrefixOf_append {t : List Char} (ht : ')' ∉ t) (s : List Char) :
    t.isPrefixOf (s ++ anchorEnd) = t.isPrefixOf s := by
  induction t generalizing s with
  | nil => rfl
  | cons c t ih =>
    have hc : c ≠ ')' := fun h => ht (h ▸ List.mem_cons_self)
    cases s with
    | nil => simp [anchorEnd, List.isPrefixOf, hc]
    | cons d s =>
      rw [List.cons_append, List.isPrefixOf, List.isPrefixOf,
        ih (fun h => ht (List.mem_cons_of_mem c h))]

theorem eatAll {t : List Char} (ht : ')' ∉ t) : Extends (Scan.eatAll t) where
  extended := by
    intro s
    rw [Scan.run_eatAll, Scan.run_eatAll, isPrefixOf_append ht]
    split
    · next h =>
      rw [List.drop_append_of_le_length (List.isPrefixOf_iff_prefix.1 h).length_le]
      exact .ok true _
    · exact .ok false s
  leaves := by
    intro s b r h
    rw [Scan.run_eatAll] at h
    split at h
    · cases h
      exact List.drop_suffix _ s
    · cases h
      exact List.suffix_refl s

/-- Readers that decide by the text ahead go on alike when the anchors do not change the
decision. -/
theorem ahead {f : List Char → Read β} (hf : ∀ s, Extends (f s))
    (h : ∀ s, f (s ++ anchorEnd) = f s) : Extends (Scan.ahead >>= f) where
  extended := by
    intro s
    rw [Scan.run_ahead_bind, Scan.run_ahead_bind, h]
    exact (hf s).extended s
  leaves := LeavesSuffix.ahead.bind fun s => (hf s).leaves

end Extends

theorem run_give_eq_ok_iff {o : Option α} {a : α} {s r : List Char} :
    (give o).run s = .ok (a, r) ↔ o = some a ∧ r = s := by
  cases o with
  | none => simp [give]
  | some b => simp [give, eq_comm]

theorem run_give_bind_eq_ok_iff {o : Option α} {f : α → Read β} {s : List Char}
    {x : β × List Char} :
    (give o >>= f).run s = .ok x ↔ ∃ a, o = some a ∧ (f a).run s = .ok x := by
  rw [Scan.run_bind_eq_ok_iff]
  constructor
  · rintro ⟨a, u, hu, hx⟩
    obtain ⟨ho, rfl⟩ := run_give_eq_ok_iff.1 hu
    exact ⟨a, ho, hx⟩
  · rintro ⟨a, ho, hx⟩
    exact ⟨a, s, run_give_eq_ok_iff.2 ⟨ho, rfl⟩, hx⟩

theorem dropComments_suffix (inComment : Bool) (s : List Char) :
    dropComments inComment s <:+ s := by
  induction s generalizing inComment with
  | nil => cases inComment <;> exact List.suffix_refl []
  | cons c s ih =>
    cases inComment with
    | true => exact (ih _).trans (List.suffix_cons c s)
    | false =>
      simp only [dropComments]
      split
      · exact (ih false).trans (List.suffix_cons c s)
      · split
        · exact (ih true).trans (List.suffix_cons c s)
        · exact List.suffix_refl _

theorem Flags.dropSpace_suffix (f : Flags) (s : List Char) : f.dropSpace s <:+ s := by
  unfold dropSpace
  split
  · exact dropComments_suffix false s
  · exact List.suffix_refl s

/-- A comment that is open at the end takes the anchors. -/
theorem dropComments_append (inComment : Bool) (s : List Char) :
    dropComments inComment (s ++ anchorEnd) = dropComments inComment s ++ anchorEnd ∨
      dropComments inComment s = [] ∧ dropComments inComment (s ++ anchorEnd) = [] := by
  induction s generalizing inComment with
  | nil =>
    cases inComment with
    | true => exact .inr ⟨rfl, rfl⟩
    | false => exact .inl rfl
  | cons c s ih =>
    cases inComment with
    | true => exact ih _
    | false =>
      simp only [List.cons_append, dropComments]
      split
      · exact ih false
      · split
        · exact ih true
        · exact .inl rfl

theorem Flags.dropSpace_append (f : Flags) (s : List Char) :
    f.dropSpace (s ++ anchorEnd) = f.dropSpace s ++ anchorEnd ∨
      f.dropSpace s = [] ∧ f.dropSpace (s ++ anchorEnd) = [] := by
  unfold dropSpace
  split
  · exact dropComments_append false s
  · exact .inl rfl

theorem Flags.dropSpace_nil (f : Flags) : f.dropSpace [] = [] := by
  unfold dropSpace
  split <;> rfl

/-- Where something is left of a text, the anchors stand behind it. -/
theorem Flags.dropSpace_append_of_cons {f : Flags} {c : Char} {s rest : List Char}
    (h : f.dropSpace s = c :: rest) : f.dropSpace (s ++ anchorEnd) = c :: (rest ++ anchorEnd) := by
  rcases f.dropSpace_append s with hs | ⟨hnil, -⟩
  · rw [hs, h]
    rfl
  · rw [hnil] at h
    cases h

namespace Extends

theorem space (f : Flags) : Extends (space f) where
  extended := fun s => .of_rest (f.dropSpace_append s)
  leaves := by
    rintro s a r ⟨⟩
    exact f.dropSpace_suffix s

end Extends

theorem Extended.dropSpace {apart : α → List Char → Prop} {p : Read α} {f : Flags} {s : List Char}
    (h : ∀ r, r.length ≤ s.length → Extended apart (p.run r) (p.run (r ++ anchorEnd))) :
    Extended apart (p.run (f.dropSpace s)) (p.run (f.dropSpace (s ++ anchorEnd))) := by
  have hspace (s : List Char) : (space f >>= fun _ => p).run s = p.run (f.dropSpace s) := by
    rw [Scan.run_bind, run_space]
  rw [← hspace, ← hspace]
  exact (Extends.space f).bind_at fun _ r hr => h r (Scan.length_le_of_run hr)

section Runs

variable {f : Flags} {q : Char → Bool}

theorem run_spacedRun_nil (f : Flags) (q : Char → Bool) :
    (spacedRun f q).run [] = .ok ([], []) := by
  simp only [Scan.run, spacedRun]
  rfl

theorem run_spacedRun_cons (f : Flags) (q : Char → Bool) (c : Char) (s : List Char) :
    (spacedRun f q).run (c :: s) =
      if q c then (spacedRun f q >>= fun cs => pure (c :: cs)).run (f.dropSpace s)
      else .ok ([], c :: s) := by
  have h : (spacedRun f q).run (c :: s) =
      if q c then (spacedRun f q >>= fun cs => pure (c :: cs)).run (f.rest s).1
      else .ok ([], c :: s) := by
    rw [Scan.run_bind, Scan.run, Scan.run, spacedRun]
    cases q c with
    | false => rfl
    | true =>
      simp only [if_true]
      cases spacedRun f q (f.rest s).1 <;> rfl
  exact h

theorem leavesSuffix_spacedRun (f : Flags) (q : Char → Bool) : LeavesSuffix (spacedRun f q) := by
  intro s
  induction hn : s.length using Nat.strongRecOn generalizing s with
  | ind n ih =>
    intro a r h
    cases s with
    | nil =>
      rw [run_spacedRun_nil] at h
      cases h
      exact List.suffix_refl []
    | cons c s =>
      rw [run_spacedRun_cons] at h
      split at h
      · obtain ⟨b, u, hu, h⟩ := Scan.run_bind_eq_ok_iff.1 h
        cases h
        have hlength := f.length_dropSpace_le s
        rw [List.length_cons] at hn
        have hsuffix := ih (f.dropSpace s).length (by omega) _ rfl b _ hu
        exact (hsuffix.trans (f.dropSpace_suffix s)).trans (List.suffix_cons c s)
      · cases h
        exact List.suffix_refl _

theorem Extends.spacedRun (hq : q ')' = false) : Extends (spacedRun f q) := by
  refine ⟨fun s => ?_, leavesSuffix_spacedRun f q⟩
  induction hn : s.length using Nat.strongRecOn generalizing s with
  | ind n ih =>
    cases s with
    | nil =>
      have hend : (Regex.spacedRun f q).run anchorEnd = .ok ([], anchorEnd) := by
        rw [anchorEnd, run_spacedRun_cons, if_neg (by rw [hq]; exact Bool.false_ne_true)]
      rw [run_spacedRun_nil, List.nil_append, hend]
      exact .ok [] []
    | cons c s =>
      rw [List.cons_append, run_spacedRun_cons, run_spacedRun_cons]
      split
      · refine Extended.dropSpace fun r hr => ?_
        rw [List.length_cons] at hn
        exact (ih r.length (by omega) r rfl).andThen fun a u _ => .ok _ u
      · exact .ok [] (c :: s)

theorem run_upToBrace_nil (f : Flags) : (upToBrace f).run [] = .error () := by
  unfold upToBrace
  rw [Scan.run_bind, run_spacedRun_nil]
  rfl

theorem run_upToBrace_cons (f : Flags) (c : Char) (s : List Char) :
    (upToBrace f).run (c :: s) = if c = '}' then .ok ([], s)
      else (upToBrace f >>= fun cs => pure (c :: cs)).run (f.dropSpace s) := by
  unfold upToBrace
  rw [Scan.run_bind, run_spacedRun_cons]
  by_cases hc : c = '}'
  · simp only [hc, ne_eq, not_true_eq_false, decide_false, Bool.false_eq_true, if_false, if_true]
    rfl
  · simp only [hc, ne_eq, not_false_eq_true, decide_true, if_true, if_false, Scan.run_bind]
    cases (spacedRun f fun x => decide ¬x = '}').run (f.dropSpace s) with
    | error e => rfl
    | ok x =>
      simp only [Scan.run_pure]
      cases Regex.take.run x.2 <;> rfl

theorem Extends.upToBrace (f : Flags) : Extends (upToBrace f) := by
  refine ⟨fun s => ?_, (leavesSuffix_spacedRun f _).bind fun _ => LeavesSuffix.take.bind fun _ =>
    .pure _⟩
  induction hn : s.length using Nat.strongRecOn generalizing s with
  | ind n ih =>
    cases s with
    | nil =>
      have hend : (Regex.upToBrace f).run anchorEnd = .error () := by
        rw [anchorEnd, run_upToBrace_cons, if_neg (by decide), f.dropSpace_cons rfl (by decide),
          Scan.run_bind, run_upToBrace_cons, if_neg (by decide), f.dropSpace_nil, Scan.run_bind,
          run_upToBrace_nil]
      rw [run_upToBrace_nil, List.nil_append, hend]
      exact .error
    | cons c s =>
      rw [List.cons_append, run_upToBrace_cons, run_upToBrace_cons]
      split
      · exact .ok [] s
      · refine Extended.dropSpace fun r hr => ?_
        rw [List.length_cons] at hn
        exact (ih r.length (by omega) r rfl).andThen fun a u _ => .ok _ u

end Runs

end GraphSelect.Regex
