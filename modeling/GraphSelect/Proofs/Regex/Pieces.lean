import GraphSelect.Proofs.Regex.Extension

/-!
# Pieces of a pattern in front of the anchors

Each piece of a pattern is read in front of the anchors as it is read alone. The one piece that is
told apart is a word boundary with an opening brace and nothing but blanks behind it: alone this is
an error, while in front of the anchors the brace is left for a repetition, which then fails.
-/
namespace GraphSelect.Regex

open Text

namespace Extends

theorem hexDigits (f : Flags) (n : Nat) : Extends (hexDigits f n) := by
  induction n with
  | zero => exact pure []
  | succ n ih =>
    refine take.bind fun c => ite (fail_bind _) ?_
    exact (space f).bind fun _ => ih.bind fun _ => pure _

theorem hexEscape (f : Flags) (letter : Char) : Extends (hexEscape f letter) := by
  refine (space f).bind fun _ => (eat (by decide)).bind fun b => ite ?_ ?_
  · refine (space f).bind fun _ => (upToBrace f).bind fun digits => (space f).bind fun _ => ?_
    exact ite (fail_bind _) ((give _).bind fun _ => pure _)
  · exact (hexDigits f _).bind fun _ => (give _).bind fun _ => pure _

theorem propertyEscape (f : Flags) (negated : Bool) : Extends (propertyEscape f negated) := by
  refine (space f).bind fun _ => (eat (by decide)).bind fun b => ?_
  dsimp only
  refine ite ((space f).bind fun _ => (upToBrace f).bind fun text => ?_) (take.bind fun c => ?_)
  · exact ite (fail_bind _) ((give _).bind fun _ => pure _)
  · refine ite (fail_bind _) ((space f).bind fun _ => (pure _).bind fun text => ?_)
    exact ite (fail_bind _) ((give _).bind fun _ => pure _)

end Extends

def LeavesBrace (f : Flags) (r : List Char) : Prop :=
  ∃ rest, r = '\x7b' :: (rest ++ anchorEnd) ∧ f.dropSpace rest = []

theorem leavesSuffix_boundary (f : Flags) : LeavesSuffix (boundary f) := by
  refine LeavesSuffix.ahead.bind fun s => ?_
  split
  · split
    · exact .fail
    · refine .ite (.pure _) ((LeavesSuffix.drop 1).bind fun _ => ?_)
      refine (Extends.space f).leaves.bind fun _ => (leavesSuffix_spacedRun f _).bind fun name => ?_
      refine LeavesSuffix.take.bind fun c => ?_
      refine .ite (LeavesSuffix.fail.bind fun _ => ?_) ?_
      all_goals
        split
        all_goals first | exact .pure _ | exact .fail
  · exact .pure _

theorem extends_boundary (f : Flags) : ExtendsBut (fun _ r => LeavesBrace f r) (boundary f) := by
  refine ⟨fun s => ?_, leavesSuffix_boundary f⟩
  unfold boundary
  rw [Scan.run_ahead_bind, Scan.run_ahead_bind]
  split
  · next rest =>
    simp only [List.cons_append]
    cases hd : f.dropSpace rest with
    | nil =>
      refine .of_error fun a r hy hle => ?_
      rcases f.dropSpace_append rest with h | ⟨-, h⟩
      · rw [h, hd] at hy
        cases hy
        exact ⟨rest, rfl, hd⟩
      · rw [h] at hy
        cases hy
    | cons d more =>
      rw [Flags.dropSpace_append_of_cons hd]
      dsimp only
      split
      · exact .ok _ ('\x7b' :: rest)
      · refine Extended.drop_bind ((Extends.space f).bind_at fun _ u _ => ?_)
        refine (Extends.spacedRun rfl).bind_at fun name u _ => Extends.take.bind_at fun c u _ => ?_
        split
        · exact ((Extends.fail_bind _).extended u).weaken
        · split
          all_goals first | exact .ok _ u | exact .error
  · next hs =>
    cases s with
    | nil => exact .ok WordEdge.boundary []
    | cons c s =>
      rw [List.cons_append]
      split
      · next rest h =>
        cases h
        exact absurd rfl (hs s)
      · exact .ok WordEdge.boundary (c :: s)

def IsCutShort (f : Flags) (p : Primitive) (r : List Char) : Prop :=
  (∃ l, p = .look l) ∧ LeavesBrace f r

theorem leavesSuffix_escape (f : Flags) : LeavesSuffix (escape f) := by
  refine LeavesSuffix.take.bind fun c => ?_
  refine .ite (Extends.hexEscape f c).leaves (.ite (Extends.propertyEscape f _).leaves ?_)
  refine .ite (.pure _) ?_
  split
  case h_15 => exact (leavesSuffix_boundary f).bind fun _ => .pure _
  all_goals first | exact .pure _ | exact .fail | exact (LeavesSuffix.give _).bind fun _ => .pure _

theorem extends_escape (f : Flags) : ExtendsBut (IsCutShort f) (escape f) := by
  refine ⟨fun s => ?_, leavesSuffix_escape f⟩
  unfold escape
  refine Extends.take.bind_at fun c u _ => ?_
  dsimp only
  split
  · exact ((Extends.hexEscape f c).extended u).weaken
  split
  · exact ((Extends.propertyEscape f _).extended u).weaken
  split
  · exact .ok _ u
  split
  case h_15 =>
    refine ((extends_boundary f).extended u).bind (fun a r _ => .ok _ r) ?_
    rintro a r b v ⟨rest, rfl, hrest⟩ h -
    cases h
    exact ⟨⟨_, rfl⟩, rest, rfl, hrest⟩
  all_goals first
    | exact .ok _ u
    | exact .error
    | exact ((Extends.give _).bind_at fun a r _ => .ok _ r)

theorem extends_bracketItem (f : Flags) (c : Char) :
    ExtendsBut (IsCutShort f) (bracketItem f c) := by
  unfold bracketItem
  split
  · exact extends_escape f
  · exact ⟨fun s => .ok _ s, .pure _⟩

theorem firstInk_append {c : Char} (hc : c ≠ ')') (inComment : Bool) (s : List Char) :
    firstInk inComment (s ++ anchorEnd) = some c ↔ firstInk inComment s = some c := by
  induction s generalizing inComment with
  | nil => cases inComment <;> simp [anchorEnd, firstInk, isBlank, Ne.symm hc]
  | cons d s ih =>
    simp only [List.cons_append, firstInk]
    split
    · exact ih inComment
    · split
      · exact ih true
      · exact Iff.rfl

theorem behindHyphen_append {c : Char} (f : Flags) (hc : c ≠ ')') (s : List Char) :
    behindHyphen f (s ++ anchorEnd) = some c ↔ behindHyphen f s = some c := by
  unfold behindHyphen
  split
  · exact firstInk_append hc false s
  · cases s with
    | nil => simp [anchorEnd, Ne.symm hc]
    | cons d s => exact Iff.rfl

theorem leavesSuffix_bracketRange (f : Flags) (c : Char) : LeavesSuffix (bracketRange f c) := by
  refine (extends_bracketItem f c).leaves.bind fun first => ?_
  refine (Extends.space f).leaves.bind fun _ => LeavesSuffix.ahead.bind fun s => ?_
  split
  · exact .fail
  · refine .ite ((LeavesSuffix.give _).bind fun _ => .pure _) ?_
    refine (LeavesSuffix.drop 1).bind fun _ => (Extends.space f).leaves.bind fun _ => ?_
    refine LeavesSuffix.take.bind fun e => (extends_bracketItem f e).leaves.bind fun last => ?_
    refine (LeavesSuffix.give _).bind fun a => (LeavesSuffix.give _).bind fun b => ?_
    exact .ite (LeavesSuffix.fail.bind fun _ => .pure _) (.pure _)

theorem extends_bracketRange (f : Flags) (c : Char) :
    ExtendsBut (fun _ r => r = anchorEnd) (bracketRange f c) := by
  refine ⟨fun s => ?_, leavesSuffix_bracketRange f c⟩
  refine ((extends_bracketItem f c).extended s).bind (fun first u _ => ?_) ?_
  · refine (Extends.space f).bind_at fun _ u _ => ?_
    rw [Scan.run_ahead_bind, Scan.run_ahead_bind]
    cases u with
    | nil =>
      refine .of_error fun a r hy hle => ?_
      obtain ⟨set, -, ha⟩ := run_give_bind_eq_ok_iff.1 hy
      cases ha
      rfl
    | cons d u =>
      simp only [List.cons_append, behindHyphen_append f (c := ']') (by decide) u,
        behindHyphen_append f (c := '-') (by decide) u]
      split
      · exact (Extends.give _).bind_at fun a r _ => .ok _ r
      · refine Extended.drop_bind ((Extends.space f).bind_at fun _ v _ => ?_)
        refine Extends.take.bind_at fun e v _ => ?_
        refine ((extends_bracketItem f e).extended v).bind (fun last w _ => ?_) ?_
        · refine (Extends.give _).bind_at fun a w _ => (Extends.give _).bind_at fun b w _ => ?_
          split
          · exact ((Extends.fail_bind _).extended w).weaken
          · exact .ok _ w
        · rintro p r b v ⟨⟨l, rfl⟩, -⟩ h -
          obtain ⟨a, -, h⟩ := run_give_bind_eq_ok_iff.1 h
          obtain ⟨b, hb, -⟩ := run_give_bind_eq_ok_iff.1 h
          cases hb
  · -- a condition on a place is no item of a class
    rintro p r b v ⟨⟨l, rfl⟩, -⟩ h -
    obtain ⟨_, u, -, h⟩ := Scan.run_bind_eq_ok_iff.1 h
    rw [Scan.run_ahead_bind] at h
    split at h
    · cases h
    · split at h
      · obtain ⟨set, hset, -⟩ := run_give_bind_eq_ok_iff.1 h
        cases hset
      · obtain ⟨_, u, -, h⟩ := Scan.run_bind_eq_ok_iff.1 h
        obtain ⟨_, u, -, h⟩ := Scan.run_bind_eq_ok_iff.1 h
        obtain ⟨e, u, -, h⟩ := Scan.run_bind_eq_ok_iff.1 h
        obtain ⟨last, u, -, h⟩ := Scan.run_bind_eq_ok_iff.1 h
        obtain ⟨a, ha, -⟩ := run_give_bind_eq_ok_iff.1 h
        cases ha

theorem extends_openBracket (f : Flags) : Extends (openBracket f) := by
  have hitems (negated : Bool) : Extends (do
      let hyphens ← spacedRun f (· = '-')
      if !hyphens.isEmpty then return { negated, items := hyphens.map fun c => ⟨.single c, 0⟩ }
      else if ← Scan.eat ']' then
        space f
        return { negated, items := [⟨.single ']', 0⟩] }
      else return { negated, items := [] } : Read Bracket) := by
    refine (Extends.spacedRun (by decide)).bind fun hyphens => .ite (.pure _) ?_
    exact (Extends.eat (by decide)).bind fun b =>
      .ite ((Extends.space f).bind fun _ => .pure _) (.pure _)
  refine (Extends.space f).bind fun _ => (Extends.eat (by decide)).bind fun negated => ?_
  exact .ite ((Extends.space f).bind fun _ => hitems _) (hitems _)

def className? (body : List Char) : Option (List Char) :=
  let name := body.takeWhile (· ≠ ':')
  if [':', ']'].isPrefixOf (body.drop name.length) then some name else none

theorem className?_cons {c : Char} (hc : c ≠ ':') (body : List Char) :
    className? (c :: body) = (className? body).map (c :: ·) := by
  simp only [className?, hc, ne_eq, not_false_eq_true, decide_true, List.takeWhile_cons_of_pos,
    List.length_cons, List.drop_succ_cons]
  split <;> rfl

theorem className?_append (body : List Char) :
    className? (body ++ anchorEnd) = className? body := by
  induction body with
  | nil => decide
  | cons c body ih =>
    by_cases hc : c = ':'
    · subst hc
      have hcolon (body : List Char) : className? (':' :: body) =
          if [':', ']'].isPrefixOf (':' :: body) then some [] else none := rfl
      rw [List.cons_append, hcolon, hcolon, ← List.cons_append,
        Extends.isPrefixOf_append (by decide)]
    · rw [List.cons_append, className?_cons hc, className?_cons hc, ih]

theorem length_of_className? {body name : List Char} (h : className? body = some name) :
    name.length + 2 ≤ body.length := by
  unfold className? at h
  dsimp only at h
  split at h
  · next hbehind =>
    cases h
    have hle := (List.isPrefixOf_iff_prefix.1 hbehind).length_le
    rw [List.length_drop] at hle
    simp only [List.length_cons, List.length_nil] at hle
    omega
  · cases h

theorem namedClass?_colon (s : List Char) : namedClass? (':' :: s) =
    (className? (if s.head? = some '^' then s.tail else s)).bind fun name =>
      (CharSet.named.lookup (String.ofList name)).map fun set =>
        (decide (s.head? = some '^'), set, name.length + if s.head? = some '^' then 4 else 3) := by
  unfold namedClass? className?
  simp only
  split <;> split <;> rfl

theorem length_of_namedClass? {s : List Char} {negated : Bool} {set : CharSet} {size : Nat}
    (h : namedClass? s = some (negated, set, size)) : size ≤ s.length := by
  cases s with
  | nil => cases h
  | cons c s =>
    by_cases hc : c = ':'
    · subst hc
      rw [namedClass?_colon, Option.bind_eq_some_iff] at h
      obtain ⟨name, hname, h⟩ := h
      have hlength := length_of_className? hname
      obtain ⟨set, -, h⟩ := Option.map_eq_some_iff.1 h
      cases h
      rw [List.length_cons]
      split
      · next hhat =>
        rw [if_pos hhat, List.length_tail] at hlength
        omega
      · next hhat =>
        rw [if_neg hhat] at hlength
        omega
    · unfold namedClass? at h
      split at h
      · next h' => cases h'; exact absurd rfl hc
      · cases h

theorem namedClass?_append (s : List Char) : namedClass? (s ++ anchorEnd) = namedClass? s := by
  cases s with
  | nil => rfl
  | cons c s =>
    by_cases hc : c = ':'
    · subst hc
      cases s with
      | nil => rfl
      | cons d s =>
        rw [List.cons_append, List.cons_append, namedClass?_colon, namedClass?_colon,
          List.head?_cons, List.head?_cons, List.tail_cons, List.tail_cons, ← List.cons_append,
          ← className?_append (if some d = some '^' then s else d :: s)]
        split <;> rfl
    · unfold namedClass?
      split
      · next h => cases h; exact absurd rfl hc
      · split
        · next h => cases h; exact absurd rfl hc
        · rfl

theorem leavesSuffix_namedClass : LeavesSuffix namedClass := by
  refine LeavesSuffix.ahead.bind fun s => ?_
  split
  · exact (LeavesSuffix.drop _).bind fun _ => .pure _
  · exact .pure _

theorem extends_namedClass : Extends namedClass := by
  refine ⟨fun s => ?_, leavesSuffix_namedClass⟩
  unfold namedClass
  rw [Scan.run_ahead_bind, Scan.run_ahead_bind, namedClass?_append]
  split
  · next negated set size h =>
    have hsize := length_of_namedClass? h
    rw [Scan.run_bind, Scan.run_bind, Scan.run_drop, Scan.run_drop,
      List.drop_append_of_le_length hsize]
    exact .ok _ _
  · exact .ok none s

/-- An item of a class that reaches up to the anchors is told apart; the class is not closed yet. -/
def LeavesAnchors (x : Bracket × List Bracket ⊕ SetPart) (r : List Char) : Prop :=
  (∃ y, x = .inl y) ∧ r = anchorEnd

theorem leavesSuffix_bracketStep (f : Flags) (b : Bracket) (outer : List Bracket) (c : Char) :
    LeavesSuffix (bracketStep f b outer c) := by
  have hoperator (x : Bracket × List Bracket ⊕ SetPart) :
      LeavesSuffix (Scan.drop 1 >>= fun _ => (pure x : Read _)) :=
    (LeavesSuffix.drop 1).bind fun _ => .pure x
  refine LeavesSuffix.peek.bind fun next => .ite ?_ (.ite ?_ ?_)
  · refine leavesSuffix_namedClass.bind fun found => ?_
    cases found with
    | some found => exact (LeavesSuffix.give _).bind fun _ => .pure _
    | none => exact (extends_openBracket f).leaves.bind fun _ => .pure _
  · refine (LeavesSuffix.give _).bind fun closed => ?_
    cases outer with
    | nil => exact .pure _
    | cons o outer => exact .pure _
  · refine .ite (hoperator _) (.ite (hoperator _) (.ite (hoperator _) ?_))
    exact (leavesSuffix_bracketRange f c).bind fun _ => .pure _

theorem extends_bracketStep (f : Flags) (b : Bracket) (outer : List Bracket) (c : Char) :
    ExtendsBut LeavesAnchors (bracketStep f b outer c) := by
  refine ⟨fun s => ?_, leavesSuffix_bracketStep f b outer c⟩
  unfold bracketStep
  dsimp only
  rw [Scan.run_bind, Scan.run_bind, Scan.run_peek, Scan.run_peek]
  dsimp only
  have hdoubled {d : Char} (hd : d ≠ ')') :
      (decide (c = d) && decide ((s ++ anchorEnd).head? = some c)) =
        (decide (c = d) && decide (s.head? = some c)) := by
    cases s with
    | nil =>
      by_cases hc : c = d
      · subst hc
        simp [anchorEnd, Ne.symm hd]
      · simp [hc]
    | cons e s => rfl
  -- an operator is taken together with its second character
  have hoperator {d : Char} (x : Bracket × List Bracket ⊕ SetPart)
      (h : (decide (c = d) && decide (s.head? = some c)) = true) :
      Extended LeavesAnchors ((Scan.drop 1 >>= fun _ => (pure x : Read _)).run s)
        ((Scan.drop 1 >>= fun _ => (pure x : Read _)).run (s ++ anchorEnd)) := by
    rw [Bool.and_eq_true, decide_eq_true_iff, decide_eq_true_iff] at h
    obtain ⟨u, rfl⟩ := List.head?_eq_some_iff.1 h.2
    exact Extended.drop_bind (.ok x u)
  rw [hdoubled (d := '&') (by decide), hdoubled (d := '-') (by decide),
    hdoubled (d := '~') (by decide)]
  split
  · refine extends_namedClass.bind_at fun found u _ => ?_
    cases found with
    | some found => exact (Extends.give _).bind_at fun a u _ => .ok _ u
    | none => exact (extends_openBracket f).bind_at fun a u _ => .ok _ u
  split
  · refine (Extends.give _).bind_at fun closed u _ => ?_
    cases outer with
    | nil => exact .ok _ u
    | cons o outer => exact .ok _ u
  split
  · next h => exact hoperator _ h
  split
  · next h => exact hoperator _ h
  split
  · next h => exact hoperator _ h
  refine ((extends_bracketRange f c).extended s).bind (fun a u _ => .ok _ u) ?_
  rintro a r x v rfl h -
  cases h
  exact ⟨⟨_, rfl⟩, rfl⟩

theorem run_bracketLoop (f : Flags) (b : Bracket) (outer : List Bracket) (s : List Char) :
    (bracketLoop f b outer).run s =
      match f.dropSpace s with
      | [] => .error ()
      | c :: rest => (bracketStep f b outer c >>= fun x =>
          match x with
          | .inr p => pure p
          | .inl (b, outer) => bracketLoop f b outer).run rest := by
  unfold Scan.run
  generalize hloop : bracketLoop f b outer s = loop
  rw [bracketLoop] at hloop
  split at hloop
  · next h =>
    rw [← hloop, h]
  · next c rest h =>
    rw [h]
    simp only [bind]
    cases hstep : bracketStep f b outer c rest with
    | error e =>
      rw [hstep] at hloop
      rw [← hloop]
    | ok x =>
      rw [hstep] at hloop
      obtain ⟨⟨b, outer⟩ | p, r⟩ := x
      · simp only at hloop
        rw [← hloop]
        simp only [Scan.widen]
        cases bracketLoop f b outer r.1 <;> rfl
      · rw [← hloop]
        rfl

theorem length_lt_of_bracketLoop {f : Flags} {b : Bracket} {outer : List Bracket}
    {s r : List Char} {p : SetPart} (h : (bracketLoop f b outer).run s = .ok (p, r)) :
    r.length < s.length := by
  rw [run_bracketLoop] at h
  split at h
  · cases h
  · next c rest hrest =>
    have hle := Scan.length_le_of_run h
    have hspace := f.length_dropSpace_le s
    rw [hrest, List.length_cons] at hspace
    omega

theorem leavesSuffix_bracketLoop (f : Flags) (b : Bracket) (outer : List Bracket) :
    LeavesSuffix (bracketLoop f b outer) := by
  intro s
  induction hn : s.length using Nat.strongRecOn generalizing b outer s with
  | ind n ih =>
    intro p r h
    rw [run_bracketLoop] at h
    split at h
    · cases h
    · next c rest hrest =>
      have hspace := f.dropSpace_suffix s
      rw [hrest] at hspace
      have hlength := hspace.length_le
      rw [List.length_cons] at hlength
      obtain ⟨x, u, hu, h⟩ := Scan.run_bind_eq_ok_iff.1 h
      have hsuffix := leavesSuffix_bracketStep f b outer c rest x u hu
      have hbehind : u <:+ s := (hsuffix.trans (List.suffix_cons c rest)).trans hspace
      cases x with
      | inr q =>
        cases h
        exact hbehind
      | inl next =>
        have hle := hsuffix.length_le
        exact (ih u.length (by omega) next.1 next.2 u rfl p r h).trans hbehind

theorem extends_bracketLoop (f : Flags) (b : Bracket) (outer : List Bracket) :
    Extends (bracketLoop f b outer) := by
  refine ⟨fun s => ?_, leavesSuffix_bracketLoop f b outer⟩
  induction hn : s.length using Nat.strongRecOn generalizing b outer s with
  | ind n ih =>
    rw [run_bracketLoop, run_bracketLoop]
    cases hs : f.dropSpace s with
    | nil =>
      refine .of_error fun p r h hle => ?_
      rcases f.dropSpace_append s with hy | ⟨-, hy⟩
      · rw [hy, hs] at h
        exact absurd hle (Nat.not_le_of_lt (Nat.lt_succ_of_le (Scan.length_le_of_run h)))
      · rw [hy] at h
        cases h
    | cons c rest =>
      rw [Flags.dropSpace_append_of_cons hs]
      have hlength := f.length_dropSpace_le s
      rw [hs, List.length_cons] at hlength
      refine ((extends_bracketStep f b outer c).extended rest).bind (fun x u hu => ?_) ?_
      · have hle := Scan.length_le_of_run hu
        cases x with
        | inr p => exact .ok p u
        | inl next => exact ih u.length (by omega) next.1 next.2 u rfl
      · rintro _ r p v ⟨⟨next, rfl⟩, rfl⟩ h hle
        exact absurd (length_lt_of_bracketLoop h) (Nat.not_lt_of_le hle)

theorem extends_bracketed (f : Flags) : Extends (bracketed f) :=
  (extends_openBracket f).bind fun b => extends_bracketLoop f b []

end GraphSelect.Regex
