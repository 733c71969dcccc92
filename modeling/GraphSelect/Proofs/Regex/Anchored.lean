import GraphSelect.Proofs.Regex.Step

/-!
# Patterns for whole texts

A pattern is put between the anchors as text and read together with them. This gives a pattern for
whole texts exactly when it is a pattern on its own, with two kinds of exceptions. A pattern that
ends in a comment takes the closing anchor into the comment, so it is refused. A text that is no
pattern because it closes a group that it has not opened may close the group of the anchors and open
another one for the closing anchor, so it is accepted.
-/
namespace GraphSelect.Regex

open Text

variable {st st' fin : State} {s r u rest : List Char} {c : Char} {frame : Frame}

/-- What stands behind the pattern is passed over. -/
def EndsInComment (pattern : List Char) : Prop :=
  ∃ part, parse? pattern = some part ∧ parse? (pattern ++ anchorEnd) = some part

/-- Reading a pattern comes upon a parenthesis that closes no group of it. -/
inductive Strays : State → List Char → Prop
  | here {st : State} {s u : List Char} (h : st.flags.dropSpace s = ')' :: u)
      (houter : st.outer = []) : Strays st s
  | later {st st' : State} {c : Char} {s rest r : List Char}
      (h : st.flags.dropSpace s = c :: rest) (hstep : (step st c).run rest = .ok (st', r))
      (hr : Strays st' r) : Strays st s

theorem run_step_close (h : st.outer = []) (s : List Char) :
    (step st ')').run s = .error () := by
  rw [step, State.closeGroup?, h]
  rfl

theorem Strays.readAll_eq (h : Strays st s) : readAll st s = none := by
  induction h with
  | here h houter =>
    rw [Regex.readAll_eq, h]
    simp only [run_step_close houter]
  | later h hstep _ ih => rw [readAll_of_step h hstep, ih]

theorem readAll_congr (h : st.flags.dropSpace s = st.flags.dropSpace r) :
    readAll st s = readAll st r := by
  rw [readAll_eq, readAll_eq, h]

/-- A step that succeeds closes no group that is not open. -/
theorem outer_ne_nil_of_step (h : (step st c).run s = .ok (st', r)) (hc : c = ')') :
    st.outer ≠ [] := by
  rintro houter
  rw [hc, run_step_close houter] at h
  cases h

theorem readAll_above_of_step (h : st.flags.dropSpace s = c :: rest)
    (hstep : (step st c).run rest = .ok (st', r)) :
    readAll (st.above frame) s = readAll (st'.above frame) r := by
  refine readAll_of_step h ?_
  rw [lifts_step st (outer_ne_nil_of_step hstep) rest, hstep]
  rfl

/-- A pattern that has been read to its end is read in front of the anchors up to them, or with
them when it ends in a comment. -/
theorem readAll_append (h : readAll st s = some fin) :
    (readAll st (s ++ anchorEnd) = readAll fin anchorEnd ∧
      readAll (st.above frame) (s ++ anchorEnd) = readAll (fin.above frame) anchorEnd) ∨
    (readAll st (s ++ anchorEnd) = some fin ∧
      readAll (st.above frame) (s ++ anchorEnd) = some (fin.above frame)) := by
  induction hn : s.length using Nat.strongRecOn generalizing st s with
  | ind n ih =>
    cases hs : st.flags.dropSpace s with
    | nil =>
      rw [readAll_of_dropSpace_nil hs] at h
      cases h
      rcases fin.flags.dropSpace_append s with hend | ⟨-, hend⟩
      · rw [hs, List.nil_append] at hend
        have hcongr := hend.trans (dropSpace_anchorEnd fin.flags).symm
        exact .inl ⟨readAll_congr hcongr, readAll_congr hcongr⟩
      · exact .inr ⟨readAll_of_dropSpace_nil hend, readAll_of_dropSpace_nil hend⟩
    | cons c rest =>
      obtain ⟨st', r, hstep, hread⟩ := exists_step_of_readAll hs h
      have hs' := Flags.dropSpace_append_of_cons hs
      have hlength := st.flags.length_dropSpace_le s
      have hle := Scan.length_le_of_run hstep
      rw [hs, List.length_cons] at hlength
      rcases ((extends_step st c).extended rest).extend hstep with hstep' | ⟨rfl, hstep'⟩
      · rw [readAll_of_step hs' hstep', readAll_above_of_step hs' hstep']
        exact ih r.length (by omega) hread rfl
      · rw [readAll_of_dropSpace_nil st'.flags.dropSpace_nil] at hread
        cases hread
        rw [readAll_of_step hs' hstep', readAll_above_of_step hs' hstep']
        exact .inr ⟨readAll_of_dropSpace_nil fin.flags.dropSpace_nil,
          readAll_of_dropSpace_nil fin.flags.dropSpace_nil⟩

/-- The anchors hold no number of repetitions. -/
theorem run_repeatCount_anchorEnd (f : Flags) :
    (repeatCount f).run anchorEnd = .ok (none, anchorEnd) := by
  have hdigits : (spacedRun f Char.isDigit).run anchorEnd = .ok ([], anchorEnd) := by
    rw [anchorEnd, run_spacedRun_cons, if_neg (by decide)]
  have hblanks : anchorEnd.dropWhile isBlank = anchorEnd := rfl
  simp only [repeatCount, Scan.run_bind, Scan.run_takeWhile, run_space, hblanks, hdigits,
    dropSpace_anchorEnd]
  rfl

theorem run_repeatCount_nil (f : Flags) : (repeatCount f).run [] = .ok (none, []) := by
  simp only [repeatCount, Scan.run_bind, Scan.run_takeWhile, run_space, List.dropWhile_nil,
    run_spacedRun_nil, f.dropSpace_nil]
  rfl

/-- Behind a word boundary with an open brace, reading fails at the brace. -/
theorem readAll_of_leavesBrace (h : LeavesBrace st.flags r) : readAll st r = none := by
  obtain ⟨rest, rfl, hrest⟩ := h
  have hbounds : (repeatBounds st.flags).run (rest ++ anchorEnd) = .error () := by
    rcases st.flags.dropSpace_append rest with hend | ⟨-, hend⟩
    · rw [hrest, List.nil_append] at hend
      simp only [repeatBounds, Scan.run_bind, run_space, hend, run_repeatCount_anchorEnd]
      rfl
    · simp only [repeatBounds, Scan.run_bind, run_space, hend, run_repeatCount_nil]
      rfl
  rw [readAll_eq, st.flags.dropSpace_cons rfl (by decide)]
  simp only [step, Scan.run_bind, hbounds]

theorem outer_above_ne_nil (st : State) (frame : Frame) : (st.above frame).outer ≠ [] :=
  List.append_ne_nil_of_right_ne_nil st.outer (List.cons_ne_nil frame [])

/-- What is left inside the anchors closes no more group. -/
theorem outer_eq_of_suffix (hr : r <:+ ['$']) (h : readAll st r = some fin) :
    fin.outer = st.outer := by
  rcases List.suffix_cons_iff.1 hr with rfl | hr
  · have hspace : st.flags.dropSpace ['$'] = ['$'] := st.flags.dropSpace_cons rfl (by decide) []
    have hstep : (step st '$').run [] = .ok (st.push ⟨.look (lineEnd st.flags), 0, true⟩, []) := rfl
    rw [readAll_of_step hspace hstep, readAll_of_dropSpace_nil (Flags.dropSpace_nil _)] at h
    cases h
    rfl
  · rw [List.suffix_nil.1 hr, readAll_of_dropSpace_nil st.flags.dropSpace_nil] at h
    cases h
    rfl

/-- A step above one more group that does not close it is a step without it. -/
theorem exists_step_of_above (h : (step (st.above frame) c).run s = .ok (st', r))
    (hclose : ¬ (c = ')' ∧ st.outer = [])) :
    ∃ st₁, (step st c).run s = .ok (st₁, r) ∧ st' = st₁.above frame := by
  rw [lifts_step st (fun hc houter => hclose ⟨hc, houter⟩) s] at h
  cases hstep : (step st c).run s with
  | error e =>
    rw [hstep] at h
    cases h
  | ok x =>
    rw [hstep] at h
    cases h
    exact ⟨x.1, rfl, rfl⟩

/-- A group below a pattern is closed by the anchors at the end of the pattern, or by a stray
parenthesis. -/
theorem strays_or_readAll (h : readAll (st.above frame) (s ++ anchorEnd) = some fin)
    (hfin : fin.outer = []) : Strays st s ∨ ∃ st', readAll st s = some st' ∧ st'.outer = [] := by
  induction hn : s.length using Nat.strongRecOn generalizing st s with
  | ind n ih =>
    cases hs : st.flags.dropSpace s with
    | nil =>
      refine .inr ⟨st, readAll_of_dropSpace_nil hs, ?_⟩
      by_contra houter
      have hspace : (st.above frame).flags = st.flags := rfl
      rcases st.flags.dropSpace_append s with hend | ⟨-, hend⟩
      · rw [hs, List.nil_append, ← hspace] at hend
        obtain ⟨st', r, hstep, hread⟩ := exists_step_of_readAll hend h
        obtain ⟨st₁, hbelow, rfl⟩ := exists_step_of_above hstep fun hc => houter hc.2
        have hr := leavesSuffix_step _ _ _ _ _ hbelow
        exact outer_above_ne_nil st₁ frame ((outer_eq_of_suffix hr hread).symm.trans hfin)
      · rw [← hspace] at hend
        rw [readAll_of_dropSpace_nil hend] at h
        cases h
        exact outer_above_ne_nil st frame hfin
    | cons c rest =>
      by_cases hclose : c = ')' ∧ st.outer = []
      · rw [hclose.1] at hs
        exact .inl (.here hs hclose.2)
      have hs' : (st.above frame).flags.dropSpace (s ++ anchorEnd) = c :: (rest ++ anchorEnd) :=
        Flags.dropSpace_append_of_cons hs
      have hlength := st.flags.length_dropSpace_le s
      rw [hs, List.length_cons] at hlength
      obtain ⟨st', r, hstep, hread⟩ := exists_step_of_readAll hs' h
      obtain ⟨st₁, hbelow, rfl⟩ := exists_step_of_above hstep hclose
      by_cases hle : anchorEnd.length ≤ r.length
      · rcases ((extends_step st c).extended rest).cut hbelow hle with ⟨u, rfl, halone⟩ | hbrace
        · have hu := Scan.length_le_of_run halone
          rcases ih u.length (by omega) hread rfl with hstrays | ⟨st', hread, houter⟩
          · exact .inl (.later hs halone hstrays)
          · exact .inr ⟨st', by rw [readAll_of_step hs halone, hread], houter⟩
        · have hnone : readAll (st₁.above frame) r = none := readAll_of_leavesBrace hbrace
          rw [hnone] at hread
          cases hread
      · have hend : ['$'] <:+ rest ++ anchorEnd :=
          (List.suffix_cons ')' ['$']).trans (List.suffix_append rest anchorEnd)
        have hr : r <:+ ['$'] := List.suffix_of_suffix_length_le
          (leavesSuffix_step _ _ _ _ _ hbelow) hend (Nat.le_of_lt_succ (Nat.lt_of_not_le hle))
        exact absurd ((outer_eq_of_suffix hr hread).symm.trans hfin) (outer_above_ne_nil st₁ frame)

variable {part : Part}

/-- A pattern that does not end in a comment denotes what it denotes alone, between the ends. -/
theorem parse?_anchor (h : parse? s = some part) (hcomment : ¬ EndsInComment s) :
    parse? (anchor s).toList = some part.anchored := by
  obtain ⟨st, hread, houter, rfl⟩ := parse?_eq_some_iff.1 h
  rcases readAll_append hread with ⟨-, habove⟩ | ⟨hend, -⟩
  · exact parse?_anchor_of_readAll houter habove
  · exact absurd ⟨_, h, parse?_eq_some_iff.2 ⟨st, hend, houter, rfl⟩⟩ hcomment

/-- A pattern that ends in a comment is none between the anchors. -/
theorem parse?_anchor_of_endsInComment (h : EndsInComment s) :
    parse? (anchor s).toList = none := by
  obtain ⟨part, hpart, hend⟩ := h
  obtain ⟨st, hread, houter, rfl⟩ := parse?_eq_some_iff.1 hpart
  obtain ⟨st', hread', houter', -⟩ := parse?_eq_some_iff.1 hend
  rcases readAll_append hread with ⟨hbare, -⟩ | ⟨-, habove⟩
  · have hstrays : Strays st anchorEnd := .here (dropSpace_anchorEnd st.flags) houter
    rw [hbare, hstrays.readAll_eq] at hread'
    cases hread'
  · rw [Option.eq_none_iff_forall_ne_some]
    intro q hq
    obtain ⟨fin, hfin, hfin', -⟩ := parse?_eq_some_iff.1 hq
    rw [readAll_anchor, habove] at hfin
    cases hfin
    exact outer_above_ne_nil st anchorFrame hfin'

/-- Between the anchors there is no other pattern than a pattern, unless a parenthesis strays. -/
theorem strays_of_parse?_anchor (h : parse? (anchor s).toList = some part)
    (hnone : parse? s = none) : Strays {} s := by
  obtain ⟨fin, hfin, houter, -⟩ := parse?_eq_some_iff.1 h
  rw [readAll_anchor] at hfin
  rcases strays_or_readAll hfin houter with hstrays | ⟨st, hread, houter⟩
  · exact hstrays
  · have hsome := parse?_eq_some_iff.2 ⟨st, hread, houter, rfl⟩
    rw [hnone] at hsome
    cases hsome

theorem Strays.parse?_eq (h : Strays {} s) : parse? s = none := by
  rw [parse?, h.readAll_eq]
  rfl

theorem anchored_eq_ok_iff {p : String} {r : Regex} :
    anchored p = .ok r ↔ ofText? (anchor p.toList) = some r := by
  unfold anchored
  cases ofText? (anchor p.toList) with
  | none => simp
  | some q => simp

/-- Between the anchors a pattern is what it should be: it is accepted when it is a pattern on its
own, and it then matches the texts that it matches on its own from the start to the end. -/
structure MatchesWhole (p : String) : Prop where
  accepted_iff : (∃ r, anchored p = .ok r) ↔ ∃ q, ofText? p = some q
  isMatch_iff : ∀ r q, anchored p = .ok r → ofText? p = some q → ∀ s : String,
    r.isMatch s ↔ q.expr.Spans s.toList 0 s.toList.length

/-- Where no limit is reached, a pattern is what it should be between the anchors exactly if it
does not end in a comment and is not accepted with a stray parenthesis. -/
theorem matchesWhole_iff {p : String} (hown : Fits p.toList)
    (hwhole : Fits (anchor p.toList).toList) :
    MatchesWhole p ↔ ¬ EndsInComment p.toList ∧ ∀ r, anchored p = .ok r → ¬ Strays {} p.toList := by
  have hanchored (r : Regex) : anchored p = .ok r ↔
      ∃ part, parse? (anchor p.toList).toList = some part ∧ ⟨anchor p.toList, part.expr⟩ = r := by
    rw [anchored_eq_ok_iff, ofText?_eq hwhole, Option.map_eq_some_iff]
  have halone (q : Regex) : ofText? p = some q ↔
      ∃ part, parse? p.toList = some part ∧ ⟨p, part.expr⟩ = q := by
    rw [ofText?_eq hown, Option.map_eq_some_iff]
  constructor
  · intro h
    refine ⟨fun hcomment => ?_, fun r hr hstrays => ?_⟩
    · have hnone := parse?_anchor_of_endsInComment hcomment
      obtain ⟨part, hpart, -⟩ := hcomment
      obtain ⟨r, hr⟩ := h.accepted_iff.2 ⟨_, (halone _).2 ⟨part, hpart, rfl⟩⟩
      obtain ⟨q, hq, -⟩ := (hanchored r).1 hr
      rw [hnone] at hq
      cases hq
    · obtain ⟨q, hq⟩ := h.accepted_iff.1 ⟨r, hr⟩
      obtain ⟨part, hpart, -⟩ := (halone q).1 hq
      rw [hstrays.parse?_eq] at hpart
      cases hpart
  · rintro ⟨hcomment, hstrays⟩
    refine ⟨⟨?_, ?_⟩, ?_⟩
    · rintro ⟨r, hr⟩
      obtain ⟨part, hpart, -⟩ := (hanchored r).1 hr
      cases hp : parse? p.toList with
      | none => exact absurd (strays_of_parse?_anchor hpart hp) (hstrays r hr)
      | some own => exact ⟨_, (halone _).2 ⟨own, hp, rfl⟩⟩
    · rintro ⟨q, hq⟩
      obtain ⟨part, hpart, -⟩ := (halone q).1 hq
      exact ⟨_, (hanchored _).2 ⟨_, parse?_anchor hpart hcomment, rfl⟩⟩
    · intro r q hr hq s
      obtain ⟨own, hp, rfl⟩ := (halone q).1 hq
      obtain ⟨part, hpart, rfl⟩ := (hanchored r).1 hr
      cases (parse?_anchor hp hcomment).symm.trans hpart
      exact own.occursIn_anchored s.toList

/-- A choice is a choice of whole texts. -/
theorem matchesWhole_choice : MatchesWhole "a|b" := by
  have hown : Fits "a|b".toList := fits_of_all (by decide +kernel)
  have hwhole : Fits (anchor "a|b".toList).toList := fits_of_all (by decide +kernel)
  refine (matchesWhole_iff hown hwhole).2 ⟨?_, ?_⟩
  · rintro ⟨part, -, hend⟩
    have hnone : (parse? ("a|b".toList ++ anchorEnd)).isNone := by decide +kernel
    rw [hend] at hnone
    cases hnone
  · intro r _ hstrays
    have hsome : (parse? "a|b".toList).isSome := by decide +kernel
    rw [hstrays.parse?_eq] at hsome
    cases hsome

/-- A text whose parentheses balance only with those of the anchors is accepted, although it is no
pattern, and a pattern that ends in a comment is not. -/
theorem not_matchesWhole : ¬ MatchesWhole "a)|(?:b" ∧ ¬ MatchesWhole "(?x)a #c" := by
  constructor
  · intro h
    have haccepted : (ofText? (anchor "a)|(?:b".toList)).isSome := by decide +kernel
    have hnone : (ofText? "a)|(?:b").isNone := by decide +kernel
    obtain ⟨r, hr⟩ := Option.isSome_iff_exists.1 haccepted
    obtain ⟨q, hq⟩ := h.accepted_iff.1 ⟨r, anchored_eq_ok_iff.2 hr⟩
    rw [hq] at hnone
    cases hnone
  · intro h
    have hsome : (ofText? "(?x)a #c").isSome := by decide +kernel
    have hrefused : (ofText? (anchor "(?x)a #c".toList)).isNone := by decide +kernel
    obtain ⟨r, hr⟩ := h.accepted_iff.2 (Option.isSome_iff_exists.1 hsome)
    rw [anchored_eq_ok_iff.1 hr] at hrefused
    cases hrefused

end GraphSelect.Regex
