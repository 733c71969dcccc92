import GraphSelect.Proofs.Regex.Pieces

/-!
# Steps of reading a pattern

One step reads one piece and changes the state. In front of the anchors the step is the same, and
so it is with one more group open below, unless it is that group that the step closes.
-/
namespace GraphSelect.Regex

open Text

theorem extends_repeatCount (f : Flags) : Extends (repeatCount f) := by
  refine (Extends.takeWhile rfl).bind fun _ => (Extends.spacedRun rfl).bind fun ds => ?_
  refine (Extends.takeWhile rfl).bind fun _ => (Extends.space f).bind fun _ => ?_
  exact .ite (.pure _) ((Extends.give _).bind fun _ => .pure _)

theorem extends_repeatBounds (f : Flags) : Extends (repeatBounds f) := by
  refine (Extends.space f).bind fun _ => (extends_repeatCount f).bind fun count => ?_
  refine (Extends.give _).bind fun lo => (Extends.eat (by decide)).bind fun comma => .ite ?_ ?_
  · refine (Extends.space f).bind fun _ => (Extends.eat (by decide)).bind fun b => .ite (.pure _) ?_
    refine (extends_repeatCount f).bind fun count => (Extends.give _).bind fun hi => ?_
    exact Extends.take.bind fun c => .ite (.fail_bind _) (.pure _)
  · exact Extends.take.bind fun c => .ite (.fail_bind _) (.pure _)

theorem extends_upTo {β : Type} {d : Char} (hd : d ∉ anchorEnd) {f : List Char → Read β}
    (hf : ∀ w, Extends (f w)) :
    Extends (Scan.takeWhile (· ≠ d) >>= fun w => take >>= fun _ => f w) := by
  refine ⟨fun s => ?_, (LeavesSuffix.takeWhile _).bind fun w => LeavesSuffix.take.bind fun _ =>
    (hf w).leaves⟩
  have hend : anchorEnd.dropWhile (· ≠ d) = [] := by
    rw [List.dropWhile_eq_nil_iff]
    intro c hc
    rw [decide_eq_true_iff]
    rintro rfl
    exact hd hc
  rw [Scan.run_bind, Scan.run_bind, Scan.run_takeWhile, Scan.run_takeWhile, List.dropWhile_append]
  dsimp only
  cases hs : s.dropWhile (· ≠ d) with
  | nil =>
    rw [List.isEmpty_nil, if_pos rfl, hend]
    exact .error
  | cons e u =>
    have hlength : (s.takeWhile (· ≠ d)).length ≠ s.length := by
      have h := congrArg List.length (List.takeWhile_append_dropWhile (p := (· ≠ d)) (l := s))
      rw [hs, List.length_append, List.length_cons] at h
      omega
    rw [List.takeWhile_append, if_neg hlength, List.isEmpty_cons, if_neg Bool.false_ne_true]
    exact Extends.take.bind_at fun _ v _ => (hf _).extended v

theorem extends_namedGroup (st : State) : Extends (namedGroup st) := by
  refine extends_upTo (by decide) fun name => ?_
  exact .ite (.fail_bind _) (.pure _)

theorem extends_flagGroup (st : State) : Extends (flagGroup st) := by
  refine (Extends.takeWhile rfl).bind fun letters => Extends.take.bind fun stop => ?_
  refine (Extends.give _).bind fun flags => .ite (.pure _) ?_
  exact .ite (.fail_bind _) (.pure _)

theorem extends_group (st : State) : Extends (group st) := by
  refine (Extends.space _).bind fun _ => Extends.ahead (fun s => .ite (.fail_bind _) ?_) fun s => ?_
  · refine (Extends.eatAll (by decide)).bind fun b => .ite (extends_namedGroup st) ?_
    refine (Extends.eatAll (by decide)).bind fun b => .ite (extends_namedGroup st) ?_
    exact (Extends.eat (by decide)).bind fun b => .ite (extends_flagGroup st) (.pure _)
  · have hahead (t : List Char) (ht : ')' ∉ t) :
        t.isPrefixOf (s ++ anchorEnd) = t.isPrefixOf s := Extends.isPrefixOf_append ht s
    simp only [List.any_cons, hahead ['?', '='] (by decide), hahead ['?', '!'] (by decide),
      hahead ['?', '<', '='] (by decide), hahead ['?', '<', '!'] (by decide)]
    rfl

theorem extends_repeated (st : State) (lo : Nat) (hi : Option Nat) :
    Extends (repeated st lo hi) :=
  (Extends.give _).bind fun _ => (Extends.eat (by decide)).bind fun _ => .pure _

theorem leavesSuffix_step (st : State) (c : Char) : LeavesSuffix (step st c) := by
  unfold step
  split
  · exact (extends_group st).leaves
  · exact .give _
  · exact .pure _
  · exact (extends_bracketed _).leaves.bind fun p => .pure _
  · exact (extends_repeated st _ _).leaves
  · exact (extends_repeated st _ _).leaves
  · exact (extends_repeated st _ _).leaves
  · refine (extends_repeatBounds _).leaves.bind fun bounds => ?_
    exact (Extends.space _).leaves.bind fun _ => (extends_repeated st _ _).leaves
  · exact (leavesSuffix_escape _).bind fun p => .give _
  · exact (LeavesSuffix.give _).bind fun set => .pure _
  · exact .pure _
  · exact .pure _
  · exact .give _

theorem extends_step (st : State) (c : Char) :
    ExtendsBut (fun st' r => LeavesBrace st'.flags r) (step st c) := by
  refine ⟨fun s => ?_, leavesSuffix_step st c⟩
  unfold step
  split
  · exact ((extends_group st).extended s).weaken
  · exact ((Extends.give _).extended s).weaken
  · exact .ok _ s
  · exact (extends_bracketed _).bind_at fun p u _ => .ok _ u
  · exact ((extends_repeated st _ _).extended s).weaken
  · exact ((extends_repeated st _ _).extended s).weaken
  · exact ((extends_repeated st _ _).extended s).weaken
  · refine (extends_repeatBounds _).bind_at fun bounds u _ => ?_
    exact (Extends.space _).bind_at fun _ v _ => ((extends_repeated st _ _).extended v).weaken
  · refine ((extends_escape _).extended s).bind
      (fun p u _ => ((Extends.give _).extended u).weaken) ?_
    rintro p r st' v ⟨⟨l, rfl⟩, hbrace⟩ h -
    obtain ⟨hst, rfl⟩ := run_give_eq_ok_iff.1 h
    cases hst
    exact hbrace
  · exact (Extends.give _).bind_at fun a u _ => .ok _ u
  · exact .ok _ s
  · exact .ok _ s
  · exact ((Extends.give _).extended s).weaken

/-- One reader gives what the other one does, with one more group open below. -/
def Lifts (frame : Frame) (p p' : Read State) : Prop :=
  ∀ s, p'.run s = (p.run s).map fun x => (x.1.above frame, x.2)

namespace Lifts

variable {α : Type} {frame : Frame} {p p' q q' : Read State}

theorem pure (st : State) : Lifts frame (pure st) (pure (st.above frame)) := fun _ => rfl

theorem fail_bind (f f' : α → Read State) :
    Lifts frame (Scan.fail () >>= f) (Scan.fail () >>= f') := fun _ => rfl

theorem give {o o' : Option State} (h : o' = o.map (·.above frame)) :
    Lifts frame (give o) (give o') := by
  subst h
  cases o with
  | none => exact fun _ => rfl
  | some st => exact pure st

theorem bind (r : Read α) {f f' : α → Read State} (h : ∀ a, Lifts frame (f a) (f' a)) :
    Lifts frame (r >>= f) (r >>= f') := by
  intro s
  rw [Scan.run_bind, Scan.run_bind]
  cases r.run s with
  | error e => rfl
  | ok x => exact h x.1 x.2

theorem give_bind {o o' : Option State} {f : State → Read State} (h : o' = o.map (·.above frame))
    (hf : ∀ st, Lifts frame (f st) (f (st.above frame))) :
    Lifts frame (Regex.give o >>= f) (Regex.give o' >>= f) := by
  subst h
  cases o with
  | none => exact fail_bind _ _
  | some st =>
    intro s
    rw [Scan.run_bind, Scan.run_bind]
    exact hf st s

theorem ite {c : Prop} [Decidable c] (hp : Lifts frame p p') (hq : Lifts frame q q') :
    Lifts frame (if c then p else q) (if c then p' else q') := by
  split
  · exact hp
  · exact hq

end Lifts

section Above

variable {frame : Frame} (st : State)

theorem lifts_namedGroup : Lifts frame (namedGroup st) (namedGroup (st.above frame)) := by
  refine .bind _ fun name => .bind _ fun _ => ?_
  exact .ite (.fail_bind _ _) (.pure _)

theorem lifts_flagGroup : Lifts frame (flagGroup st) (flagGroup (st.above frame)) := by
  refine .bind _ fun letters => .bind _ fun stop => .bind _ fun flags => .ite (.pure _) ?_
  exact .ite (.fail_bind _ _) (.pure _)

theorem lifts_group : Lifts frame (group st) (group (st.above frame)) := by
  refine .bind _ fun _ => .bind _ fun s => .ite (.fail_bind _ _) ?_
  refine .bind _ fun b => .ite (lifts_namedGroup st) (.bind _ fun b => ?_)
  exact .ite (lifts_namedGroup st) (.bind _ fun b => .ite (lifts_flagGroup st) (.pure _))

theorem repeat?_above (lo : Nat) (hi : Option Nat) :
    (st.above frame).repeat? lo hi = (st.repeat? lo hi).map (·.above frame) := by
  unfold State.repeat?
  simp only [State.above]
  split
  · rfl
  · split <;> rfl

theorem lifts_repeated (lo : Nat) (hi : Option Nat) :
    Lifts frame (repeated st lo hi) (repeated (st.above frame) lo hi) :=
  .give_bind (repeat?_above st lo hi) fun _ => .bind _ fun _ => .pure _

theorem pushPrimitive?_above (p : Primitive) :
    (st.above frame).pushPrimitive? p = (st.pushPrimitive? p).map (·.above frame) := by
  cases p with
  | literal c byte =>
    rw [State.pushPrimitive?, State.pushPrimitive?, Option.map_map]
    rfl
  | set s => rfl
  | look l => rfl

theorem closeGroup?_of_cons (h : st.outer ≠ []) :
    (st.above frame).closeGroup? = st.closeGroup?.map (·.above frame) := by
  unfold State.closeGroup?
  cases houter : st.outer with
  | nil => exact absurd houter h
  | cons f outer =>
    simp only [State.above, houter]
    rfl

/-- One step above one more group is the same step, unless it closes that group. -/
theorem lifts_step {c : Char} (h : c = ')' → st.outer ≠ []) :
    Lifts frame (step st c) (step (st.above frame) c) := by
  unfold step
  split
  · exact lifts_group st
  · exact .give (closeGroup?_of_cons st (h rfl))
  · exact .pure _
  · exact .bind _ fun p => .pure _
  · exact lifts_repeated st _ _
  · exact lifts_repeated st _ _
  · exact lifts_repeated st _ _
  · exact .bind _ fun bounds => .bind _ fun _ => lifts_repeated st _ _
  · exact .bind _ fun p => .give (pushPrimitive?_above st p)
  · exact .bind _ fun set => .pure _
  · exact .pure _
  · exact .pure _
  · exact .give (pushPrimitive?_above st _)

end Above

end GraphSelect.Regex
