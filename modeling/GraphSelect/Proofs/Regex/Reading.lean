import GraphSelect.Proofs.Regex.Spans
import GraphSelect.Regex.Basic

/-!
# Patterns between anchors

A pattern is read step by step. Between the anchors it is read in a group, and the states that are
gone through are those of the pattern alone with one more group open below. When the parenthesis
of the anchors closes that group, the whole denotes the pattern between the two ends of the text.
-/
namespace GraphSelect.Regex

open Text

variable {st st' : State} {c : Char} {s r : List Char}

theorem Flags.dropSpace_cons (f : Flags) {c : Char} (hblank : isBlank c = false) (hc : c ≠ '#')
    (s : List Char) : f.dropSpace (c :: s) = c :: s := by
  unfold dropSpace
  split
  · simp [dropComments, hblank, hc]
  · rfl

theorem readAll_eq (st : State) (s : List Char) : readAll st s =
    match st.flags.dropSpace s with
    | [] => some st
    | c :: rest =>
      match (step st c).run rest with
      | .error () => none
      | .ok (st', r) => readAll st' r := by
  rw [readAll]
  split
  · next h => simp only [h]
  · next c rest h =>
    simp only [h, Scan.run]
    cases step st c rest with
    | error e => rfl
    | ok x => rfl

theorem readAll_of_dropSpace_nil (h : st.flags.dropSpace s = []) : readAll st s = some st := by
  rw [readAll_eq, h]

theorem readAll_of_step {rest : List Char} (h : st.flags.dropSpace s = c :: rest)
    (hstep : (step st c).run rest = .ok (st', r)) : readAll st s = readAll st' r := by
  rw [readAll_eq, h]
  simp only [hstep]

theorem exists_step_of_readAll {fin : State} {rest : List Char}
    (h : st.flags.dropSpace s = c :: rest) (hread : readAll st s = some fin) :
    ∃ st' r, (step st c).run rest = .ok (st', r) ∧ readAll st' r = some fin := by
  rw [readAll_eq, h] at hread
  simp only at hread
  split at hread
  · cases hread
  · next st' r hstep => exact ⟨st', r, hstep, hread⟩

/-- The piece that a whole pattern denotes, whatever its size and nesting. -/
def parse? (pattern : List Char) : Option Part := do
  let st ← readAll {} pattern
  if st.outer.isEmpty then some st.body else none

def SizeFits (pattern : List Char) : Prop :=
  ∀ part, parse? pattern = some part → part.expr.cost ≤ Expr.maxCost

def NestingFits (pattern : List Char) : Prop :=
  ∀ part, parse? pattern = some part → part.depth ≤ maxDepth

structure Fits (pattern : List Char) : Prop where
  size : SizeFits pattern
  nesting : NestingFits pattern

theorem parse?_eq_some_iff {part : Part} : parse? s = some part ↔
    ∃ st, readAll {} s = some st ∧ st.outer = [] ∧ st.body = part := by
  unfold parse?
  cases readAll {} s with
  | none => simp
  | some st => simp [List.isEmpty_iff]

theorem fits_of_all (h : (parse? s).all fun part =>
    decide (part.depth ≤ maxDepth) && decide (part.expr.cost ≤ Expr.maxCost)) : Fits s := by
  cases hs : parse? s with
  | none => exact ⟨by simp [SizeFits, hs], by simp [NestingFits, hs]⟩
  | some part =>
    rw [hs, Option.all_some, Bool.and_eq_true, decide_eq_true_iff, decide_eq_true_iff] at h
    refine ⟨?_, ?_⟩
    · rintro q hq
      cases hs.symm.trans hq
      exact h.2
    · rintro q hq
      cases hs.symm.trans hq
      exact h.1

theorem read?_eq_some_iff {e : Expr} : read? s = some e ↔
    ∃ part, parse? s = some part ∧ part.depth ≤ maxDepth ∧ part.expr.cost ≤ Expr.maxCost ∧
      part.expr = e := by
  unfold read? parse?
  cases readAll {} s with
  | none => simp
  | some st => simp [List.isEmpty_iff, and_assoc]

/-- Without the limits a pattern is read whenever it denotes a piece. -/
theorem read?_eq (h : Fits s) : read? s = (parse? s).map Part.expr := by
  refine Option.ext fun e => ?_
  rw [read?_eq_some_iff, Option.map_eq_some_iff]
  constructor
  · rintro ⟨part, hpart, -, -, he⟩
    exact ⟨part, hpart, he⟩
  · rintro ⟨part, hpart, he⟩
    exact ⟨part, hpart, h.nesting part hpart, h.size part hpart, he⟩

theorem ofText?_eq {source : String} (h : Fits source.toList) :
    ofText? source = (parse? source.toList).map fun part => ⟨source, part.expr⟩ := by
  rw [ofText?, read?_eq h, Option.map_map]
  rfl

def State.above (st : State) (frame : Frame) : State := { st with outer := st.outer ++ [frame] }

def anchorEnd : List Char := [')', '$']

theorem dropSpace_anchorEnd (f : Flags) : f.dropSpace anchorEnd = anchorEnd :=
  f.dropSpace_cons rfl (by decide) ['$']

/-- What surrounds the group between the anchors. -/
def anchorFrame : Frame := ⟨{}, [⟨.look .textStart, 0, true⟩], []⟩

def Part.anchored (p : Part) : Part :=
  .concat [⟨.look .textStart, 0, true⟩, ⟨p.expr, 1 + p.depth, true⟩, ⟨.look .textEnd, 0, true⟩]

/-- Matching somewhere between the ends of the text is matching all of it. -/
theorem Part.occursIn_anchored (p : Part) (text : List Char) :
    p.anchored.expr.occursIn text ↔ p.expr.Spans text 0 text.length :=
  Expr.occursIn_between_ends

theorem readAll_anchor (body : List Char) : readAll {} (anchor body).toList =
    readAll (({} : State).above anchorFrame) (body ++ anchorEnd) := by
  have htext : (anchor body).toList = '^' :: '(' :: '?' :: ':' :: (body ++ anchorEnd) := by
    rw [anchor, String.toList_ofList, anchorEnd]
    simp
  have hstart : (step {} '^').run ('(' :: '?' :: ':' :: (body ++ anchorEnd)) = .ok
      (State.push {} ⟨.look .textStart, 0, true⟩, '(' :: '?' :: ':' :: (body ++ anchorEnd)) := rfl
  have hopen : (step (State.push {} ⟨.look .textStart, 0, true⟩) '(').run
      ('?' :: ':' :: (body ++ anchorEnd)) =
        .ok (({} : State).above anchorFrame, body ++ anchorEnd) := rfl
  rw [htext, readAll_of_step rfl hstart, readAll_of_step rfl hopen]

def State.grouped (st : State) : State :=
  ⟨{}, [⟨st.body.expr, 1 + st.body.depth, true⟩, ⟨.look .textStart, 0, true⟩], [], [], st.names⟩

theorem State.closeGroup?_above (h : st.outer = []) :
    (st.above anchorFrame).closeGroup? = some st.grouped := by
  rw [State.closeGroup?, State.above, h]
  rfl

/-- Behind a whole pattern, the anchors close its group and end the text. -/
theorem readAll_close (h : st.outer = []) :
    readAll (st.above anchorFrame) anchorEnd =
      some (st.grouped.push ⟨.look .textEnd, 0, true⟩) := by
  have hclose : (step (st.above anchorFrame) ')').run ['$'] = .ok (st.grouped, ['$']) := by
    rw [step, State.closeGroup?_above h]
    rfl
  have hend : (step st.grouped '$').run [] =
      .ok (st.grouped.push ⟨.look .textEnd, 0, true⟩, []) := rfl
  rw [readAll_of_step (dropSpace_anchorEnd _) hclose, readAll_of_step rfl hend,
    readAll_of_dropSpace_nil rfl]

/-- A pattern that is read as a whole in the group between the anchors. -/
theorem parse?_anchor_of_readAll {body : List Char} (h : st.outer = [])
    (hread : readAll (({} : State).above anchorFrame) (body ++ anchorEnd) =
      readAll (st.above anchorFrame) anchorEnd) :
    parse? (anchor body).toList = some st.body.anchored := by
  rw [parse?_eq_some_iff]
  exact ⟨_, by rw [readAll_anchor, hread, readAll_close h], rfl, rfl⟩

end GraphSelect.Regex
