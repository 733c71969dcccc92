import GraphSelect.Proofs.Regex.Reading
import GraphSelect.Proofs.Selector.AttributeClause
import GraphSelect.Selector.Query

/-!
# Bare text

Escaping takes its meaning from every character that has one, so reading the escaped text piles up
one piece for each character. The row of these pieces matches the text and nothing else; between
the anchors, a text is therefore accepted exactly when it is equal. Names, values and arguments
without quotes are patterns of this kind.
-/
namespace GraphSelect

open Text Selector Grammar

namespace Regex

variable {st : State} {c : Char} {s t text : List Char} {i j : Nat}

theorem ne_of_isMeta (hc : isMeta c) {d : Char} (hd : isMeta d = false) : c ≠ d := by
  rintro rfl
  rw [hd] at hc
  cases hc

theorem run_escape_of_isMeta (f : Flags) (hc : isMeta c) (s : List Char) :
    (escape f).run (c :: s) = .ok (.literal c false, s) := by
  have hx : ¬ (c = 'x' || c = 'u' || c = 'U') := by
    simp [ne_of_isMeta hc (d := 'x') (by decide), ne_of_isMeta hc (d := 'u') (by decide),
      ne_of_isMeta hc (d := 'U') (by decide)]
  have hp : ¬ (c = 'p' || c = 'P') := by
    simp [ne_of_isMeta hc (d := 'p') (by decide), ne_of_isMeta hc (d := 'P') (by decide)]
  unfold escape take
  rw [Scan.run_bind, Scan.run_next_cons]
  simp [hx, hp, hc]

theorem step_of_not_isMeta (st : State) (hc : isMeta c = false) :
    step st c = give (st.pushPrimitive? (.literal c false)) := by
  unfold step
  split
  all_goals first | rfl | cases hc

theorem escapeAll_cons_of_isMeta (hc : isMeta c) (t : List Char) :
    escapeAll (c :: t) = '\\' :: c :: escapeAll t := by
  simp [escapeAll, hc]

theorem escapeAll_cons_of_not_isMeta (hc : isMeta c = false) (t : List Char) :
    escapeAll (c :: t) = c :: escapeAll t := by
  simp [escapeAll, hc]

def single (c : Char) : Part := ⟨.set (.single c), 0, true⟩

def State.pushText (st : State) (t : List Char) : State :=
  { st with items := (t.map single).reverse ++ st.items }

theorem State.pushText_cons (st : State) (c : Char) (t : List Char) :
    st.pushText (c :: t) = (st.pushSet (.single c)).pushText t := by
  simp [pushText, pushSet, push, single]

/-- Reading escaped text adds a piece for each of its characters. -/
theorem readAll_escapeAll (h : st.flags = {}) (t s : List Char) :
    readAll st (escapeAll t ++ s) = readAll (st.pushText t) s := by
  induction t generalizing st with
  | nil => rfl
  | cons c t ih =>
    have hpush : st.pushPrimitive? (.literal c false) = some (st.pushSet (.single c)) := by
      rw [State.pushPrimitive?, h]
      rfl
    have hspace (s : List Char) : st.flags.dropSpace s = s := by
      rw [h]
      rfl
    have hrest : readAll (st.pushSet (.single c)) (escapeAll t ++ s) =
        readAll ((st.pushSet (.single c)).pushText t) s := ih h
    rw [State.pushText_cons, ← hrest]
    cases hc : isMeta c with
    | true =>
      rw [escapeAll_cons_of_isMeta hc, List.cons_append, List.cons_append]
      refine readAll_of_step (hspace _) ?_
      simp only [step, Scan.run_bind, run_escape_of_isMeta _ hc, hpush]
      rfl
    | false =>
      rw [escapeAll_cons_of_not_isMeta hc, List.cons_append]
      refine readAll_of_step (hspace _) ?_
      rw [step_of_not_isMeta st hc, hpush]
      rfl

theorem spans_concat (parts : List Part) : (Part.concat parts).expr.Spans text i j ↔
    (parts.foldr (fun p e => Expr.seq p.expr e) .empty).Spans text i j := by
  match parts with
  | [] => exact Iff.rfl
  | [p] => simp [Part.concat, Expr.Spans]
  | p :: q :: parts => exact Iff.rfl

/-- A text stands at a place when its first character does and its rest stands behind it. -/
theorem prefix_drop_iff :
    (c :: t) <+: text.drop i ↔ text[i]? = some c ∧ t <+: text.drop (i + 1) := by
  rcases Nat.lt_or_ge i text.length with hi | hi
  · rw [List.drop_eq_getElem_cons hi, List.cons_prefix_cons, List.getElem?_eq_getElem hi,
      Option.some.injEq, eq_comm]
  · simp [List.drop_eq_nil_of_le hi, List.getElem?_eq_none hi]

/-- A row of characters matches where they stand in the text. -/
theorem spans_singles (t : List Char) : (Part.concat (t.map single)).expr.Spans text i j ↔
    j = i + t.length ∧ t <+: text.drop i := by
  rw [spans_concat]
  induction t generalizing i with
  | nil => simp [Expr.Spans, eq_comm]
  | cons c t ih =>
    rw [List.map_cons, List.foldr_cons, prefix_drop_iff]
    constructor
    · rintro ⟨k, ⟨rfl, d, hd, hc⟩, hspans⟩
      obtain ⟨rfl, hstands⟩ := ih.1 hspans
      have hdc : d = c := by simpa [single, CharSet.contains] using hc
      rw [hdc] at hd
      exact ⟨by rw [List.length_cons]; omega, hd, hstands⟩
    · rintro ⟨rfl, hc, hstands⟩
      refine ⟨i + 1, ⟨rfl, c, hc, by simp [CharSet.contains]⟩, ih.2 ⟨?_, hstands⟩⟩
      rw [List.length_cons]
      omega

/-- From one end of a text to the other, a row of characters matches the text that it spells. -/
theorem spans_singles_all (t text : List Char) :
    (Part.concat (t.map single)).expr.Spans text 0 text.length ↔ text = t := by
  rw [spans_singles, Nat.zero_add, List.drop_zero]
  constructor
  · rintro ⟨hlength, hstands⟩
    exact (hstands.eq_of_length hlength.symm).symm
  · rintro rfl
    exact ⟨rfl, List.prefix_refl _⟩

theorem cost_concat_le (parts : List Part) : (Part.concat parts).expr.cost ≤
    (parts.foldr (fun p e => Expr.seq p.expr e) .empty).cost := by
  match parts with
  | [] => exact Nat.le_refl _
  | [p] => exact Nat.le_add_right _ _
  | p :: q :: parts => exact Nat.le_refl _

theorem cost_singles_le (t : List Char) :
    (Part.concat (t.map single)).expr.cost ≤ 32 * byteLength t + 32 := by
  refine Nat.le_trans (cost_concat_le _) ?_
  induction t with
  | nil => exact Nat.le_refl _
  | cons c t ih =>
    have hcost : (Expr.set (.single c)).cost = 32 * c.utf8Size := rfl
    rw [List.map_cons, List.foldr_cons, Expr.cost, single, hcost, byteLength_cons]
    omega

theorem depth_singles_le (t : List Char) : (Part.concat (t.map single)).depth ≤ 1 := by
  have hzero : ∀ t : List Char, ((t.map single).map Part.depth).foldl max 0 = 0 := by
    intro t
    induction t with
    | nil => rfl
    | cons c t ih => exact ih
  match t with
  | [] => exact Nat.zero_le 1
  | [c] => exact Nat.zero_le 1
  | c :: d :: t => exact Nat.le_of_eq (congrArg (1 + ·) (hzero (c :: d :: t)))

/-- Escaped text between the anchors denotes the row of its characters. -/
theorem parse?_escaped (t : List Char) :
    parse? (anchor (escapeAll t)).toList = some (Part.concat (t.map single)).anchored := by
  have hbody : (({} : State).pushText t).body = Part.concat (t.map single) := by
    simp [State.body, State.pushText]
  rw [← hbody]
  exact parse?_anchor_of_readAll rfl (readAll_escapeAll rfl t _)

theorem nestingFits_escaped (t : List Char) : NestingFits (anchor (escapeAll t)).toList := by
  intro part hpart
  rw [parse?_escaped] at hpart
  cases hpart
  have hdepth : (Part.concat (t.map single)).anchored.depth =
      1 + max (max (max 0 0) (1 + (Part.concat (t.map single)).depth)) 0 := rfl
  have hle := depth_singles_le t
  rw [hdepth, maxDepth]
  omega

/-- A text of some 300 kilobytes does not reach the limit on size. -/
theorem sizeFits_escaped {t : List Char} (h : 32 * byteLength t + 128 ≤ Expr.maxCost) :
    SizeFits (anchor (escapeAll t)).toList := by
  intro part hpart
  rw [parse?_escaped] at hpart
  cases hpart
  have hcost : (Part.concat (t.map single)).anchored.expr.cost =
      32 + ((Part.concat (t.map single)).expr.cost + (32 + 32)) := rfl
  have hle := cost_singles_le t
  rw [hcost]
  omega

end Regex

/-- A pattern accepts one text and nothing else, as a name, as the name of an attribute and as its
value. -/
structure Regex.AcceptsOnly (r : Regex) (t : String) : Prop where
  isMatch_iff : ∀ s, r.isMatch s ↔ s = t
  name_iff : ∀ search origin node, (Filter.name r).accepts search origin node ↔
    search.graph.name node = some t
  attribute_iff : ∀ search origin node, (Filter.hasAttribute r none).accepts search origin node ↔
    ∃ n, search.graph.get? node = some n ∧ ∃ p ∈ n.attributes.entries, p.1 = t
  value_iff : ∀ key search origin node,
    (Filter.hasAttribute key (some r)).accepts search origin node ↔
      ∃ n, search.graph.get? node = some n ∧ ∃ p ∈ n.attributes.entries, key.isMatch p.1 ∧ p.2 = t

/-- A pattern is what a text without quotes stands for, as a name, as the name of an attribute, as
its value and as an argument. -/
structure Regex.IsReadFrom (r : Regex) (t : String) : Prop where
  name : ∀ registry start c w rest, t.toList = c :: w → Identifier t.toList →
    StopsAt isIdentChar rest.head? → rest.head? ≠ some '(' →
      (wordSnippet registry c start).run (w ++ rest) = .ok (.name r, rest)
  attributeName : ∀ rest, Identifier t.toList → StopsAt isIdentChar rest.head? →
    Selector.attributeName.run (t.toList ++ rest) = .ok (r, rest)
  attributeValue : ∀ b rest, Trimmed t.toList → ']' ∉ t.toList → StopsAt isQuote t.toList.head? →
    Blanks b → ∃ b', Blanks b' ∧
      Selector.attributeValue.run (t.toList ++ (b ++ ']' :: rest)) = .ok (r, b' ++ ']' :: rest)
  argument : ∀ (args : Args) function keys arg, args.require function keys = .ok arg →
    arg.quoted = false → arg.value = t → args.requirePattern function keys = .ok r

namespace Regex

variable {r : Regex} {text : String}

theorem acceptsOnly_of_isMatch_iff (h : ∀ s, r.isMatch s ↔ s = text) : r.AcceptsOnly text where
  isMatch_iff := h
  name_iff := fun search origin node => by
    simp [Filter.accepts, Option.any_eq_true, h]
  attribute_iff := fun search origin node => by
    simp [Filter.accepts, Option.any_eq_true, h]
  value_iff := fun key search origin node => by
    simp [Filter.accepts, Option.any_eq_true, h]

theorem isReadFrom_of_literal (h : literal text = .ok r) : r.IsReadFrom text where
  name := by
    intro registry start c w rest htext hident hrest hcall
    rw [htext] at hident
    have hw := (List.forall_mem_cons.1 hident.2).2
    refine Scan.run_takeWhile_bind_eq_ok_iff.2 ⟨w, rest, rfl, hw, hrest, ?_⟩
    refine Scan.run_eat_bind_eq_ok_iff.2 (.inr ⟨hcall, ?_⟩)
    rw [← htext, String.ofList_toList]
    exact Scan.run_bind_eq_ok_iff.2 ⟨r, rest, run_lift_eq_ok_iff.2 ⟨h, rfl⟩, rfl⟩
  attributeName := fun rest hident hrest =>
    run_attributeName (.word hident (by rwa [String.ofList_toList])) hrest
  attributeValue := fun b rest htrim hclose hquote hb =>
    run_attributeValue (.bare htrim hclose hquote (by rwa [String.ofList_toList])) hb
  argument := by
    rintro args function keys arg harg hquoted rfl
    rw [Args.requirePattern, harg, ← h]
    simp only [bind, Except.bind, hquoted]
    rfl

/-- Bare text is always a pattern, which accepts this text and nothing else wherever it stands. -/
theorem exists_literal (text : String) (hsize : SizeFits (anchor (escapeAll text.toList)).toList) :
    ∃ r, literal text = .ok r ∧ r.AcceptsOnly text ∧ r.IsReadFrom text := by
  have htext := ofText?_eq ⟨hsize, nestingFits_escaped text.toList⟩
  rw [parse?_escaped, Option.map_some] at htext
  have hliteral : literal text = .ok ⟨anchor (escapeAll text.toList),
      (Part.concat (text.toList.map single)).anchored.expr⟩ := by
    rw [literal, htext]
  refine ⟨_, hliteral, acceptsOnly_of_isMatch_iff fun s => ?_, isReadFrom_of_literal hliteral⟩
  rw [isMatch, Part.occursIn_anchored, spans_singles_all, String.toList_inj]

/-- A text with characters that have a meaning in patterns, a line feed and a space. -/
theorem exists_literal_dotted : ∃ r, literal "a.b*\n (" = .ok r ∧
    r.AcceptsOnly "a.b*\n (" ∧ r.IsReadFrom "a.b*\n (" :=
  exists_literal "a.b*\n (" (sizeFits_escaped (by decide))

end Regex

end GraphSelect
