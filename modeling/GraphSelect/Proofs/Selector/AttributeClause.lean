import GraphSelect.Proofs.Selector.Token

/-!
# Reading attribute clauses

The reader of attribute clauses takes exactly the clauses of the grammar. What it takes for a name
or a value is a piece that the grammar derives; in the other direction, a derived piece is read
back when what stands behind it cannot belong to it any more. A bare value reaches to the closing
bracket, so the blanks behind it are read along and trimmed away.
-/
namespace GraphSelect.Selector

open Text Grammar

variable {s r t : List Char}

theorem exists_attributeName {x : Regex} (h : attributeName.run s = .ok (x, r)) :
    ∃ t, s = t ++ r ∧ AttributeName t x := by
  unfold attributeName at h
  rw [Scan.run_eat_bind_eq_ok_iff] at h
  rcases h with ⟨u, rfl, h⟩ | ⟨-, h⟩
  · rw [run_lift_eq_ok_iff] at h
    obtain ⟨hx, rfl⟩ := h
    exact ⟨['*'], rfl, .star hx⟩
  · rw [Scan.run_bind_eq_ok_iff] at h
    obtain ⟨o, u, ho, h⟩ := h
    rw [run_quoted?_eq_ok_iff] at ho
    rcases ho with ⟨t, content, rfl, ht, rfl⟩ | ⟨rfl, rfl, -⟩
    · rw [run_lift_eq_ok_iff] at h
      obtain ⟨hx, rfl⟩ := h
      exact ⟨t, rfl, .quoted ht hx⟩
    · simp only [Scan.run_ahead_bind] at h
      rw [Scan.run_takeWhile_bind_eq_ok_iff] at h
      obtain ⟨t, v, rfl, ht, -, h⟩ := h
      rw [Scan.run_check_eq_ok_iff] at h
      obtain ⟨hne, h⟩ := h
      rw [run_lift_eq_ok_iff] at h
      obtain ⟨hx, rfl⟩ := h
      exact ⟨t, rfl, .word ⟨by simpa using hne, ht⟩ hx⟩

theorem run_attributeName {x : Regex} (ht : AttributeName t x)
    (hr : StopsAt isIdentChar r.head?) : attributeName.run (t ++ r) = .ok (x, r) := by
  unfold attributeName
  rw [Scan.run_eat_bind_eq_ok_iff]
  cases ht with
  | star hx => exact .inl ⟨r, rfl, run_lift_eq_ok_iff.2 ⟨hx, rfl⟩⟩
  | quoted ht hx =>
    refine .inr ⟨((startsWith_of_quotedText ht).append r).ne rfl, ?_⟩
    refine Scan.run_bind_eq_ok_iff.2 ⟨_, r, run_quoted?_append ht r, ?_⟩
    exact run_lift_eq_ok_iff.2 ⟨hx, rfl⟩
  | word ht hx =>
    have hstart := (startsWith_of_identifier ht).append r
    refine .inr ⟨hstart.ne rfl, Scan.run_bind_eq_ok_iff.2 ⟨none, t ++ r, ?_, ?_⟩⟩
    · exact run_quoted?_of_stopsAt (hstart.stopsAt fun _ => isQuote_of_isIdentChar)
    · simp only [Scan.run_ahead_bind]
      refine Scan.run_bind_eq_ok_iff.2 ⟨t, r, Scan.run_takeWhile_eq_ok_iff.2 ⟨rfl, ht.2, hr⟩, ?_⟩
      exact Scan.run_check_eq_ok_iff.2 ⟨by simpa using ht.1, run_lift_eq_ok_iff.2 ⟨hx, rfl⟩⟩

/-- A bare value takes the blanks behind it along. -/
theorem exists_attributeValue {x : Regex} (h : attributeValue.run s = .ok (x, r))
    (hs : StopsAt isBlank s.head?) : ∃ t b, s = t ++ b ++ r ∧ AttributeValue t x ∧ Blanks b := by
  unfold attributeValue at h
  rw [Scan.run_bind_eq_ok_iff] at h
  obtain ⟨o, u, ho, h⟩ := h
  rcases run_quoted?_eq_ok_iff.1 ho with ⟨t, content, rfl, ht, rfl⟩ | ⟨rfl, rfl, hquote⟩
  · rw [run_lift_eq_ok_iff] at h
    obtain ⟨hx, rfl⟩ := h
    exact ⟨t, [], by rw [List.append_nil], .quoted ht hx, blanks_nil⟩
  · rw [Scan.run_takeWhile_bind_eq_ok_iff] at h
    obtain ⟨v, u, rfl, hclose, -, h⟩ := h
    rw [run_lift_eq_ok_iff] at h
    obtain ⟨hx, rfl⟩ := h
    obtain ⟨b, hvb, hb, ht⟩ := exists_trim hs.of_append
    refine ⟨trim v, b, by rw [← hvb], .bare ht (fun hm => ?_) ?_ hx, hb⟩
    · have := hclose ']' (by rw [hvb]; exact List.mem_append_left b hm)
      simp at this
    · have hv := hquote.of_append
      rw [hvb] at hv
      exact hv.of_append

theorem run_attributeValue {x : Regex} {b : List Char} (ht : AttributeValue t x) (hb : Blanks b) :
    ∃ b', Blanks b' ∧ attributeValue.run (t ++ (b ++ ']' :: r)) = .ok (x, b' ++ ']' :: r) := by
  unfold attributeValue
  cases ht with
  | quoted ht hx =>
    refine ⟨b, hb, Scan.run_bind_eq_ok_iff.2 ⟨_, _, run_quoted?_append ht _, ?_⟩⟩
    exact run_lift_eq_ok_iff.2 ⟨hx, rfl⟩
  | bare ht hclose hquote hx =>
    have hblank : ∀ c ∈ t ++ b, decide (c ≠ ']') := by
      intro c hc
      rw [decide_eq_true_eq]
      rintro rfl
      rcases List.mem_append.1 hc with hc | hc
      · exact hclose hc
      · cases hb _ hc
    refine ⟨[], blanks_nil, Scan.run_bind_eq_ok_iff.2 ⟨none, t ++ (b ++ ']' :: r), ?_, ?_⟩⟩
    · apply run_quoted?_of_stopsAt
      exact hquote.append ((hb.stopsAt fun _ => isQuote_of_isBlank).append (by simp [isQuote]))
    · refine Scan.run_bind_eq_ok_iff.2 ⟨t ++ b, ']' :: r, ?_, ?_⟩
      · refine Scan.run_takeWhile_eq_ok_iff.2 ⟨?_, hblank, ?_⟩
        · rw [List.append_assoc]
        · simp
      · rw [← List.nil_append (t ++ b), ← List.append_assoc]
        refine run_lift_eq_ok_iff.2 ⟨?_, rfl⟩
        rw [trim_append blanks_nil ht hb, hx]

theorem run_close_eq_ok_iff {α : Type} {c : Char} (hc : isBlank c = false) {a x : α} {e : Stop} :
    (blanks >>= fun _ => Scan.eat c >>= fun b => if b then pure a else Scan.fail e).run s =
      .ok (x, r) ↔ ∃ b, s = b ++ c :: r ∧ Blanks b ∧ x = a := by
  rw [run_blanks_bind_eq_ok_iff]
  constructor
  · rintro ⟨b, u, rfl, hb, -, h⟩
    rw [Scan.run_eat_bind_eq_ok_iff] at h
    rcases h with ⟨v, rfl, h⟩ | ⟨-, h⟩
    · cases h
      exact ⟨b, rfl, hb, rfl⟩
    · cases h
  · rintro ⟨b, rfl, hb, rfl⟩
    refine ⟨b, c :: r, rfl, hb, by simpa using hc, ?_⟩
    exact Scan.run_eat_bind_eq_ok_iff.2 (.inl ⟨r, rfl, rfl⟩)

theorem stopsAt_of_attributeName {x : Regex} (ht : AttributeName t x) :
    StopsAt isBlank (t ++ r).head? := by
  cases ht with
  | star hx => simp [isBlank]
  | quoted ht hx =>
    exact ((startsWith_of_quotedText ht).append r).stopsAt fun _ => isBlank_of_isQuote
  | word ht hx =>
    exact ((startsWith_of_identifier ht).append r).stopsAt fun _ => isBlank_of_isIdentChar

theorem exists_attributeSnippet {start : List Char} {f : Filter}
    (h : (attributeSnippet start).run s = .ok (f, r)) : ∃ t, s = t ++ r ∧ AttributeClause t f := by
  unfold attributeSnippet at h
  rw [run_blanks_bind_eq_ok_iff] at h
  obtain ⟨a, u, rfl, ha, -, h⟩ := h
  rw [Scan.run_bind_eq_ok_iff] at h
  obtain ⟨x, v, hv, h⟩ := h
  obtain ⟨t, rfl, ht⟩ := exists_attributeName hv
  rw [run_blanks_bind_eq_ok_iff] at h
  obtain ⟨b, w, rfl, hb, -, h⟩ := h
  dsimp only at h
  rw [Scan.run_eat_bind_eq_ok_iff] at h
  rcases h with ⟨w, rfl, h⟩ | ⟨-, h⟩
  · rw [run_blanks_bind_eq_ok_iff] at h
    obtain ⟨c, w, rfl, hc, hstop, h⟩ := h
    rw [Scan.run_bind_eq_ok_iff] at h
    obtain ⟨y, z, hz, h⟩ := h
    obtain ⟨u, d, rfl, hu, hd⟩ := exists_attributeValue hz hstop
    rw [Scan.run_pure_bind, run_close_eq_ok_iff (by rfl)] at h
    obtain ⟨d', rfl, hd', rfl⟩ := h
    refine ⟨_, ?_, .value ha ht hb hc hu (hd.append hd')⟩
    simp only [List.append_assoc, List.cons_append, List.nil_append]
  · rw [Scan.run_pure_bind, run_close_eq_ok_iff (by rfl)] at h
    obtain ⟨b', rfl, hb', rfl⟩ := h
    refine ⟨_, ?_, .name ha ht (hb.append hb')⟩
    simp only [List.append_assoc, List.cons_append, List.nil_append]

/-- Blanks in front of an empty value belong to the blanks behind it. -/
theorem exists_stopsAt_attributeValue {x : Regex} {c d : List Char} (ht : AttributeValue t x)
    (hc : Blanks c) (hd : Blanks d) : ∃ c' d', Blanks c' ∧ Blanks d' ∧
      c ++ (t ++ (d ++ ']' :: r)) = c' ++ (t ++ (d' ++ ']' :: r)) ∧
      StopsAt isBlank (t ++ (d' ++ ']' :: r)).head? := by
  by_cases hne : t = []
  · subst hne
    exact ⟨c ++ d, [], hc.append hd, blanks_nil, by simp, by simp [isBlank]⟩
  · refine ⟨c, d, hc, hd, rfl, ?_⟩
    cases ht with
    | quoted ht hx =>
      exact ((startsWith_of_quotedText ht).append _).stopsAt fun _ => isBlank_of_isQuote
    | bare ht hclose hquote hx =>
      rw [List.head?_append_of_ne_nil t hne]
      exact ht.1

theorem stopsAt_blanks_append {b : List Char} (hb : Blanks b) {c : Char}
    (hc : isIdentChar c = false) :
    StopsAt isIdentChar (b ++ c :: r).head? :=
  (hb.stopsAt fun _ => isIdentChar_of_isBlank).append (by simpa using hc)

theorem run_attributeSnippet {start : List Char} {f : Filter} (ht : AttributeClause t f) :
    (attributeSnippet start).run (t ++ r) = .ok (f, r) := by
  unfold attributeSnippet
  cases ht with
  | @name a t b x ha ht hb =>
    simp only [List.append_assoc, List.cons_append, List.nil_append]
    refine run_blanks_bind_eq_ok_iff.2 ⟨a, _, rfl, ha, stopsAt_of_attributeName ht, ?_⟩
    refine Scan.run_bind_eq_ok_iff.2 ⟨x, _, run_attributeName ht (stopsAt_blanks_append hb rfl), ?_⟩
    refine run_blanks_bind_eq_ok_iff.2 ⟨b, _, rfl, hb, by simp [isBlank], ?_⟩
    refine Scan.run_eat_bind_eq_ok_iff.2 (.inr ⟨by simp, ?_⟩)
    rw [Scan.run_pure_bind]
    exact (run_close_eq_ok_iff rfl).2 ⟨[], rfl, blanks_nil, rfl⟩
  | @value a t b c u d x y ha ht hb hc hu hd =>
    simp only [List.append_assoc, List.cons_append, List.nil_append]
    refine run_blanks_bind_eq_ok_iff.2 ⟨a, _, rfl, ha, stopsAt_of_attributeName ht, ?_⟩
    refine Scan.run_bind_eq_ok_iff.2 ⟨x, _, run_attributeName ht (stopsAt_blanks_append hb rfl), ?_⟩
    refine run_blanks_bind_eq_ok_iff.2 ⟨b, _, rfl, hb, by simp [isBlank], ?_⟩
    refine Scan.run_eat_bind_eq_ok_iff.2 (.inl ⟨_, rfl, ?_⟩)
    obtain ⟨c, d, hc, hd, e, hstop⟩ := exists_stopsAt_attributeValue (r := r) hu hc hd
    obtain ⟨d', hd', hrun⟩ := run_attributeValue (r := r) hu hd
    refine run_blanks_bind_eq_ok_iff.2 ⟨c, _, e, hc, hstop, ?_⟩
    refine Scan.run_bind_eq_ok_iff.2 ⟨y, _, hrun, ?_⟩
    rw [Scan.run_pure_bind]
    exact (run_close_eq_ok_iff rfl).2 ⟨d', rfl, hd', rfl⟩

end GraphSelect.Selector
