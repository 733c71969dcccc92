import GraphSelect.Proofs.Selector.Token
import Mathlib.Data.List.Induction

/-!
# Reading calls

The reader of calls takes exactly the argument lists of the grammar. An argument has a name when an
identifier and an equals sign stand ahead. A bare value reaches to the next comma or parenthesis,
and an equals sign that makes its beginning a name stands inside of it, so whether an argument has
a name does not depend on what follows the argument.
-/
namespace GraphSelect.Selector

open Text Grammar

variable {s r t : List Char}

def isBare (c : Char) : Bool := c ≠ ',' && c ≠ ')'

theorem isBare_iff {c : Char} : isBare c ↔ c ≠ ',' ∧ c ≠ ')' := by
  simp [isBare]

theorem isBare_of_isBlank {c : Char} (h : isBlank c) : isBare c := by
  rw [isBare_iff]
  constructor
  all_goals
    rintro rfl
    cases h

theorem exists_argumentValue {v : String × Bool} (h : argumentValue.run s = .ok (v, r))
    (hs : StopsAt isBlank s.head?) : ∃ t b, s = t ++ b ++ r ∧ ArgumentValue t v ∧ Blanks b := by
  unfold argumentValue at h
  rw [Scan.run_bind_eq_ok_iff] at h
  obtain ⟨o, u, ho, h⟩ := h
  rcases run_quoted?_eq_ok_iff.1 ho with ⟨t, content, rfl, ht, rfl⟩ | ⟨rfl, rfl, hquote⟩
  · cases h
    exact ⟨t, [], by rw [List.append_nil], .quoted ht, blanks_nil⟩
  · simp only [Scan.run_ahead_bind] at h
    rw [Scan.run_takeWhile_bind_eq_ok_iff] at h
    obtain ⟨w, u, rfl, hend, -, h⟩ := h
    obtain ⟨hne, h⟩ := Scan.run_check_eq_ok_iff.1 h
    cases h
    obtain ⟨b, hwb, hb, ht⟩ := exists_trim hs.of_append
    refine ⟨trim w, b, by rw [← hwb], .bare (by simpa using hne) ht (fun c hc => ?_) ?_, hb⟩
    · exact isBare_iff.1 (hend c (by rw [hwb]; exact List.mem_append_left b hc))
    · have hw := hquote.of_append
      rw [hwb] at hw
      exact hw.of_append

theorem stopsAt_of_value {v : String × Bool} (ht : ArgumentValue t v) :
    StopsAt isBlank (t ++ r).head? := by
  cases ht with
  | quoted ht => exact ((startsWith_of_quotedText ht).append r).stopsAt fun _ => isBlank_of_isQuote
  | bare hne ht =>
    rw [List.head?_append_of_ne_nil t hne]
    exact ht.1

theorem run_argumentValue {v : String × Bool} {b : List Char} (ht : ArgumentValue t v)
    (hb : Blanks b) (hr : StopsAt isBare r.head?) :
    ∃ b', Blanks b' ∧ argumentValue.run (t ++ (b ++ r)) = .ok (v, b' ++ r) := by
  unfold argumentValue
  cases ht with
  | quoted ht =>
    exact ⟨b, hb, Scan.run_bind_eq_ok_iff.2 ⟨_, _, run_quoted?_append ht _, rfl⟩⟩
  | bare hne ht hend hquote =>
    have hbare : ∀ c ∈ t ++ b, isBare c := by
      intro c hc
      rcases List.mem_append.1 hc with hc | hc
      · exact isBare_iff.2 (hend c hc)
      · exact isBare_of_isBlank (hb c hc)
    have htrim : trim (t ++ b) = t := trim_append blanks_nil ht hb
    refine ⟨[], blanks_nil, Scan.run_bind_eq_ok_iff.2 ⟨none, t ++ (b ++ r), ?_, ?_⟩⟩
    · apply run_quoted?_of_stopsAt
      rw [List.head?_append_of_ne_nil t hne]
      exact hquote
    · simp only [Scan.run_ahead_bind]
      refine Scan.run_takeWhile_bind_eq_ok_iff.2 ⟨t ++ b, r, ?_, hbare, hr, ?_⟩
      · rw [List.append_assoc]
      · rw [htrim]
        exact Scan.run_check_eq_ok_iff.2 ⟨by simpa using hne, rfl⟩

theorem run_argumentKey {k b : List Char} (hk : Identifier k) (hb : Blanks b) (u : List Char) :
    argumentKey.run (k ++ b ++ '=' :: u) = .ok (some (String.ofList k), skipBlanks u) := by
  have hstop : StopsAt isIdentChar (b ++ '=' :: u).head? :=
    (hb.stopsAt fun _ => isIdentChar_of_isBlank).append ((stopsAt_some _ _).2 rfl)
  have hword := takeWhile_append_of_stopsAt hk.2 hstop
  have hskip : skipBlanks (b ++ '=' :: u) = '=' :: u := skipBlanks_append hb (by simp [isBlank])
  have hdrop : (k ++ (b ++ '=' :: u)).drop ((k ++ (b ++ '=' :: u)).length - u.length) = u := by
    refine (List.suffix_iff_eq_drop.1 ⟨k ++ b ++ ['='], ?_⟩).symm
    simp only [List.append_assoc, List.cons_append, List.nil_append]
  unfold argumentKey
  rw [List.append_assoc, Scan.run_ahead_bind]
  simp only [hword, hskip]
  rw [if_neg (by simpa using hk.1), Scan.run_bind, Scan.run_drop, hdrop]
  obtain ⟨c, hu, hc, hstop⟩ := exists_skipBlanks u
  exact run_blanks_bind_eq_ok_iff.2 ⟨c, skipBlanks u, hu, hc, hstop, rfl⟩

/-- Without a name ahead nothing is taken. -/
theorem run_argumentKey_of_not_hasKey (hs : ¬ HasKey s) : argumentKey.run s = .ok (none, s) := by
  unfold argumentKey
  rw [Scan.run_ahead_bind]
  dsimp only
  split
  · next rest hrest =>
    split
    · rfl
    · next hne =>
      refine absurd ⟨s.takeWhile isIdentChar, (s.dropWhile isIdentChar).takeWhile isBlank, rest,
        ⟨by simpa using hne, fun _ => List.mem_takeWhile_imp⟩, fun _ => List.mem_takeWhile_imp, ?_⟩ hs
      rw [← hrest, List.append_assoc, skipBlanks, List.takeWhile_append_dropWhile,
        List.takeWhile_append_dropWhile]
  · rfl

def EndsArgument (r : List Char) : Prop := ∃ c u, r = c :: u ∧ (c = ',' ∨ c = ')')

theorem notMem_of_ends {k b : List Char} {c : Char} (hk : Identifier k) (hb : Blanks b)
    (hc : c = ',' ∨ c = ')') : c ∉ k ++ b := by
  intro hm
  rcases List.mem_append.1 hm with hm | hm
  · have := hk.2 c hm
    rcases hc with rfl | rfl <;> cases this
  · have := hb c hm
    rcases hc with rfl | rfl <;> cases this

theorem not_equals_of_ends {d u : List Char} (hd : Blanks d) (hr : EndsArgument r) :
    d ++ r ≠ '=' :: u := by
  obtain ⟨c, w, rfl, hc⟩ := hr
  intro h
  cases d with
  | nil =>
    rw [List.nil_append, List.cons.injEq] at h
    rcases hc with rfl | rfl <;> cases h.1
  | cons e d =>
    have he := hd e List.mem_cons_self
    rw [List.cons_append, List.cons.injEq] at h
    rw [h.1] at he
    cases he

/-- Whether a bare value begins with a name does not depend on what follows it. -/
theorem hasKey_of_append {d : List Char} (h : HasKey (t ++ (d ++ r))) (hd : Blanks d)
    (hr : EndsArgument r) : HasKey t := by
  obtain ⟨k, b, u, hk, hb, h⟩ := h
  rcases List.append_eq_append_iff.1 h with ⟨w, hw, hdr⟩ | ⟨w, rfl, hw⟩
  · -- the name goes on behind the value
    exfalso
    rcases List.append_eq_append_iff.1 hdr with ⟨x, rfl, hx⟩ | ⟨x, rfl, hx⟩
    · obtain ⟨c, v, rfl, hc⟩ := hr
      cases x with
      | nil =>
        exact not_equals_of_ends blanks_nil ⟨c, v, rfl, hc⟩ hx
      | cons y x =>
        obtain ⟨rfl, -⟩ := List.cons.inj hx
        exact notMem_of_ends hk hb hc (by rw [hw]; simp)
    · have hx' : Blanks x := fun c hc => hd c (List.mem_append_right w hc)
      exact not_equals_of_ends hx' hr hx.symm
  · cases w with
    | nil =>
      rw [List.nil_append] at hw
      exact absurd hw.symm (not_equals_of_ends hd hr)
    | cons y w =>
      obtain ⟨rfl, -⟩ := List.cons.inj hw
      exact ⟨k, b, w, hk, hb, rfl⟩

theorem exists_argument {x : Option String × String × Bool} (h : argument.run s = .ok (x, r)) :
    ∃ t, s = t ++ r ∧ Argument t x := by
  unfold argument at h
  rw [run_blanks_bind_eq_ok_iff] at h
  obtain ⟨a, u, rfl, ha, hstop, h⟩ := h
  rw [Scan.run_bind_eq_ok_iff] at h
  obtain ⟨o, w, ho, h⟩ := h
  rw [Scan.run_bind_eq_ok_iff] at h
  obtain ⟨v, z, hv, h⟩ := h
  dsimp only at h
  rw [run_blanks_bind_eq_ok_iff] at h
  obtain ⟨d, y, rfl, hd, -, h⟩ := h
  cases h
  by_cases hkey : HasKey u
  · obtain ⟨k, b, u, hk, hb, rfl⟩ := hkey
    rw [run_argumentKey hk hb] at ho
    obtain ⟨c, hu, hc, hstop⟩ := exists_skipBlanks u
    cases ho
    obtain ⟨t, e, he, ht, heb⟩ := exists_argumentValue hv hstop
    refine ⟨_, ?_, .named ha hk hb hc ht (heb.append hd)⟩
    rw [hu, he]
    simp only [List.append_assoc, List.cons_append]
  · rw [run_argumentKey_of_not_hasKey hkey] at ho
    cases ho
    obtain ⟨t, e, rfl, ht, heb⟩ := exists_argumentValue hv hstop
    refine ⟨_, ?_, .positional ha ht (fun hk => hkey ?_) (heb.append hd)⟩
    · simp only [List.append_assoc]
    · obtain ⟨k, b, u, hk, hb, rfl⟩ := hk
      exact ⟨k, b, _, hk, hb, by simp only [List.append_assoc, List.cons_append]; rfl⟩

theorem run_argument {x : Option String × String × Bool} (ht : Argument t x)
    (hr : EndsArgument r) : argument.run (t ++ r) = .ok (x, r) := by
  have hbare : StopsAt isBare r.head? := by
    obtain ⟨c, u, rfl, rfl | rfl⟩ := hr <;> exact (stopsAt_some _ _).2 rfl
  have hblank : StopsAt isBlank r.head? := by
    obtain ⟨c, u, rfl, rfl | rfl⟩ := hr <;> exact (stopsAt_some _ _).2 rfl
  unfold argument
  cases ht with
  | @named a k b c t d v ha hk hb hc ht hd =>
    obtain ⟨d', hd', hrun⟩ := run_argumentValue ht hd hbare
    have hkey := run_argumentKey hk hb (c ++ (t ++ (d ++ r)))
    have hstart := (startsWith_of_identifier hk).append (b ++ '=' :: (c ++ (t ++ (d ++ r))))
    rw [skipBlanks_append hc (stopsAt_of_value ht)] at hkey
    simp only [List.append_assoc, List.cons_append] at hkey ⊢
    refine run_blanks_bind_eq_ok_iff.2 ⟨a, _, rfl, ha, ?_, ?_⟩
    · exact hstart.stopsAt fun _ => isBlank_of_isIdentChar
    · refine Scan.run_bind_eq_ok_iff.2 ⟨_, _, hkey, Scan.run_bind_eq_ok_iff.2 ⟨v, _, hrun, ?_⟩⟩
      exact run_blanks_bind_eq_ok_iff.2 ⟨d', r, rfl, hd', hblank, rfl⟩
  | @positional a t d v ha ht hkey hd =>
    obtain ⟨d', hd', hrun⟩ := run_argumentValue ht hd hbare
    have hnone := run_argumentKey_of_not_hasKey fun h => hkey (hasKey_of_append h hd hr)
    simp only [List.append_assoc]
    refine run_blanks_bind_eq_ok_iff.2 ⟨a, _, rfl, ha, stopsAt_of_value ht, ?_⟩
    refine Scan.run_bind_eq_ok_iff.2 ⟨_, _, hnone, Scan.run_bind_eq_ok_iff.2 ⟨v, _, hrun, ?_⟩⟩
    exact run_blanks_bind_eq_ok_iff.2 ⟨d', r, rfl, hd', hblank, rfl⟩

theorem exists_argumentList {e : Stop} {as : List (Option String × String × Bool)}
    (h : (Scan.commaList e argument ')').run s = .ok (as, r)) :
    ∃ t, s = t ++ ')' :: r ∧ ArgumentList t as := by
  induction as generalizing s with
  | nil =>
    obtain ⟨_, _, _, _, _, he, _⟩ := Scan.run_commaList_eq_ok_iff.1 h
    cases he
  | cons a as ih =>
    obtain ⟨_, c, u, _, ha, he, hrest⟩ := Scan.run_commaList_eq_ok_iff.1 h
    cases he
    obtain ⟨t, rfl, ht⟩ := exists_argument ha
    rcases hrest with ⟨rfl, hmore⟩ | ⟨-, rfl, rfl, rfl⟩
    · obtain ⟨v, rfl, hv⟩ := ih hmore
      exact ⟨t ++ ',' :: v, by simp, .more ht hv⟩
    · exact ⟨t, rfl, .last ht⟩

theorem run_argumentList {e : Stop} {as : List (Option String × String × Bool)}
    (ht : ArgumentList t as) :
    (Scan.commaList e argument ')').run (t ++ ')' :: r) = .ok (as, r) := by
  induction ht with
  | last ht =>
    have hitem := run_argument ht ⟨')', r, rfl, .inr rfl⟩
    exact Scan.run_commaList_eq_ok_iff.2
      ⟨_, ')', r, [], hitem, rfl, .inr ⟨by decide, rfl, rfl, rfl⟩⟩
  | @more t u a as ht hu ih =>
    have hitem := run_argument ht ⟨',', u ++ ')' :: r, rfl, .inl rfl⟩
    rw [List.append_assoc, List.cons_append]
    exact Scan.run_commaList_eq_ok_iff.2 ⟨a, ',', _, as, hitem, rfl, .inl ⟨rfl, ih⟩⟩

def startsArgument (c : Char) : Bool := !isBlank c && c ≠ ')'

theorem startsWith_of_value {v : String × Bool} (ht : ArgumentValue t v) :
    StartsWith startsArgument t.head? := by
  cases ht with
  | quoted ht =>
    refine (startsWith_of_quotedText ht).mono fun c hc => ?_
    rcases isQuote_iff.1 hc with rfl | rfl <;> rfl
  | bare hne ht hend =>
    cases t with
    | nil => exact absurd rfl hne
    | cons c t =>
      have hblank : isBlank c = false := ht.1 c rfl
      have hclose : c ≠ ')' := (hend c List.mem_cons_self).2
      exact ⟨c, rfl, by simp [startsArgument, hblank, hclose]⟩

theorem startsArgument_of_isIdentChar {c : Char} (hc : isIdentChar c) : startsArgument c := by
  have hclose : c ≠ ')' := by
    rintro rfl
    cases hc
  simp [startsArgument, isBlank_of_isIdentChar hc, hclose]

/-- The blanks in front of an argument can be left out. -/
theorem exists_blanks_of_argument {x : Option String × String × Bool} (ht : Argument t x) :
    ∃ a u, t = a ++ u ∧ Blanks a ∧ Argument u x ∧ StartsWith startsArgument u.head? := by
  cases ht with
  | @named a k b c t d v ha hk hb hc ht hd =>
    refine ⟨a, k ++ b ++ '=' :: (c ++ t ++ d), by simp only [List.append_assoc], ha, ?_, ?_⟩
    · exact Argument.named blanks_nil hk hb hc ht hd
    · rw [List.append_assoc]
      exact ((startsWith_of_identifier hk).mono fun _ => startsArgument_of_isIdentChar).append _
  | @positional a t d v ha ht hkey hd =>
    refine ⟨a, t ++ d, List.append_assoc .., ha, ?_, (startsWith_of_value ht).append d⟩
    exact Argument.positional blanks_nil ht hkey hd

theorem argument_blanks_append {a : List Char} {x : Option String × String × Bool} (ha : Blanks a)
    (ht : Argument t x) : Argument (a ++ t) x := by
  cases ht with
  | @named a' k b c t d v ha' hk hb hc ht hd =>
    have h := Argument.named (ha.append ha') hk hb hc ht hd
    simpa only [List.append_assoc] using h
  | @positional a' t d v ha' ht hkey hd =>
    have h := Argument.positional (ha.append ha') ht hkey hd
    simpa only [List.append_assoc] using h

theorem exists_blanks_of_argumentList {as : List (Option String × String × Bool)}
    (ht : ArgumentList t as) :
    ∃ a u, t = a ++ u ∧ Blanks a ∧ ArgumentList u as ∧ StartsWith startsArgument u.head? := by
  cases ht with
  | last ht =>
    obtain ⟨a, u, rfl, ha, hu, hstart⟩ := exists_blanks_of_argument ht
    exact ⟨a, u, rfl, ha, .last hu, hstart⟩
  | @more t v x as ht hv =>
    obtain ⟨a, u, rfl, ha, hu, hstart⟩ := exists_blanks_of_argument ht
    exact ⟨a, u ++ ',' :: v, List.append_assoc .., ha, .more hu hv, hstart.append _⟩

theorem argumentList_blanks_append {a : List Char} {as : List (Option String × String × Bool)}
    (ha : Blanks a) (ht : ArgumentList t as) : ArgumentList (a ++ t) as := by
  cases ht with
  | last ht => exact .last (argument_blanks_append ha ht)
  | @more t v x as ht hv =>
    rw [← List.append_assoc]
    exact .more (argument_blanks_append ha ht) hv

theorem foldl_addArgument (as : List (Option String × String × Bool)) :
    as.foldl addArgument .empty = passed as := by
  induction as using List.reverseRecOn with
  | nil => rfl
  | append_singleton as a ih =>
    obtain ⟨key, value, isQuoted⟩ := a
    rw [List.foldl_concat, ih, passed, passed, List.mapIdx_concat]
    cases key with
    | some key => rfl
    | none => simp [addArgument, Args.pushPositional, Args.pushNamed, Args.size]

/-- The arguments of a call are read up to its closing parenthesis, which is taken too. -/
theorem run_callArguments_eq_ok_iff {start : List Char} {function : String} {args : Args} :
    (callArguments start function).run s = .ok (args, r) ↔
      ∃ t as, s = t ++ ')' :: r ∧ Arguments t as ∧ args = passed as := by
  unfold callArguments
  simp only [foldl_addArgument]
  rw [run_blanks_bind_eq_ok_iff]
  constructor
  · rintro ⟨a, u, rfl, ha, -, h⟩
    rw [Scan.run_eat_bind_eq_ok_iff] at h
    rcases h with ⟨u, rfl, h⟩ | ⟨-, h⟩
    · cases h
      exact ⟨a, [], rfl, .none ha, rfl⟩
    · rw [Scan.run_bind_eq_ok_iff] at h
      obtain ⟨as, v, hv, h⟩ := h
      cases h
      obtain ⟨t, rfl, ht⟩ := exists_argumentList hv
      exact ⟨a ++ t, as, (List.append_assoc ..).symm, .some (argumentList_blanks_append ha ht), rfl⟩
  · rintro ⟨t, as, rfl, ht, rfl⟩
    cases ht with
    | none ht =>
      refine ⟨t, ')' :: r, rfl, ht, by simp [isBlank], ?_⟩
      exact Scan.run_eat_bind_eq_ok_iff.2 (.inl ⟨r, rfl, rfl⟩)
    | some ht =>
      obtain ⟨a, u, rfl, ha, hu, hstart⟩ := exists_blanks_of_argumentList ht
      have hstart := hstart.append (')' :: r)
      refine ⟨a, u ++ ')' :: r, List.append_assoc .., ha, ?_, ?_⟩
      · exact hstart.stopsAt fun c hc => by simpa using (Bool.and_eq_true_iff.1 hc).1
      · refine Scan.run_eat_bind_eq_ok_iff.2 (.inr ⟨hstart.ne rfl, ?_⟩)
        exact Scan.run_bind_eq_ok_iff.2 ⟨as, r, run_argumentList hu, rfl⟩

theorem run_callSnippet_eq_ok_iff {registry : Registry} {start : List Char} {function : String}
    {f : Filter} :
    (callSnippet registry start function).run s = .ok (f, r) ↔
      ∃ t as accepts, s = t ++ ')' :: r ∧ Arguments t as ∧
        registry.resolve function (passed as) = .ok accepts ∧
        f = .function function (passed as) accepts := by
  unfold callSnippet
  rw [Scan.run_bind_eq_ok_iff]
  constructor
  · rintro ⟨args, u, hargs, h⟩
    obtain ⟨t, as, rfl, ht, rfl⟩ := run_callArguments_eq_ok_iff.1 hargs
    rw [Scan.run_bind_eq_ok_iff] at h
    obtain ⟨accepts, v, hv, h⟩ := h
    cases h
    obtain ⟨hresolve, rfl⟩ := run_lift_eq_ok_iff.1 hv
    exact ⟨t, as, accepts, rfl, ht, hresolve, rfl⟩
  · rintro ⟨t, as, accepts, rfl, ht, hresolve, rfl⟩
    refine ⟨passed as, r, run_callArguments_eq_ok_iff.2 ⟨t, as, rfl, ht, rfl⟩, ?_⟩
    exact Scan.run_bind_eq_ok_iff.2 ⟨accepts, r, run_lift_eq_ok_iff.2 ⟨hresolve, rfl⟩, rfl⟩

end GraphSelect.Selector
