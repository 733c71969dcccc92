import GraphSelect.Proofs.Toml.Value

/-!
# Lines of assignments

A document in which each line gives a value to a word is read as the record of these values, when no
word comes twice. Such a document has no headers and no dots, so each line puts its field behind the
fields of the lines before it.
-/
namespace GraphSelect.Toml

open Text

variable {s v : List Char} {name : String} {d : Data}

def assignmentLine (name : String) (v : List Char) : List Char :=
  name.toList ++ ' ' :: '=' :: ' ' :: (v ++ ['\n'])

theorem run_blanks {b : List Char} (hb : ∀ c ∈ b, isBlank c) (hs : StopsAt isBlank s.head?) :
    blanks.run (b ++ s) = .ok ((), s) := by
  have htake : (Scan.takeWhile isBlank : Scan Unit _).run (b ++ s) = .ok (b, s) :=
    Scan.run_takeWhile_eq_ok_iff.2 ⟨rfl, hb, hs⟩
  unfold blanks
  exact Scan.run_bind_eq_ok_iff.2 ⟨b, s, htake, rfl⟩

theorem run_simpleName (hw : Word name.toList) :
    simpleName.run (name.toList ++ ' ' :: s) = .ok (name, ' ' :: s) := by
  obtain ⟨c, rest, hname, hc⟩ := hw.exists_cons
  have htake : (Scan.takeWhile isBareChar : Scan Unit _).run (name.toList ++ ' ' :: s) =
      .ok (name.toList, ' ' :: s) :=
    Scan.run_takeWhile_eq_ok_iff.2 ⟨rfl, hw.2, (stopsAt_some _ _).2 rfl⟩
  have hpeek : (Scan.peek : Scan Unit _).run (name.toList ++ ' ' :: s) =
      .ok (some c, name.toList ++ ' ' :: s) := by
    rw [Scan.run_peek, hname]
    rfl
  unfold simpleName
  refine Scan.run_bind_eq_ok_iff.2 ⟨some c, _, hpeek, ?_⟩
  split
  case h_3 =>
    refine Scan.run_bind_eq_ok_iff.2 ⟨_, _, htake, ?_⟩
    refine Scan.run_check_eq_ok_iff.2 ⟨by simpa using hw.1, ?_⟩
    rw [Scan.run_pure, String.ofList_toList]
  all_goals
    next e =>
      cases e
      cases hc

theorem Word.stopsAt_blank (hw : Word name.toList) (s : List Char) :
    StopsAt isBlank (name.toList ++ s).head? := by
  obtain ⟨c, rest, hname, hc⟩ := hw.exists_cons
  rw [hname]
  exact (stopsAt_some _ _).2 (isBlank_of_isBareChar hc)

theorem run_dottedName (hw : Word name.toList) :
    dottedName.run (name.toList ++ ' ' :: '=' :: s) = .ok (([], name), '=' :: s) := by
  have hfront : blanks.run (name.toList ++ ' ' :: '=' :: s) =
      .ok ((), name.toList ++ ' ' :: '=' :: s) :=
    run_blanks (b := []) nofun (hw.stopsAt_blank _)
  have hbehind : blanks.run (' ' :: '=' :: s) = .ok ((), '=' :: s) :=
    run_blanks (b := [' ']) (List.forall_mem_singleton.2 rfl) ((stopsAt_some _ _).2 rfl)
  unfold dottedName
  refine Scan.run_bind_eq_ok_iff.2 ⟨name, '=' :: s, ?_, ?_⟩
  · exact Scan.run_bind_eq_ok_iff.2 ⟨_, _, hfront, Scan.run_bind_eq_ok_iff.2
      ⟨_, _, run_simpleName hw, Scan.run_bind_eq_ok_iff.2 ⟨_, _, hbehind, rfl⟩⟩⟩
  · refine Scan.run_bind_eq_ok_iff.2 ⟨[], '=' :: s, ?_, rfl⟩
    rw [Scan.run_many]
    rfl

theorem run_assignment {inner : Scan Unit Data} (hw : Word name.toList)
    (hstart : StartsWith (fun c => !isBlank c) v.head?)
    (hinner : inner.run (v ++ '\n' :: s) = .ok (d, '\n' :: s)) :
    (assignment inner).run (assignmentLine name v ++ s) = .ok (⟨[], name, d⟩, '\n' :: s) := by
  have hsign : (expect '=').run ('=' :: ' ' :: (v ++ '\n' :: s)) =
      .ok ((), ' ' :: (v ++ '\n' :: s)) := rfl
  have hstops : StopsAt isBlank (v ++ '\n' :: s).head? :=
    (hstart.append _).stopsAt fun c hc => by simpa using hc
  have hgap : blanks.run (' ' :: (v ++ '\n' :: s)) = .ok ((), v ++ '\n' :: s) :=
    run_blanks (b := [' ']) (List.forall_mem_singleton.2 rfl) hstops
  have hend : blanks.run ('\n' :: s) = .ok ((), '\n' :: s) :=
    run_blanks (b := []) nofun ((stopsAt_some _ _).2 rfl)
  have hline : assignmentLine name v ++ s =
      name.toList ++ ' ' :: '=' :: ' ' :: (v ++ '\n' :: s) := by
    simp [assignmentLine]
  rw [hline]
  unfold assignment
  refine Scan.run_bind_eq_ok_iff.2 ⟨_, _, run_dottedName hw, ?_⟩
  refine Scan.run_bind_eq_ok_iff.2 ⟨_, _, hsign, ?_⟩
  refine Scan.run_bind_eq_ok_iff.2 ⟨_, _, hgap, ?_⟩
  refine Scan.run_bind_eq_ok_iff.2 ⟨_, _, hinner, ?_⟩
  exact Scan.run_bind_eq_ok_iff.2 ⟨_, _, hend, rfl⟩

theorem run_statement (hw : Word name.toList) (hv : Written v d) (s : List Char) :
    statement.run (assignmentLine name v ++ s) = .ok (.assignment ⟨[], name, d⟩, '\n' :: s) := by
  obtain ⟨c, rest, hname, hc⟩ := hw.exists_cons
  have hbracket : ∀ mark, ('[' :: mark).isPrefixOf (assignmentLine name v ++ s) = false := by
    intro mark
    have hne : ('[' == c) = false := by simpa using (ne_of_kind hc (d := '[') rfl).symm
    rw [assignmentLine, hname, List.cons_append, List.cons_append, List.isPrefixOf, hne,
      Bool.false_and]
  have hlist : (Scan.eatAll ['[', '['] : Scan Unit _).run (assignmentLine name v ++ s) =
      .ok (false, assignmentLine name v ++ s) := by
    rw [Scan.run_eatAll, hbracket]
    rfl
  have htable : (Scan.eat '[' : Scan Unit _).run (assignmentLine name v ++ s) =
      .ok (false, assignmentLine name v ++ s) := by
    rw [Scan.run_eat, if_neg]
    rw [assignmentLine, hname, List.cons_append, List.cons_append, List.head?_cons,
      Option.some.injEq]
    exact ne_of_kind hc rfl
  unfold statement
  refine Scan.run_bind_eq_ok_iff.2 ⟨_, _, hlist, ?_⟩
  refine Scan.run_bind_eq_ok_iff.2 ⟨_, _, htable, ?_⟩
  exact Scan.run_bind_eq_ok_iff.2
    ⟨_, _, run_assignment hw hv.startsWith (hv.run_value s), rfl⟩

theorem run_line (hw : Word name.toList) (hv : Written v d) (s : List Char) :
    line.run (assignmentLine name v ++ s) = .ok (some (some (.assignment ⟨[], name, d⟩)), s) := by
  obtain ⟨c, rest, hname, hc⟩ := hw.exists_cons
  have hfront : blanks.run (assignmentLine name v ++ s) = .ok ((), assignmentLine name v ++ s) := by
    rw [assignmentLine, List.append_assoc]
    exact run_blanks (b := []) nofun (hw.stopsAt_blank _)
  have hpeek : (Scan.peek : Scan Unit _).run (assignmentLine name v ++ s) =
      .ok (some c, assignmentLine name v ++ s) := by
    rw [Scan.run_peek, assignmentLine, hname]
    rfl
  have hother : ¬ (c = '#' || c = '\n' || c = '\r') = true := by
    have hne : ∀ d, isBareChar d = false → c ≠ d := fun d => ne_of_kind hc
    simpa using ⟨⟨hne _ rfl, hne _ rfl⟩, hne _ rfl⟩
  unfold line
  refine Scan.run_bind_eq_ok_iff.2 ⟨_, _, hfront, ?_⟩
  refine Scan.run_bind_eq_ok_iff.2 ⟨_, _, hpeek, ?_⟩
  dsimp only
  rw [if_neg hother]
  refine Scan.run_bind_eq_ok_iff.2 ⟨_, _, run_statement hw hv s, ?_⟩
  exact Scan.run_bind_eq_ok_iff.2 ⟨(), s, rfl, rfl⟩

structure Entry where
  name : String
  text : List Char
  data : Data

namespace Entry

/-- The name is a word, and the text is read as what it stands for. -/
structure Readable (e : Entry) : Prop where
  word : Word e.name.toList
  written : Written e.text e.data

def statement (e : Entry) : Statement := .assignment ⟨[], e.name, e.data⟩

def document (entries : List Entry) : List Char :=
  entries.flatMap fun e => assignmentLine e.name e.text

end Entry

variable {entries : List Entry}

theorem run_many_line (h : ∀ e ∈ entries, e.Readable) :
    (Scan.many line).run (Entry.document entries) =
      .ok (entries.map fun e => some e.statement, []) := by
  induction entries with
  | nil =>
    have hend : line.run [] = .ok (none, []) := rfl
    rw [Entry.document, List.flatMap_nil, Scan.run_many, hend]
    rfl
  | cons e entries ih =>
    have he := h e List.mem_cons_self
    have hshorter : (Entry.document entries).length <
        (assignmentLine e.name e.text ++ Entry.document entries).length := by
      simp [assignmentLine]
      omega
    rw [Entry.document, List.flatMap_cons, Scan.run_many]
    rw [Entry.document] at ih hshorter
    rw [run_line he.word he.written]
    dsimp only
    rw [if_pos hshorter, ih fun f hf => h f (List.mem_cons_of_mem e hf)]
    rfl

theorem statements?_document (h : ∀ e ∈ entries, e.Readable) :
    statements? (Entry.document entries) = some (entries.map Entry.statement) := by
  have hmark : (Entry.document entries).head? ≠ some '\ufeff' := by
    cases entries with
    | nil => nofun
    | cons e entries =>
      obtain ⟨c, rest, hname, hc⟩ := (h e List.mem_cons_self).word.exists_cons
      rw [Entry.document, List.flatMap_cons, assignmentLine, hname]
      rintro ⟨⟩
      cases hc
  unfold statements?
  dsimp only
  rw [if_neg hmark, run_many_line h]
  simp [List.filterMap_map]

namespace Fields

theorem set_of_lookup_eq_none {fields : Fields} {item : Item} (h : fields.lookup name = none) :
    set name item fields = fields ++ [(name, item)] := by
  induction fields with
  | nil => rfl
  | cons field fields ih =>
    obtain ⟨n, i⟩ := field
    rw [List.lookup_cons] at h
    split at h
    · cases h
    · next hne =>
      have hn : n ≠ name := (beq_eq_false_iff_ne.1 hne).symm
      rw [set, if_neg hn, ih h]
      rfl

end Fields

def Entry.fields (entries : List Entry) : Fields := entries.map fun e => (e.name, .value e.data)

theorem carryOut_entries {fields : Fields}
    (hnodup : (fields.map Prod.fst ++ entries.map Entry.name).Nodup) :
    carryOut [] (entries.map Entry.statement) fields = some (fields ++ Entry.fields entries) := by
  induction entries generalizing fields with
  | nil => simp [carryOut, Entry.fields]
  | cons e entries ih =>
    obtain ⟨-, -, hdisjoint⟩ := List.nodup_append.1 hnodup
    have hnew : fields.lookup e.name = none := by
      rw [List.lookup_eq_none_iff]
      intro p hp
      exact bne_iff_ne.2 (hdisjoint p.1 (List.mem_map_of_mem hp) e.name List.mem_cons_self).symm
    have hassign : Fields.assign [] e.name e.data fields =
        some (fields ++ [(e.name, .value e.data)]) := by
      rw [← Fields.set_of_lookup_eq_none hnew]
      simp [Fields.assign, Fields.within, hnew]
    have hrest : carryOut [] (entries.map Entry.statement) (fields ++ [(e.name, .value e.data)]) =
        some (fields ++ [(e.name, .value e.data)] ++ Entry.fields entries) :=
      ih (by simpa [List.append_assoc] using hnodup)
    rw [List.append_assoc] at hrest
    rw [List.map_cons, Entry.statement, carryOut, Fields.within, hassign]
    exact hrest

theorem toRecord_fields (entries : List Entry) :
    toRecord (Entry.fields entries) = entries.map fun e => (e.name, e.data) := by
  induction entries with
  | nil => rfl
  | cons e entries ih =>
    rw [Entry.fields, List.map_cons, toRecord]
    rw [Entry.fields] at ih
    rw [ih]
    rfl

/-- A document of distinct names is read as the record of its entries. -/
theorem read?_document {text : String} (htext : text.toList = Entry.document entries)
    (h : ∀ e ∈ entries, e.Readable) (hnodup : (entries.map Entry.name).Nodup) :
    read? text = some (.record (entries.map fun e => (e.name, e.data))) := by
  have hfields : carryOut [] (entries.map Entry.statement) [] = some (Entry.fields entries) :=
    carryOut_entries hnodup
  unfold read?
  rw [htext, statements?_document h]
  simp only [Option.bind_eq_bind, Option.bind_some, hfields, toRecord_fields]
  rfl

end GraphSelect.Toml
