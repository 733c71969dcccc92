import GraphSelect.Proofs.Selector.Builtin
import GraphSelect.Proofs.Selector.SelectorAgreement
import GraphSelect.Proofs.Steps

/-!
# Compiling is safe

Whatever the text, compiling it ends with a pattern whose stages and filters are all there, in its
blocks too, or with an error of selectors. The errors of the compiler itself that name a position name
one between two characters of the text. A maker may give an error of its own, which is passed on as
it is; the built-in functions give none that names a position.
-/
namespace GraphSelect

open Text Grammar

namespace Registry

variable {registry : Registry} {text : String} {e : Error}

theorem exists_maker_of_resolve {function : String} {args : Args}
    (h : registry.resolve function args = .error e) :
    e.Unplaced ∨ ∃ maker, registry.find? function = some maker ∧ maker args = .error e := by
  unfold resolve at h
  split at h
  · next maker hfind => exact .inr ⟨maker, hfind, h⟩
  · cases h
    exact .inl ⟨rfl, nofun⟩

theorem justified_of_run {s : List Char} {stop : Selector.Stop}
    (h : (Selector.selector registry Limits.maxBlockDepth false).run s = .error stop) :
    Cursor.Justified registry s stop := by
  have hagree : Cursor.Agree registry s _
      ((Selector.selector registry Limits.maxBlockDepth false).run s) :=
    Cursor.agree_selector (List.suffix_refl s) (Nat.zero_add Limits.maxBlockDepth)
      (Nat.lt_succ_self (s.length + 1))
  rw [h] at hagree
  exact hagree.1

/-- An error of a text names a position between two characters, or no position, or is the error of a
maker at the arguments of a call in the text. -/
theorem error_cases (h : registry.compile text = .error e) :
    (∃ a b fault, text.toList = a ++ b ∧ e = .malformed (byteLength a) fault) ∨ e.Unplaced ∨
      ∃ name t as maker, name.toList ++ '(' :: (t ++ [')']) <:+: text.toList ∧ Arguments t as ∧
        registry.find? name = some maker ∧ maker (passed as) = .error e := by
  by_cases hlength : byteLength text.toList ≤ Limits.maxSelectorLength
  · rw [compile_eq hlength] at h
    split at h
    · cases h
    · next stop hrun =>
      cases h
      cases justified_of_run hrun with
      | @fault ahead what hahead =>
        obtain ⟨a, ha⟩ := hahead
        refine .inl ⟨a, ahead, what, ha.symm, ?_⟩
        rw [Selector.Stop.toError, ← ha, byteLength_append, Nat.add_sub_cancel]
      | unplaced he => exact .inr (.inl he)
      | @resolve function t as _ hcall ht he =>
        rcases exists_maker_of_resolve he with he | ⟨maker, hfind, hmaker⟩
        · exact .inr (.inl he)
        · exact .inr (.inr ⟨function, t, as, maker, hcall, ht, hfind, hmaker⟩)
  · unfold compile Limits.checkSelector at h
    dsimp only at h
    rw [if_neg hlength] at h
    cases h
    exact .inr (.inl ⟨rfl, nofun⟩)

end Registry

/-- Whether a maker fails only with errors of selectors that have no position. -/
def Maker.FailsUnplaced (maker : Maker) : Prop :=
  ∀ args e, maker args = .error e → e.Unplaced

def Registry.FailsUnplaced (registry : Registry) : Prop :=
  ∀ entry ∈ registry.entries, Maker.FailsUnplaced entry.2

namespace Args

variable {args : Args} {function : String} {keys : List String} {e : Error}

theorem unplaced_of_require (h : args.require function keys = .error e) : e.Unplaced := by
  unfold require at h
  split at h
  · cases h
  · cases h
    exact ⟨rfl, nofun⟩

theorem unplaced_of_requirePattern (h : args.requirePattern function keys = .error e) :
    e.Unplaced := by
  rcases bind_eq_error_iff.1 h with harg | ⟨arg, -, h⟩
  · exact unplaced_of_require harg
  · split at h
    · exact Regex.unplaced_of_anchored h
    · exact Regex.unplaced_of_literal h

theorem unplaced_of_requireNatural (h : args.requireNatural function keys = .error e) :
    e.Unplaced := by
  rcases bind_eq_error_iff.1 h with harg | ⟨arg, -, h⟩
  · exact unplaced_of_require harg
  · split at h
    · cases h
    · cases h
      exact ⟨rfl, nofun⟩

theorem unplaced_of_expectNone (h : args.expectNone function = .error e) : e.Unplaced := by
  unfold expectNone at h
  split at h
  · cases h
  · cases h
    exact ⟨rfl, nofun⟩

end Args

theorem Maker.failsUnplaced_of_bind {α : Type} {read : Args → Except Error α}
    {accepts : α → Predicate} (h : ∀ args e, read args = .error e → e.Unplaced) :
    Maker.FailsUnplaced fun args => read args >>= fun a => pure (accepts a) := by
  intro args e he
  rcases bind_eq_error_iff.1 he with hread | ⟨a, -, hmade⟩
  · exact h args e hread
  · cases hmade

namespace Registry

variable {registry : Registry} {name : String}

theorem failsUnplaced_empty : empty.FailsUnplaced := nofun

theorem FailsUnplaced.register (hr : registry.FailsUnplaced) {maker : Maker}
    (hm : maker.FailsUnplaced) : (registry.register name maker).FailsUnplaced :=
  forall_register hr hm

theorem FailsUnplaced.registerPredicate (hr : registry.FailsUnplaced) {accepts : Predicate} :
    (registry.registerPredicate name accepts).FailsUnplaced :=
  hr.register (Maker.failsUnplaced_of_bind fun _ _ => Args.unplaced_of_expectNone)

end Registry

namespace Builtin

theorem failsUnplaced_registry : registry.FailsUnplaced := by
  have hattribute : ∀ key, (attributeMatches key).FailsUnplaced :=
    fun key => Maker.failsUnplaced_of_bind fun _ _ => Args.unplaced_of_requirePattern
  have hnamespace : ∀ function, (namespaceMatches function).FailsUnplaced :=
    fun function => Maker.failsUnplaced_of_bind fun _ _ => Args.unplaced_of_requirePattern
  have hdepth : depthEquals.FailsUnplaced :=
    Maker.failsUnplaced_of_bind fun _ _ => Args.unplaced_of_requireNatural
  have hchild : hasChildNamed.FailsUnplaced :=
    Maker.failsUnplaced_of_bind fun _ _ => Args.unplaced_of_requirePattern
  exact Registry.failsUnplaced_empty
    |>.register (hattribute "type")
    |>.register (hattribute "value")
    |>.register (hnamespace "namespace")
    |>.register (hnamespace "ns")
    |>.register hdepth
    |>.register hchild
    |>.registerPredicate
    |>.registerPredicate
    |>.registerPredicate
    |>.registerPredicate
    |>.registerPredicate
    |>.registerPredicate

/-- A position that is named in a selector of built-in functions stands between two characters. -/
theorem isValid_of_compile {text : String} {position : Nat} {fault : SelectorFault}
    (h : registry.compile text = .error (.malformed position fault)) :
    (⟨position⟩ : String.Pos.Raw).IsValid text := by
  rcases Registry.error_cases h with
    ⟨a, b, _, htext, he⟩ | hplain | ⟨_, _, as, _, -, -, hfind, hmaker⟩
  · cases he
    exact isValid_of_eq_append htext
  · exact absurd rfl (hplain.2 position fault)
  · have he := Registry.forall_find? failsUnplaced_registry hfind (passed as) _ hmaker
    exact absurd rfl (he.2 position fault)

end Builtin

/-- Compiling is safe on every text. The compiler on byte positions ends like the compiler within as
many rounds as the text has bytes and two more, so it never slices out of the text or through a
character, and never breaks an assumption about what it makes. What is compiled has a stage at least
and a filter in each stage, in its blocks on every level, which are at most sixteen. What is refused
is refused with an error of selectors, if the makers keep to those; and a position that is named is
a position of the text, between two characters, unless it is the maker of a function that has named
it, at the arguments of a call in the text. -/
theorem Registry.compile_safe (registry : Registry) (text : String)
    (hmakers : ∀ name maker, registry.find? name = some maker →
      ∀ args e, maker args = .error e → e.isCompileError) :
    (∀ rounds, byteLength text.toList + 2 ≤ rounds →
      Cursor.compile registry rounds text = (registry.compile text).mapError .error) ∧
    (∀ p, registry.compile text = .ok p → p.depth ≤ 16 ∧
      ∀ q : Pattern, q.Within p → q.stages ≠ [] ∧ (∀ stage ∈ q.stages, stage.filters ≠ []) ∧
        ∃ relation, q.firstRelation? = some relation) ∧
    (∀ e, registry.compile text = .error e → e.isCompileError ∧
      ∀ position fault, e = .malformed position fault →
        position ≤ text.utf8ByteSize ∧ (⟨position⟩ : String.Pos.Raw).IsValid text ∨
        ∃ name t as maker, name.toList ++ '(' :: (t ++ [')']) <:+: text.toList ∧
          Arguments t as ∧ registry.find? name = some maker ∧ maker (passed as) = .error e) := by
  refine ⟨fun rounds => Cursor.compile_eq_mapError registry text, fun p hp => ?_, fun e he => ?_⟩
  · have hselector := (isSelector_of_compile hp).2.2
    refine ⟨Pattern.depth_le_of_isSelector hselector, fun q hq => ?_⟩
    obtain ⟨_, _, _, hinner⟩ := hq.isSelector hselector
    have hfilled := hinner.filled
    obtain ⟨stage, rest, hstages⟩ := List.exists_cons_of_ne_nil hfilled.ne_nil
    exact ⟨hfilled.ne_nil, hfilled.filters_ne_nil, stage.relation, by
      rw [Pattern.firstRelation?, hstages]; rfl⟩
  · rcases error_cases he with
      ⟨a, b, fault, htext, rfl⟩ | hplain | ⟨name, t, as, maker, hcall, ht, hfind, hmaker⟩
    · refine ⟨rfl, fun position _ heq => .inl ?_⟩
      cases heq
      have hvalid := isValid_of_eq_append htext
      exact ⟨hvalid.le_utf8ByteSize, hvalid⟩
    · exact ⟨hplain.1, fun position fault heq => absurd heq (hplain.2 position fault)⟩
    · exact ⟨hmakers name maker hfind (passed as) e hmaker, fun _ _ _ =>
        .inr ⟨name, t, as, maker, hcall, ht, hfind, hmaker⟩⟩

private def misplaced : Registry :=
  Registry.empty.register "f" fun _ => .error (.malformed 99 .missingArgument)

/-- The error of a maker is passed on as it is, with a position that the text does not have. -/
theorem Registry.compile_misplaced :
    (∀ name maker, misplaced.find? name = some maker →
      ∀ args e, maker args = .error e → e.isCompileError) ∧
    misplaced.compile "f()" = .error (.malformed 99 .missingArgument) ∧
    ¬ 99 ≤ "f()".utf8ByteSize := by
  refine ⟨fun name maker hfind => ?_, by with_unfolding_all rfl, by decide⟩
  refine forall_find? (P := fun maker => ∀ args e, maker args = .error e → e.isCompileError)
    (fun entry hentry args e he => ?_) hfind
  rw [List.mem_singleton.1 hentry] at he
  cases he
  rfl

/-- A selector of built-in functions that breaks off inside of a block, at a letter of two bytes behind
a blank of two bytes. -/
theorem Registry.compile_safe_block :
    Builtin.registry.find? "depth" = some Builtin.depthEquals ∧
    Builtin.depthEquals .empty = .error (.invalidArgument "depth" (.missing ["0", "depth"])) ∧
    (∀ name maker, Builtin.registry.find? name = some maker →
      ∀ args e, maker args = .error e → e.isCompileError) ∧
    Builtin.registry.compile "\u00a0*\x7b\u00e9" = .error (.malformed 4 (.unexpected 'é')) ∧
    (⟨4⟩ : String.Pos.Raw).IsValid "\u00a0*\x7b\u00e9" := by
  have hmakers : ∀ name maker, Builtin.registry.find? name = some maker → maker.FailsUnplaced :=
    fun _ _ => Registry.forall_find? Builtin.failsUnplaced_registry
  have hsafe := Registry.compile_safe Builtin.registry "\u00a0*\x7b\u00e9"
    fun name maker hfind args e he => (hmakers name maker hfind args e he).1
  have hcompile : Builtin.registry.compile "\u00a0*\x7b\u00e9" =
      .error (.malformed 4 (.unexpected 'é')) := by
    have hrun := hsafe.1 8 (by decide)
    have hcursor : Cursor.compile Builtin.registry 8 "\u00a0*\x7b\u00e9" =
      .error (.error (.malformed 4 (.unexpected 'é'))) := rfl
    rw [hcursor] at hrun
    cases hend : Builtin.registry.compile "\u00a0*\x7b\u00e9" with
    | ok p => rw [hend] at hrun; cases hrun
    | error e => rw [hend] at hrun; cases hrun; rfl
  refine ⟨rfl, rfl, fun name maker hfind args e he => (hmakers name maker hfind args e he).1,
    hcompile, ?_⟩
  rcases (hsafe.2.2 _ hcompile).2 4 _ rfl with hvalid | ⟨name, _, as, maker, -, -, hfind, hmaker⟩
  · exact hvalid.2
  · exact absurd rfl ((hmakers name maker hfind (passed as) _ hmaker).2 4 _)

end GraphSelect
