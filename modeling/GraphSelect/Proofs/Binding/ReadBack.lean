import GraphSelect.Binding.Reader
import GraphSelect.Proofs.Document.Given
import GraphSelect.Proofs.Json.Integer

/-!
# Scalars of documents as bound values

A document's scalars are kept as texts, and what a text means is settled again when it is bound. The
text of a truth value or of an integer is JSON for it and no text for its target, so it is read
from there; an integer fits the integer types that have it in their range. A text is taken as it
stands wherever the target is a text or may be one, whatever it would be as JSON.
-/
namespace GraphSelect

namespace ValueReader

variable {target : Target} {raw : String} {data : Data} {value : Value} {reason : Mismatch}

/-- The text as it stands comes first, and then the text as JSON. -/
theorem readAs_json (target : Target) (raw : String) :
    json.readAs target raw =
      match target.convert (.text raw) with
      | .ok value => .ok value
      | .error _ => (target.convert ((Json.read? raw).getD (.text raw))).mapError
          fun reason => ⟨raw, target, reason⟩ :=
  rfl

theorem readAs_of_text (h : target.convert (.text raw) = .ok value) :
    json.readAs target raw = .ok value := by
  rw [readAs_json, h]

theorem readAs_of_data (htext : target.convert (.text raw) = .error reason)
    (hread : Json.read? raw = some data) :
    json.readAs target raw = (target.convert data).mapError fun reason => ⟨raw, target, reason⟩ := by
  rw [readAs_json, htext, hread, Option.getD_some]

end ValueReader

namespace Scalar

open ValueReader

variable {i : Int} {w : Width} {value : Value}

theorem read?_render_bool (b : Bool) : Json.read? (render (.bool b)) = some (.bool b) := by
  cases b <;> rfl

theorem readAs_render_bool (b : Bool) :
    json.readAs .bool (render (.bool b)) = .ok (.bool b) :=
  readAs_of_data rfl (read?_render_bool b)

theorem isWord_iff : Text.isWord i ↔ Width.int64.contains i := by
  have hbound : ((Text.signedBound : Nat) : Int) = Width.int64.max + 1 := rfl
  have hmin : Width.int64.min = -(Width.int64.max + 1) := rfl
  simp only [Text.isWord, Width.contains, Bool.and_eq_true, decide_eq_true_eq, hbound, hmin]
  omega

theorem readAs_render_int (hi : Width.int64.contains i) (w : Width) :
    json.readAs (.integer w) (render (.int i)) =
      ((Target.integer w).convert (.int i)).mapError fun reason =>
        ⟨render (.int i), .integer w, reason⟩ :=
  readAs_of_data rfl (Json.read?_toString (isWord_iff.2 hi))

theorem readAs_render_int_eq_ok_iff (hi : Width.int64.contains i) :
    json.readAs (.integer w) (render (.int i)) = .ok value ↔ w.contains i ∧ value = .int i := by
  rw [readAs_render_int hi, Target.convert]
  split
  · next hw => simp [Except.mapError, hw, eq_comm]
  · next hw => simp [Except.mapError, hw]

theorem readAs_render_text (s : String) :
    json.readAs .text (render (.text s)) = .ok (.text s) :=
  readAs_of_text rfl

theorem readAs_optional_render_text (s : String) :
    json.readAs (.optional .text) (render (.text s)) = .ok (.some (.text s)) :=
  readAs_of_text rfl

end Scalar

open ValueReader

/-- The text that the graph of a document keeps for an attribute is read back as the value that the
document gives to it: a truth value or an integer of 64 bits as itself, and a text as itself and as
an optional text, whatever it looks like. As an integer of any type the text of an integer is read
exactly when the type has it in its range, and as this integer then. -/
theorem Outline.readAs_given {o : Outline} {d : Document} {id : NodeId} {key : String}
    {attributes : List (String × Scalar)} {x : Scalar} {v : Data} (hbuild : o.build = .ok d)
    (hgiven : o.given[id]? = some attributes) (hlast : attributes.reverse.lookup key = some x)
    (hv : Scalar.ofData? v = some x) :
    ∃ raw, d.graph.value id key = some raw ∧
      (∀ b, v = .bool b → json.readAs .bool raw = .ok (.bool b)) ∧
      (∀ i, v = .int i → Width.int64.min ≤ i → i ≤ Width.int64.max →
        json.readAs (.integer .int64) raw = .ok (.int i) ∧
        ∀ w : Width, ((∃ y, json.readAs (.integer w) raw = .ok y) ↔ w.min ≤ i ∧ i ≤ w.max) ∧
          ∀ y, json.readAs (.integer w) raw = .ok y → y = .int i) ∧
      (∀ s, v = .text s → json.readAs .text raw = .ok (.text s) ∧
        json.readAs (.optional .text) raw = .ok (.some (.text s))) := by
  have hkept := value_of_given hbuild hgiven hlast
  refine ⟨x.render, hkept, ?_, ?_, ?_⟩
  · rintro b rfl
    cases hv
    exact Scalar.readAs_render_bool b
  · rintro i rfl hmin hmax
    have hi : Width.int64.contains i := by simp [Width.contains, hmin, hmax]
    obtain rfl : Scalar.int i = x := by
      rw [Scalar.ofData?, if_pos (Scalar.isWord_iff.2 hi)] at hv
      exact Option.some.inj hv
    refine ⟨(Scalar.readAs_render_int_eq_ok_iff hi).2 ⟨hi, rfl⟩, fun w => ⟨?_, fun y hy => ?_⟩⟩
    · simp [Scalar.readAs_render_int_eq_ok_iff hi, Width.contains]
    · exact ((Scalar.readAs_render_int_eq_ok_iff hi).1 hy).2
  · rintro s rfl
    cases hv
    exact ⟨Scalar.readAs_render_text s, Scalar.readAs_optional_render_text s⟩

/-- A text that reads `null` is not taken for an absent one, and a negative number is refused where
only a natural one can stand. -/
theorem Outline.readAs_given_null :
    ∃ d raw number,
      (Outline.tree (.node "a" [("n", .text "null"), ("i", .int (-5))] [] false)).build = .ok d ∧
      d.graph.value 0 "n" = some raw ∧ d.graph.value 0 "i" = some number ∧
      json.readAs (.optional .text) raw = .ok (.some (.text "null")) ∧
      json.readAs (.integer .int8) number = .ok (.int (-5)) ∧
      ¬ ∃ y, json.readAs (.integer .uint64) number = .ok y := by
  obtain ⟨d, hbuild⟩ : ∃ d, (Outline.tree
      (.node "a" [("n", .text "null"), ("i", .int (-5))] [] false)).build = .ok d := ⟨_, rfl⟩
  have hgiven : (Outline.tree
      (.node "a" [("n", .text "null"), ("i", .int (-5))] [] false)).given[0]? =
        some [("n", .text "null"), ("i", .int (-5))] := rfl
  have htext : List.lookup "n" [("i", Scalar.int (-5)), ("n", .text "null")] =
    some (.text "null") := rfl
  have hint : List.lookup "i" [("i", Scalar.int (-5)), ("n", .text "null")] =
    some (.int (-5)) := rfl
  obtain ⟨raw, hraw, -, -, htext⟩ := readAs_given (v := .text "null") hbuild hgiven htext rfl
  obtain ⟨number, hnumber, -, hint, -⟩ := readAs_given (v := .int (-5)) hbuild hgiven hint rfl
  obtain ⟨-, hwidth⟩ := hint (-5) rfl (by decide) (by decide)
  obtain ⟨y, hy⟩ := (hwidth .int8).1.2 (by decide)
  refine ⟨d, raw, number, hbuild, hraw, hnumber, (htext "null" rfl).2, ?_, fun h => ?_⟩
  · rw [hy, (hwidth .int8).2 y hy]
  · exact absurd ((hwidth .uint64).1.1 h) (by decide)

end GraphSelect
