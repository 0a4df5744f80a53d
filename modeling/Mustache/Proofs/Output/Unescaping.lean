import Mathlib.Logic.Function.Basic
import Mustache.Proofs.Output.Entities

namespace Mustache.Proofs.Output

theorem unescape_cons {b : UInt8} (other : b ≠ ampersand) (rest : Bytes) :
    unescape (b :: rest) = b :: unescape rest := by
  rw [unescape] <;> simp [show b ≠ 0x26 from other]

theorem unescape_entity {b : UInt8} {entity : Bytes} (stands : entity? b = some entity)
    (rest : Bytes) : unescape (entity ++ rest) = b :: unescape rest := by
  unfold entity? at stands
  repeat' split at stands
  all_goals cases stands
  all_goals simp_all [unescape]

theorem unescape_escapeByte (b : UInt8) (rest : Bytes) :
    unescape (escapeByte b ++ rest) = b :: unescape rest := by
  rw [escapeByte]
  cases stands : entity? b with
  | none =>
    have other : b ≠ ampersand := by
      rintro rfl
      cases stands
    exact unescape_cons other rest
  | some entity => exact unescape_entity stands rest

theorem unescape_escape (text : Bytes) : unescape (escape text) = text := by
  induction text with
  | nil => simp [escape_nil, unescape]
  | cons b text ih => rw [escape_cons, unescape_escapeByte, ih]

theorem escape_injective : Function.Injective escape :=
  Function.LeftInverse.injective unescape_escape

theorem entity_unique {entity entity' text : Bytes} (known : entity ∈ entities)
    (known' : entity' ∈ entities) (stands : entity <+: text) (stands' : entity' <+: text) :
    entity = entity' := by
  have apart : ∀ entity ∈ entities, ∀ entity' ∈ entities,
      entity <+: entity' → entity = entity' := by
    decide
  rcases List.prefix_or_prefix_of_prefix stands stands' with within | within
  · exact apart _ known _ known' within
  · exact (apart _ known' _ known within).symm

theorem ampersand_starts {text before behind : Bytes}
    (split : escape text = before ++ ampersand :: behind) :
    ∃! entity, entity ∈ entities ∧ entity <+: ampersand :: behind := by
  obtain ⟨entity, known, stands⟩ := ampersands_escape text before behind split
  refine ⟨entity, ⟨known, stands⟩, ?_⟩
  rintro entity' ⟨known', stands'⟩
  exact entity_unique known' known stands' stands

theorem isReserved_iff {b : UInt8} : isReserved b = true ↔ b ∈ ampersand :: delimiters := by
  constructor
  · intro reserved
    unfold isReserved entity? at reserved
    repeat' split at reserved
    all_goals simp_all [ampersand, delimiters]
  · exact entity_of_reserved

theorem isPlain_iff {text : Bytes} :
    isPlain text = true ↔ ∀ b ∈ ampersand :: delimiters, b ∉ text := by
  simp only [isPlain, Bool.not_eq_true', List.any_eq_false, isReserved_iff]
  constructor
  · intro plain b reserved member
    exact plain b member reserved
  · intro absent b member reserved
    exact absent b reserved member

theorem length_escapeByte (b : UInt8) : 0 < (escapeByte b).length := by
  cases stands : entity? b with
  | none => simp [escapeByte, stands]
  | some entity =>
    have filled : ∀ entity ∈ entities, 0 < entity.length := by decide
    simpa [escapeByte, stands] using filled entity (mem_entities stands)

theorem length_escapeByte_of_reserved {b : UInt8} (reserved : isReserved b = true) :
    1 < (escapeByte b).length := by
  obtain ⟨entity, stands⟩ := Option.isSome_iff_exists.mp reserved
  have longer : ∀ entity ∈ entities, 1 < entity.length := by decide
  simpa [escapeByte, stands] using longer entity (mem_entities stands)

theorem length_le_escape (text : Bytes) : text.length ≤ (escape text).length := by
  induction text with
  | nil => exact Nat.le_refl 0
  | cons b text ih =>
    have := length_escapeByte b
    rw [escape_cons, List.length_append, List.length_cons]
    omega

theorem escape_eq_self_iff {text : Bytes} : escape text = text ↔ isPlain text = true := by
  refine ⟨?_, escape_eq_self⟩
  intro same
  induction text with
  | nil => rfl
  | cons b text ih =>
    rw [escape_cons] at same
    cases reserved : isReserved b with
    | false =>
      rw [escapeByte_eq_self reserved] at same
      simp [isPlain_cons, reserved, ih (List.cons.inj same).2]
    | true =>
      -- An entity takes more room than the byte it stands for, and nothing makes up for that.
      have longer := length_escapeByte_of_reserved reserved
      have others := length_le_escape text
      have lengths := congrArg List.length same
      rw [List.length_append, List.length_cons] at lengths
      omega

/-- Escaping works piece by piece, leaves no delimiter and no ampersand but those that start
entities, and is undone by reading the entities back. New text is made exactly where there is a
reserved byte, which is where escaping changes the text. -/
theorem escape_lossless (left right : Bytes) :
    escape (left ++ right) = escape left ++ escape right ∧
    (∀ b ∈ delimiters, b ∉ escape left) ∧
    (∀ before behind, escape left = before ++ ampersand :: behind →
      ∃! entity, entity ∈ entities ∧ entity <+: ampersand :: behind) ∧
    unescape (escape left) = left ∧ Function.Injective escape ∧
    (escaped? left).getD left = escape left ∧ isPlain left = (escaped? left).isNone ∧
    (escaped? left = none ↔ ∀ b ∈ ampersand :: delimiters, b ∉ left) ∧
    (escaped? left = none ↔ escape left = left) := by
  have made := escaped?_eq_none_iff left
  refine ⟨escape_append left right, fun b delimits => not_mem_escape delimits left,
    fun before behind => ampersand_starts, unescape_escape left, escape_injective,
    escaped?_getD left, ?_, made.trans isPlain_iff, made.trans escape_eq_self_iff.symm⟩
  apply Bool.eq_iff_iff.mpr
  rw [Option.isNone_iff_eq_none, made]

end Mustache.Proofs.Output
