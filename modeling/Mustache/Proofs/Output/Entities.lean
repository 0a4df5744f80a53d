import Mathlib.Data.List.Infix
import Mustache.Escape

namespace Mustache.Proofs.Output

structure Piecewise (P : Bytes → Prop) : Prop where
  nil : P []
  append : ∀ {left right : Bytes}, P left → P right → P (left ++ right)

def delimiters : Bytes := [0x3c, 0x3e, 0x22, 0x27]

def ampersand : UInt8 := 0x26

def entities : List Bytes := ["&amp;", "&lt;", "&gt;", "&#34;", "&#39;"].map Bytes.ofText

def Ampersands (text : Bytes) : Prop :=
  ∀ before behind, text = before ++ ampersand :: behind →
    ∃ entity ∈ entities, entity <+: ampersand :: behind

theorem piecewise_not_mem (b : UInt8) : Piecewise (b ∉ ·) := by
  refine ⟨List.not_mem_nil, ?_⟩
  intro left right first second member
  rcases List.mem_append.mp member with here | there
  · exact first here
  · exact second there

theorem piecewise_ampersands : Piecewise Ampersands := by
  constructor
  · intro before behind same
    simp at same
  · intro left right first second before behind same
    rcases List.append_eq_append_iff.mp same with ⟨between, -, there⟩ | ⟨between, here, rest⟩
    · exact second between behind there
    · cases between with
      | nil => exact second [] behind rest.symm
      | cons b between =>
        obtain ⟨rfl, rfl⟩ := List.cons.inj rest
        obtain ⟨entity, known, stands⟩ := first before between here
        exact ⟨entity, known, stands.trans (List.prefix_append (_ :: between) right)⟩

theorem ampersands_of_not_mem {text : Bytes} (absent : ampersand ∉ text) : Ampersands text := by
  rintro before behind rfl
  exact absurd (List.mem_append_right _ List.mem_cons_self) absent

theorem mem_entities {b : UInt8} {entity : Bytes} (stands : entity? b = some entity) :
    entity ∈ entities := by
  unfold entity? at stands
  repeat' split at stands
  all_goals cases stands
  all_goals decide

theorem ampersands_of_mem {entity : Bytes} (known : entity ∈ entities) : Ampersands entity := by
  have shape : ∀ entity ∈ entities, ampersand ∉ entity.tail := by decide
  intro before behind same
  cases before with
  | nil => exact ⟨entity, known, by rw [same]; exact List.prefix_refl _⟩
  | cons b before =>
    refine absurd ?_ (shape entity known)
    rw [same]
    exact List.mem_append_right _ List.mem_cons_self

theorem delimiter_not_mem {entity : Bytes} (known : entity ∈ entities) {b : UInt8}
    (delimits : b ∈ delimiters) : b ∉ entity := by
  have shape : ∀ entity ∈ entities, ∀ b ∈ delimiters, b ∉ entity := by decide +kernel
  exact shape entity known b delimits

theorem entity_of_reserved {b : UInt8} (reserved : b ∈ ampersand :: delimiters) :
    (entity? b).isSome = true := by
  have shape : ∀ b ∈ ampersand :: delimiters, (entity? b).isSome = true := by
    simp [ampersand, delimiters, entity?]
  exact shape b reserved

theorem escape_piecewise {P : Bytes → Prop} (piecewise : Piecewise P)
    (entity : ∀ entity ∈ entities, P entity) (other : ∀ b, b ∉ ampersand :: delimiters → P [b])
    (text : Bytes) : P (escape text) := by
  induction text with
  | nil => exact piecewise.nil
  | cons b text ih =>
    rw [escape_cons]
    refine piecewise.append ?_ ih
    cases stands : entity? b with
    | none =>
      rw [escapeByte, stands]
      apply other
      intro reserved
      have known := entity_of_reserved reserved
      rw [stands] at known
      cases known
    | some name =>
      rw [escapeByte, stands]
      exact entity name (mem_entities stands)

theorem not_mem_escape {b : UInt8} (delimits : b ∈ delimiters) (text : Bytes) :
    b ∉ escape text := by
  refine escape_piecewise (piecewise_not_mem b) ?_ ?_ text
  · intro entity known
    exact delimiter_not_mem known delimits
  · intro other plain member
    rw [List.mem_singleton] at member
    subst member
    exact plain (List.mem_cons_of_mem _ delimits)

theorem ampersands_escape (text : Bytes) : Ampersands (escape text) := by
  refine escape_piecewise piecewise_ampersands (fun entity => ampersands_of_mem) ?_ text
  intro b plain
  apply ampersands_of_not_mem
  intro member
  rw [List.mem_singleton] at member
  subst member
  exact plain List.mem_cons_self

end Mustache.Proofs.Output
