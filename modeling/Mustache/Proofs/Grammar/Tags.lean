import Mathlib.Data.List.Infix
import Mustache.Proofs.Grammar.Reading
import Mustache.Template.Printer

namespace Mustache.Proofs.Grammar
open Cursor

theorem marker_eq_some_iff {c after : Cursor} {b : UInt8} :
    c.marker? = some (b, after) ↔
      ∃ before, Blanks before ∧ isBlank b = false ∧ Consumes c (before ++ [b]) after := by
  constructor
  · intro found
    obtain ⟨before, blanks, skipped, stops⟩ :=
      skipWhile_eq_iff.mp (rfl : c.skipWhile isBlank = _)
    unfold marker? at found
    split at found
    · cases found
    · next offset b' rest place =>
      cases found
      rw [place] at skipped stops
      exact ⟨before, blanks, stops _ rfl, skipped.append ⟨rfl, rfl⟩⟩
  · intro ⟨before, blanks, other, read⟩
    obtain ⟨d, skipped, mark⟩ := read.split
    have place : c.skipWhile isBlank = d := by
      refine skipWhile_eq_iff.mpr ⟨before, blanks, skipped, ?_⟩
      rw [mark.rest]
      rintro b ⟨⟩
      exact other
    obtain ⟨offset, rest⟩ := d
    obtain ⟨offset', rest'⟩ := after
    have split : rest = b :: rest' := mark.rest
    have next : offset' = offset + 1 := mark.offset
    simp only [marker?, place, split, next]

theorem marker_of_blanks {c after : Cursor} {before form : Bytes} {mark : UInt8}
    (blanks : Blanks before) (visible : isBlank mark = false)
    (read : Consumes c (before ++ mark :: form) after) :
    ∃ behind, c.marker? = some (mark, behind) ∧ Consumes behind form after := by
  rw [List.append_cons] at read
  obtain ⟨behind, marked, rest⟩ := read.split
  exact ⟨behind, marker_eq_some_iff.mpr ⟨before, blanks, visible, marked⟩, rest⟩

theorem marker_of_padded {first later : UInt8 → Bool} (classes : NameClass first later)
    {c after : Cursor} {name inner form : Bytes} (padded : Padded first later name inner)
    (read : Consumes c (inner ++ form) after) :
    ∃ b behind, first b = true ∧ c.marker? = some (b, behind) ∧
      ∃ others, (∀ b ∈ others, later b = true ∨ isBlank b = true) ∧
        Consumes behind (others ++ form) after := by
  obtain @⟨before, behind, blanks, isName, blanks'⟩ := padded
  obtain _ | ⟨b, others⟩ := name
  · exact isName.elim
  obtain ⟨starts, goesOn⟩ := isName
  have visible : isBlank b = false := by
    by_contra blank
    rw [classes.first_not_blank b (eq_true_of_ne_false blank)] at starts
    cases starts
  rw [List.append_assoc, List.append_assoc, List.cons_append] at read
  obtain ⟨place, marked, rest⟩ := marker_of_blanks blanks visible read
  refine ⟨b, place, starts, marked, others ++ behind, ?_, ?_⟩
  · intro b member
    rcases List.mem_append.mp member with name | blank
    · exact .inl (goesOn b name)
    · exact .inr (blanks' b blank)
  · rwa [List.append_assoc]

theorem tag_named_ok_iff {make : String → Tag} {first later : UInt8 → Bool} {braces : Nat}
    {c after : Cursor} {tag : Tag} :
    Tag.named make first later braces c = .ok (tag, after) ↔
      ∃ text, c.named first later braces = .ok (text, after) ∧ tag = make text := by
  unfold Tag.named
  cases c.named first later braces with
  | error stop => simp [Except.map]
  | ok result =>
    obtain ⟨text, behind⟩ := result
    simp only [Except.map, Except.ok.injEq, Prod.mk.injEq]
    constructor
    · rintro ⟨rfl, rfl⟩
      exact ⟨text, ⟨rfl, rfl⟩, rfl⟩
    · rintro ⟨_, ⟨rfl, rfl⟩, rfl⟩
      exact ⟨rfl, rfl⟩

theorem marked_form {make : String → Tag} {first later : UInt8 → Bool} {braces : Nat}
    {c behind after : Cursor} {mark : UInt8} {tag : Tag} (marked : c.marker? = some (mark, behind))
    (read : Tag.named make first later braces behind = .ok (tag, after)) :
    ∃ before name inner, Blanks before ∧ Padded first later name inner ∧
      tag = make (nameText name) ∧
      Consumes c (before ++ mark :: (inner ++ closeTag braces)) after := by
  obtain ⟨text, named, rfl⟩ := tag_named_ok_iff.mp read
  obtain ⟨before, blanks, -, place⟩ := marker_eq_some_iff.mp marked
  obtain ⟨name, inner, padded, rfl, rest⟩ := padded_of_named named
  refine ⟨before, name, inner, blanks, padded, rfl, ?_⟩
  rw [List.append_cons]
  exact place.append rest

theorem form_of_read {c after : Cursor} {tag : Tag} (read : Tag.read c = .ok (tag, after))
    (opens : tag ≠ .closing) : ∃ form, TagForm tag form ∧ Consumes c form after := by
  unfold Tag.read at read
  split at read
  · cases read
  next mark behind marked =>
  split at read
  · next isMark =>
    obtain ⟨before, name, inner, blanks, padded, rfl, place⟩ := marked_form marked read
    subst isMark
    exact ⟨_, .raw blanks padded, place⟩
  split at read
  · next isMark =>
    obtain ⟨before, name, inner, blanks, padded, rfl, place⟩ := marked_form marked read
    subst isMark
    exact ⟨_, .opening blanks padded, place⟩
  split at read
  · next isMark =>
    obtain ⟨before, name, inner, blanks, padded, rfl, place⟩ := marked_form marked read
    subst isMark
    exact ⟨_, .opening blanks padded, place⟩
  split at read
  · next isMark =>
    obtain ⟨before, name, inner, blanks, padded, rfl, place⟩ := marked_form marked read
    subst isMark
    exact ⟨_, .inclusion blanks padded, place⟩
  split at read
  · cases read
    exact absurd rfl opens
  · obtain ⟨text, named, rfl⟩ := tag_named_ok_iff.mp read
    obtain ⟨name, inner, padded, rfl, place⟩ := padded_of_named named
    exact ⟨_, .value padded, place⟩

theorem read_of_form {c after : Cursor} {tag : Tag} {form : Bytes} (spelled : TagForm tag form)
    (place : Consumes c form after) : Tag.read c = .ok (tag, after) := by
  cases spelled with
  | value padded =>
    obtain ⟨b, behind, starts, marked, -⟩ := marker_of_padded nameClass_key padded place
    have other (mark : UInt8) (reserved : isKeyStart mark = false) : b ≠ mark := by
      rintro rfl
      rw [reserved] at starts
      cases starts
    simp only [Tag.read, marked]
    rw [if_neg (other openBrace rfl), if_neg (other hashMark rfl), if_neg (other caretMark rfl),
      if_neg (other angleMark rfl), if_neg (other slashMark rfl)]
    exact tag_named_ok_iff.mpr ⟨_, named_of_padded nameClass_key padded place, rfl⟩
  | raw blanks padded =>
    obtain ⟨behind, marked, rest⟩ := marker_of_blanks blanks rfl place
    rw [Tag.read, marked]
    change Tag.named (.value · false) isKeyStart isKeyByte 3 behind = _
    exact tag_named_ok_iff.mpr ⟨_, named_of_padded nameClass_key padded rest, rfl⟩
  | @opening polarity before key inner blanks padded =>
    cases polarity with
    | positive =>
      obtain ⟨behind, marked, rest⟩ := marker_of_blanks blanks rfl place
      rw [Tag.read, marked]
      change Tag.named (.opening .positive) isKeyStart isKeyByte 2 behind = _
      exact tag_named_ok_iff.mpr ⟨_, named_of_padded nameClass_key padded rest, rfl⟩
    | inverted =>
      obtain ⟨behind, marked, rest⟩ := marker_of_blanks blanks rfl place
      rw [Tag.read, marked]
      change Tag.named (.opening .inverted) isKeyStart isKeyByte 2 behind = _
      exact tag_named_ok_iff.mpr ⟨_, named_of_padded nameClass_key padded rest, rfl⟩
  | inclusion blanks padded =>
    obtain ⟨behind, marked, rest⟩ := marker_of_blanks blanks rfl place
    rw [Tag.read, marked]
    change Tag.named .inclusion isPathByte isPathByte 2 behind = _
    exact tag_named_ok_iff.mpr ⟨_, named_of_padded nameClass_path padded rest, rfl⟩

theorem Padded.bare {first later : UInt8 → Bool} {name inner : Bytes}
    (padded : Padded first later name inner) (starts : ∀ {b}, first b = true → isPathByte b = true)
    (goesOn : ∀ {b}, later b = true → isPathByte b = true) :
    Padded first later name (Bytes.ofText (nameText name)) := by
  obtain ⟨-, isName, -⟩ := padded
  have text : Bytes.ofText (nameText name) = name := by
    cases name with
    | nil => exact isName.elim
    | cons b others =>
      apply ofText_nameText
      intro c member
      rcases List.mem_cons.mp member with rfl | later
      · exact isPathByte_ascii (starts isName.1)
      · exact isPathByte_ascii (goesOn (isName.2 c later))
  have none : Blanks [] := nofun
  have bare := Padded.mk none isName none
  rw [text]
  rwa [List.nil_append, List.append_nil] at bare

def canonicalTag : Tag → Bytes
  | .value key escaped => valueSource key escaped
  | .opening polarity key => openingSource polarity key
  | .inclusion path => inclusionSource path
  | .closing => openTag ++ [slashMark]

theorem TagForm.bare {tag : Tag} {form : Bytes} (spelled : TagForm tag form) :
    ∃ bare, canonicalTag tag = openTag ++ bare ∧ TagForm tag bare := by
  have none : Blanks [] := nofun
  cases spelled with
  | value padded =>
    refine ⟨_, ?_, .value (padded.bare isPathByte_of_isKeyStart isPathByte_of_isKeyByte)⟩
    rfl
  | raw blanks padded =>
    refine ⟨_, ?_, .raw none (padded.bare isPathByte_of_isKeyStart isPathByte_of_isKeyByte)⟩
    simp [canonicalTag, valueSource, tagSource, openTag, closeTag]
  | opening blanks padded =>
    refine ⟨_, ?_, .opening none (padded.bare isPathByte_of_isKeyStart isPathByte_of_isKeyByte)⟩
    rfl
  | inclusion blanks padded =>
    refine ⟨_, ?_, .inclusion none (padded.bare id id)⟩
    rfl

theorem ClosingForm.bare {key : String} {form : Bytes} (closes : ClosingForm key form) :
    ∃ bare, closingSource key = openTag ++ bare ∧ ClosingForm key bare := by
  have none : Blanks [] := nofun
  obtain ⟨-, padded⟩ := closes
  exact ⟨_, rfl, .mk none (padded.bare isPathByte_of_isKeyByte isPathByte_of_isKeyByte)⟩

/-! ## Text -/

theorem plain_nil : Plain [] := by
  intro inside
  cases List.infix_nil.mp inside

theorem endsApart_nil : EndsApart [] := by
  intro last
  cases last

theorem plain_cons_iff {b : UInt8} {rest : Bytes} :
    Plain (b :: rest) ↔ ¬ (b = openBrace ∧ rest.head? = some openBrace) ∧ Plain rest := by
  have starts : openTag <+: b :: rest ↔ b = openBrace ∧ rest.head? = some openBrace := by
    rw [openTag, List.cons_prefix_cons, eq_comm]
    cases rest with
    | nil => simp
    | cons b' rest => simp [List.cons_prefix_cons, eq_comm]
  rw [Plain, List.infix_cons_iff, not_or, starts, Plain]

theorem endsApart_cons {b b' : UInt8} {rest : Bytes} :
    EndsApart (b :: b' :: rest) ↔ EndsApart (b' :: rest) := by
  rw [EndsApart, EndsApart, List.getLast?_cons_cons]

theorem seekFrom_cases (offset : Nat) (bytes : Bytes) :
    (Plain bytes ∧ seekFrom offset bytes = ⟨offset + bytes.length, []⟩) ∨
      ∃ text rest, Plain text ∧ EndsApart text ∧ bytes = text ++ (openTag ++ rest) ∧
        seekFrom offset bytes = ⟨offset + text.length, openTag ++ rest⟩ := by
  fun_induction seekFrom offset bytes with
  | case1 offset b b' rest braces =>
    obtain ⟨rfl, rfl⟩ := braces
    exact .inr ⟨[], rest, plain_nil, endsApart_nil, rfl, rfl⟩
  | case2 offset b b' rest braces ih =>
    rcases ih with ⟨plain, place⟩ | ⟨text, later, plain, apart, split, place⟩
    · refine .inl ⟨plain_cons_iff.mpr ⟨?_, plain⟩, ?_⟩
      · simpa using braces
      · rw [place, Nat.add_right_comm]
        rfl
    · refine .inr ⟨b :: text, later, plain_cons_iff.mpr ⟨?_, plain⟩, ?_, ?_, ?_⟩
      · rintro ⟨brace, brace'⟩
        cases text with
        | nil => cases brace'
        | cons b'' text =>
          obtain ⟨rfl, -⟩ := List.cons.inj split
          exact braces ⟨brace, Option.some.inj brace'⟩
      · cases text with
        | nil =>
          obtain ⟨rfl, -⟩ := List.cons.inj split
          intro last
          exact braces ⟨Option.some.inj last, rfl⟩
        | cons b'' text => exact endsApart_cons.mpr apart
      · rw [split, List.cons_append]
      · rw [place, Nat.add_right_comm]
        rfl
  | case3 offset rest short =>
    refine .inl ⟨?_, rfl⟩
    cases rest with
    | nil => exact plain_nil
    | cons b rest =>
      cases rest with
      | nil => exact plain_cons_iff.mpr ⟨by simp, plain_nil⟩
      | cons b' rest => exact absurd rfl (short b b' rest)

theorem seekFrom_text {text rest : Bytes} (plain : Plain text)
    (apart : EndsApart text ∨ rest.head? ≠ some openBrace) (offset : Nat) :
    seekFrom offset (text ++ rest) = seekFrom (offset + text.length) rest := by
  induction text generalizing offset with
  | nil => rfl
  | cons b text ih =>
    obtain ⟨lone, plain⟩ := plain_cons_iff.mp plain
    cases text with
    | nil =>
      cases rest with
      | nil => rfl
      | cons b' rest =>
        have braces : ¬ (b = openBrace ∧ b' = openBrace) := by
          rintro ⟨rfl, rfl⟩
          rcases apart with apart | apart
          · exact apart rfl
          · exact apart rfl
        rw [List.cons_append, List.nil_append, seekFrom, if_neg braces]
        rfl
    | cons b' text =>
      have braces : ¬ (b = openBrace ∧ b' = openBrace) := by simpa using lone
      rw [List.cons_append, List.cons_append, seekFrom, if_neg braces, ← List.cons_append,
        ih plain (apart.imp_left endsApart_cons.mp), Nat.add_right_comm]
      rfl

theorem seekFrom_openTag (offset : Nat) (rest : Bytes) :
    seekFrom offset (openTag ++ rest) = ⟨offset, openTag ++ rest⟩ := by
  rw [openTag, List.cons_append, List.cons_append, List.nil_append, seekFrom, if_pos ⟨rfl, rfl⟩]

theorem not_plain_openTag (text rest : Bytes) : ¬ Plain (text ++ (openTag ++ rest)) := by
  intro plain
  exact plain ⟨text, rest, List.append_assoc ..⟩

theorem nextTag_eq_none_iff {c : Cursor} : c.nextTag? = none ↔ Plain c.rest := by
  rcases seekFrom_cases c.offset c.rest with ⟨plain, place⟩ | ⟨text, rest, -, -, split, place⟩
  · simp only [nextTag?, place, plain]
  · constructor
    · intro found
      simp [nextTag?, place, openTag] at found
    · intro plain
      rw [split] at plain
      exact absurd plain (not_plain_openTag text rest)

theorem nextTag_eq_some_iff {c behind : Cursor} {stop : Nat} :
    c.nextTag? = some (stop, behind) ↔
      ∃ text, Plain text ∧ EndsApart text ∧ stop = c.offset + text.length ∧
        Consumes c (text ++ openTag) behind := by
  constructor
  · intro found
    rcases seekFrom_cases c.offset c.rest with ⟨-, place⟩ | ⟨text, rest, plain, apart, split, place⟩
    · simp [nextTag?, place] at found
    · simp only [nextTag?, place, openTag, List.cons_append, List.nil_append, Option.some.injEq,
        Prod.mk.injEq] at found
      obtain ⟨rfl, rfl⟩ := found
      refine ⟨text, plain, apart, rfl, ?_, ?_⟩
      · rw [split, List.append_assoc]
      · rw [List.length_append, ← Nat.add_assoc]
        rfl
  · intro ⟨text, plain, apart, start, read⟩
    obtain ⟨offset, rest⟩ := behind
    have place : seekFrom c.offset c.rest = ⟨stop, openTag ++ rest⟩ := by
      rw [read.rest, List.append_assoc, seekFrom_text plain (.inl apart), seekFrom_openTag, start]
    have offsets : offset = stop + 2 := by
      have := read.offset
      rw [List.length_append, ← Nat.add_assoc, ← start] at this
      exact this
    simp only [nextTag?, place, openTag, List.cons_append, List.nil_append, offsets]

end Mustache.Proofs.Grammar
