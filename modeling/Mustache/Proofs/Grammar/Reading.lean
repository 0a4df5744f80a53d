import Mathlib.Data.List.TakeWhile
import Mustache.Proofs.Grammar.Syntax

namespace Mustache.Proofs.Grammar
open Cursor

theorem bind_eq_ok {ε α β : Type} {x : Except ε α} {f : α → Except ε β} {b : β} :
    (x >>= f) = .ok b ↔ ∃ a, x = .ok a ∧ f a = .ok b := by
  cases x <;> simp [bind, Except.bind]

theorem pure_eq_ok {ε α : Type} {a b : α} : (pure a : Except ε α) = .ok b ↔ a = b := by
  simp [pure, Except.pure]

structure Consumes (c : Cursor) (bytes : Bytes) (after : Cursor) : Prop where
  rest : c.rest = bytes ++ after.rest
  offset : after.offset = c.offset + bytes.length

theorem Consumes.nil (c : Cursor) : Consumes c [] c := ⟨rfl, rfl⟩

theorem Consumes.append {c d e : Cursor} {left right : Bytes} (first : Consumes c left d)
    (second : Consumes d right e) : Consumes c (left ++ right) e := by
  constructor
  · rw [first.rest, second.rest, List.append_assoc]
  · rw [second.offset, first.offset, List.length_append, Nat.add_assoc]

theorem Consumes.split {c e : Cursor} {left right : Bytes} (both : Consumes c (left ++ right) e) :
    ∃ d, Consumes c left d ∧ Consumes d right e := by
  refine ⟨⟨c.offset + left.length, right ++ e.rest⟩, ⟨?_, rfl⟩, ⟨rfl, ?_⟩⟩
  · rw [both.rest, List.append_assoc]
  · rw [both.offset, List.length_append, Nat.add_assoc]

theorem Consumes.right_unique {c d e : Cursor} {bytes : Bytes} (left : Consumes c bytes d)
    (right : Consumes c bytes e) : d = e := by
  have rests := List.append_cancel_left (left.rest.symm.trans right.rest)
  have offsets := left.offset.trans right.offset.symm
  cases d
  cases e
  simp_all

theorem Consumes.upTo {c after : Cursor} {bytes : Bytes} (read : Consumes c bytes after) :
    c.upTo after.offset = bytes := by
  rw [Cursor.upTo, read.offset, read.rest, Nat.add_sub_cancel_left, List.take_left]

theorem consumes_mk (offset : Nat) (bytes rest : Bytes) :
    Consumes ⟨offset, bytes ++ rest⟩ bytes ⟨offset + bytes.length, rest⟩ := ⟨rfl, rfl⟩

def StopsAt (p : UInt8 → Bool) (bytes : Bytes) : Prop := ∀ b ∈ bytes.head?, p b = false

theorem stopsAt_append {p : UInt8 → Bool} {bytes rest : Bytes} (here : ∀ b ∈ bytes, p b = false)
    (there : StopsAt p rest) : StopsAt p (bytes ++ rest) := by
  cases bytes with
  | nil => exact there
  | cons b bytes =>
    rintro c ⟨⟩
    exact here b List.mem_cons_self

theorem skipWhile_eq_iff {p : UInt8 → Bool} {c after : Cursor} :
    c.skipWhile p = after ↔
      ∃ bytes, (∀ b ∈ bytes, p b = true) ∧ Consumes c bytes after ∧ StopsAt p after.rest := by
  constructor
  · intro same
    subst same
    refine ⟨c.rest.takeWhile p, fun b member => List.mem_takeWhile_imp member, ⟨?_, rfl⟩, ?_⟩
    · exact List.takeWhile_append_dropWhile.symm
    · intro b member
      have stopped := List.head?_dropWhile_not p c.rest
      simp only [skipWhile, Option.mem_def] at member
      simpa [member] using stopped
  · intro ⟨bytes, all, read, stops⟩
    have ends : after.rest.takeWhile p = [] ∧ after.rest.dropWhile p = after.rest := by
      cases rest : after.rest with
      | nil => exact ⟨rfl, rfl⟩
      | cons b later =>
        have other : p b = false := stops b (by simp [rest])
        exact ⟨List.takeWhile_cons_of_neg (by simp [other]),
          List.dropWhile_cons_of_neg (by simp [other])⟩
    rw [skipWhile, read.rest, List.takeWhile_append_of_pos all, List.dropWhile_append_of_pos all,
      ends.1, ends.2, List.append_nil, ← read.offset]

theorem take_ok_iff {p : UInt8 → Bool} {c after : Cursor} :
    c.take p = .ok after ↔ ∃ b, p b = true ∧ Consumes c [b] after := by
  obtain ⟨offset, rest⟩ := c
  obtain ⟨offset', rest'⟩ := after
  cases rest with
  | nil =>
    constructor
    · intro taken
      cases taken
    · rintro ⟨b, -, read⟩
      cases read.rest
  | cons b rest =>
    simp only [take]
    constructor
    · intro taken
      split at taken
      · next accepted =>
        cases taken
        exact ⟨b, accepted, rfl, rfl⟩
      · cases taken
    · rintro ⟨b', accepted, read⟩
      obtain ⟨rfl, rfl⟩ := List.cons.inj read.rest
      rw [if_pos accepted, show offset' = offset + 1 from read.offset]

theorem takeBraces_ok_iff {n : Nat} {c after : Cursor} :
    c.takeBraces n = .ok after ↔ Consumes c (closeTag n) after := by
  induction n generalizing c with
  | zero =>
    constructor
    · intro taken
      cases taken
      exact .nil _
    · intro read
      exact congrArg Except.ok ((Consumes.nil c).right_unique read)
  | succ n ih =>
    have step : c.takeBraces (n + 1) = .ok after ↔
        ∃ d, c.take (· == closeBrace) = .ok d ∧ d.takeBraces n = .ok after := by
      cases first : c.take (· == closeBrace) with
      | error stop => simp [takeBraces, first, bind, Except.bind]
      | ok d => simp [takeBraces, first, bind, Except.bind]
    rw [step, show closeTag (n + 1) = [closeBrace] ++ closeTag n from rfl]
    constructor
    · rintro ⟨d, first, later⟩
      obtain ⟨b, brace, read⟩ := take_ok_iff.mp first
      rw [eq_of_beq brace] at read
      exact read.append (ih.mp later)
    · intro read
      obtain ⟨d, first, later⟩ := read.split
      exact ⟨d, take_ok_iff.mpr ⟨closeBrace, beq_self_eq_true _, first⟩, ih.mpr later⟩

structure NameClass (first later : UInt8 → Bool) : Prop where
  first_not_blank : ∀ b, isBlank b = true → first b = false
  later_not_blank : ∀ b, isBlank b = true → later b = false
  later_not_close : later closeBrace = false
  first_not_open : first openBrace = false
  later_not_open : later openBrace = false

theorem not_isPathByte_of_isBlank {b : UInt8} (blank : isBlank b = true) :
    isPathByte b = false := by
  simp only [isBlank, Bool.or_eq_true, beq_iff_eq] at blank
  rcases blank with (rfl | rfl) | rfl <;> rfl

theorem not_isKeyByte_of_isBlank {b : UInt8} (blank : isBlank b = true) : isKeyByte b = false := by
  have path := not_isPathByte_of_isBlank blank
  exact (Bool.or_eq_false_iff.mp path).1

theorem nameClass_key : NameClass isKeyStart isKeyByte where
  first_not_blank b blank := by
    have other := not_isKeyByte_of_isBlank blank
    by_contra starts
    rw [isKeyByte_of_isKeyStart (eq_true_of_ne_false starts)] at other
    cases other
  later_not_blank _ := not_isKeyByte_of_isBlank
  later_not_close := rfl
  first_not_open := rfl
  later_not_open := rfl

theorem nameClass_path : NameClass isPathByte isPathByte where
  first_not_blank _ := not_isPathByte_of_isBlank
  later_not_blank _ := not_isPathByte_of_isBlank
  later_not_close := rfl
  first_not_open := rfl
  later_not_open := rfl

theorem nameClass_closing : NameClass isKeyByte isKeyByte where
  first_not_blank _ := not_isKeyByte_of_isBlank
  later_not_blank _ := not_isKeyByte_of_isBlank
  later_not_close := rfl
  first_not_open := rfl
  later_not_open := rfl

theorem Padded.not_mem_openBrace {first later : UInt8 → Bool} (classes : NameClass first later)
    {name inner : Bytes} (padded : Padded first later name inner) : openBrace ∉ inner := by
  obtain @⟨before, behind, blanks, isName, blanks'⟩ := padded
  obtain _ | ⟨b, others⟩ := name
  · exact isName.elim
  intro member
  have accepted : isBlank openBrace = true ∨ first openBrace = true ∨ later openBrace = true := by
    rcases List.mem_append.mp member with member | blank
    · rcases List.mem_append.mp member with blank | name
      · exact .inl (blanks _ blank)
      · rcases List.mem_cons.mp name with rfl | other
        · exact .inr (.inl isName.1)
        · exact .inr (.inr (isName.2 _ other))
    · exact .inl (blanks' _ blank)
  rw [classes.first_not_open, classes.later_not_open] at accepted
  rcases accepted with blank | none | none <;> contradiction

theorem named_steps {first later : UInt8 → Bool} {braces : Nat} {c after : Cursor} {text : String} :
    c.named first later braces = .ok (text, after) ↔
      ∃ d, (c.skipWhile isBlank).take first = .ok d ∧
        ((d.skipWhile later).skipWhile isBlank).takeBraces braces = .ok after ∧
        text = nameText ((c.skipWhile isBlank).upTo (d.skipWhile later).offset) := by
  simp only [named, bind_eq_ok, pure_eq_ok, Prod.mk.injEq]
  constructor
  · intro ⟨d, head, e, braced, name, place⟩
    exact ⟨d, head, place ▸ braced, name.symm⟩
  · intro ⟨d, head, braced, name⟩
    exact ⟨d, head, after, braced, name.symm, rfl⟩

theorem padded_of_named {first later : UInt8 → Bool} {braces : Nat} {c after : Cursor}
    {text : String} (read : c.named first later braces = .ok (text, after)) :
    ∃ name inner, Padded first later name inner ∧ text = nameText name ∧
      Consumes c (inner ++ closeTag braces) after := by
  obtain ⟨d, head, braced, rfl⟩ := named_steps.mp read
  obtain ⟨before, blanks, skipped, -⟩ := skipWhile_eq_iff.mp (rfl : c.skipWhile isBlank = _)
  obtain ⟨b, starts, taken⟩ := take_ok_iff.mp head
  obtain ⟨others, goesOn, passed, -⟩ := skipWhile_eq_iff.mp (rfl : d.skipWhile later = _)
  obtain ⟨behind, blanks', skipped', -⟩ :=
    skipWhile_eq_iff.mp (rfl : (d.skipWhile later).skipWhile isBlank = _)
  have name := taken.append passed
  refine ⟨b :: others, before ++ b :: others ++ behind, .mk blanks ⟨starts, goesOn⟩ blanks', ?_, ?_⟩
  · rw [name.upTo]
    rfl
  · exact ((skipped.append name).append skipped').append (takeBraces_ok_iff.mp braced)

theorem named_of_padded {first later : UInt8 → Bool} (classes : NameClass first later) {n : Nat}
    {c after : Cursor} {name inner : Bytes} (padded : Padded first later name inner)
    (read : Consumes c (inner ++ closeTag (n + 1)) after) :
    c.named first later (n + 1) = .ok (nameText name, after) := by
  obtain @⟨before, behind, blanks, isName, blanks'⟩ := padded
  obtain _ | ⟨b, others⟩ := name
  · exact isName.elim
  obtain ⟨starts, goesOn⟩ := isName
  obtain ⟨e, padded, braces⟩ := read.split
  obtain ⟨d, padded, skipped'⟩ := padded.split
  obtain ⟨c', skipped, name⟩ := padded.split
  have letters : Consumes c' ([b] ++ others) d := name
  obtain ⟨d', taken, passed⟩ := letters.split
  have closing : StopsAt isBlank e.rest := by
    rw [braces.rest]
    rintro b ⟨⟩
    rfl
  have blank : c.skipWhile isBlank = c' := by
    refine skipWhile_eq_iff.mpr ⟨before, blanks, skipped, ?_⟩
    rw [name.rest]
    rintro b ⟨⟩
    by_contra isBlank
    rw [classes.first_not_blank b (eq_true_of_ne_false isBlank)] at starts
    cases starts
  have rest : d'.skipWhile later = d := by
    refine skipWhile_eq_iff.mpr ⟨others, goesOn, passed, ?_⟩
    rw [skipped'.rest, braces.rest]
    refine stopsAt_append (fun b member => classes.later_not_blank b (blanks' b member)) ?_
    rintro b ⟨⟩
    exact classes.later_not_close
  have blank' : d.skipWhile isBlank = e := skipWhile_eq_iff.mpr ⟨behind, blanks', skipped', closing⟩
  refine named_steps.mpr ⟨d', ?_, ?_, ?_⟩
  · rw [blank]
    exact take_ok_iff.mpr ⟨b, starts, taken⟩
  · rw [rest, blank']
    exact takeBraces_ok_iff.mpr braces
  · rw [blank, rest, name.upTo]

end Mustache.Proofs.Grammar
