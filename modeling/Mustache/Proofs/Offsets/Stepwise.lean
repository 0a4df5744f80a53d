import Mustache.Proofs.Grammar.Tags
import Mustache.Proofs.Offsets.Bounds

namespace Mustache.Proofs.Offsets
open Cursor Grammar

def place (base : Nat) (source : Bytes) (i : Nat) : Cursor := ⟨base + i, source.drop i⟩

section

variable {base i : Nat} {source : Bytes} {b : UInt8} {p : UInt8 → Bool}

theorem rest_at_end (ended : source[i]? = none) : (place base source i).rest = [] :=
  List.drop_eq_nil_of_le (List.getElem?_eq_none_iff.mp ended)

theorem rest_cons (there : source[i]? = some b) :
    (place base source i).rest = b :: (place base source (i + 1)).rest := by
  obtain ⟨inside, rfl⟩ := List.getElem?_eq_some_iff.mp there
  exact List.drop_eq_getElem_cons inside

theorem consumes_byte (there : source[i]? = some b) :
    Consumes (place base source i) [b] (place base source (i + 1)) := ⟨rest_cons there, rfl⟩

theorem consumes_inside {j : Nat} {bytes : Bytes}
    (read : Consumes (place base source i) bytes (place base source j))
    (inside : i ≤ source.length) : j ≤ source.length := by
  have offset : base + j = base + i + bytes.length := read.offset
  have length := congrArg List.length read.rest
  simp only [place, List.length_append, List.length_drop] at length
  omega

theorem take_at_end (ended : source[i]? = none) :
    (place base source i).take p = .error .ended := by
  rw [Cursor.take, rest_at_end ended]

theorem take_byte (there : source[i]? = some b) :
    (place base source i).take p =
      if p b then .ok (place base source (i + 1))
      else .error (.stray (place base source (i + 1))) := by
  rw [Cursor.take, rest_cons there]
  rfl

theorem upTo_place {j : Nat} : (place base source i).upTo (base + j) = between source i j := by
  rw [Cursor.upTo, place, Nat.add_sub_add_left, between, List.drop_take]

theorem stopsAt_place (stops : ∀ b, source[i]? = some b → p b = false) :
    StopsAt p (place base source i).rest := by
  cases there : source[i]? with
  | none =>
    rw [rest_at_end there]
    exact nofun
  | some b =>
    rw [rest_cons there]
    rintro c ⟨⟩
    exact stops b there

theorem skip_stopped (stops : ∀ b, source[i]? = some b → p b = false) :
    (place base source i).skipWhile p = place base source i :=
  skipWhile_eq_iff.mpr ⟨[], nofun, .nil _, stopsAt_place stops⟩

theorem skip_byte (there : source[i]? = some b) (accepted : p b = true) :
    (place base source i).skipWhile p = (place base source (i + 1)).skipWhile p := by
  obtain ⟨bytes, all, read, stops⟩ :=
    skipWhile_eq_iff.mp (rfl : (place base source (i + 1)).skipWhile p = _)
  refine skipWhile_eq_iff.mpr ⟨[b] ++ bytes, ?_, (consumes_byte there).append read, stops⟩
  exact List.forall_mem_cons.mpr ⟨accepted, all⟩

theorem skip_place (base : Nat) (source : Bytes) (p : UInt8 → Bool) (i : Nat) :
    ∃ j, i ≤ j ∧ (place base source i).skipWhile p = place base source j ∧
      (∀ b, source[j]? = some b → p b = false) ∧
      ∀ {α : Type} (f : Nat → α),
        (∀ k b, source[k]? = some b → p b = true → f k = f (k + 1)) → f i = f j := by
  induction size : source.length - i generalizing i with
  | zero =>
    have stops (b : UInt8) (there : source[i]? = some b) : p b = false := by
      have := lt_of_getElem? there
      omega
    exact ⟨i, Nat.le_refl i, skip_stopped stops, stops, fun f _ => rfl⟩
  | succ size ih =>
    have there : source[i]? = some source[i] := List.getElem?_eq_getElem (by omega)
    cases accepted : p source[i] with
    | false =>
      have stops (b : UInt8) (same : source[i]? = some b) : p b = false := by
        cases there.symm.trans same
        exact accepted
      exact ⟨i, Nat.le_refl i, skip_stopped stops, stops, fun f _ => rfl⟩
    | true =>
      obtain ⟨j, behind, skipped, stops, follows⟩ := ih (i + 1) (by omega)
      refine ⟨j, Nat.le_of_succ_le behind, (skip_byte there accepted).trans skipped, stops, ?_⟩
      exact fun f step => (step i _ there accepted).trans (follows f step)

end

/-! ## Text -/

structure TextReader (source : Bytes) (α : Type) where
  text : Nat → Nat → α
  brace : Nat → α
  tag : Nat → α
  ended : α
  text_eq (tagStart i : Nat) : text tagStart i =
    match source[i]? with
    | none => ended
    | some b => if b = openBrace then brace i else text tagStart (i + 1)
  brace_eq (i : Nat) : brace i =
    match source[i + 1]? with
    | none => ended
    | some b => if b = openBrace then tag i else text i (i + 2)

section

variable {base i : Nat} {source : Bytes} {b : UInt8}

theorem nextTag_at_end (ended : source[i]? = none) : (place base source i).nextTag? = none := by
  rw [nextTag_eq_none_iff, rest_at_end ended]
  exact plain_nil

theorem nextTag_braces (brace : source[i]? = some openBrace)
    (brace' : source[i + 1]? = some openBrace) :
    (place base source i).nextTag? = some (base + i, place base source (i + 2)) := by
  refine nextTag_eq_some_iff.mpr ⟨[], plain_nil, endsApart_nil, rfl, ?_⟩
  exact (consumes_byte brace).append (consumes_byte brace')

theorem nextTag_byte (there : source[i]? = some b)
    (lone : ¬ (b = openBrace ∧ source[i + 1]? = some openBrace)) :
    (place base source i).nextTag? = (place base source (i + 1)).nextTag? := by
  have apart : EndsApart [b] ∨ (source.drop (i + 1)).head? ≠ some openBrace := by
    rw [List.head?_drop, EndsApart, List.getLast?_singleton, ne_eq, Option.some.injEq]
    exact not_and_or.mp lone
  have plain : Plain [b] := by
    apply plain_cons_iff.mpr
    exact ⟨by simp, plain_nil⟩
  have skipped : seekFrom (base + i) (place base source i).rest =
      seekFrom (base + (i + 1)) (place base source (i + 1)).rest := by
    rw [rest_cons there]
    exact seekFrom_text plain apart (base + i)
  have offset (j : Nat) : (place base source j).offset = base + j := rfl
  rw [nextTag?, nextTag?, offset, offset, skipped]

theorem le_of_nextTag {j : Nat} {behind : Cursor}
    (found : (place base source i).nextTag? = some (base + j, behind)) : i ≤ j := by
  obtain ⟨text, -, -, stop, -⟩ := nextTag_eq_some_iff.mp found
  have : base + j = base + i + text.length := stop
  omega

def TextReader.Comes {α : Type} (reader : TextReader source α) (base : Nat) (result : α) :
    Option (Nat × Cursor) → Prop
  | none => result = reader.ended
  | some (stop, behind) => ∃ j, j + 2 ≤ source.length ∧ stop = base + j ∧
      behind = place base source (j + 2) ∧ result = reader.tag j

theorem TextReader.comes {α : Type} (reader : TextReader source α) (base tagStart i : Nat) :
    reader.Comes base (reader.text tagStart i) (place base source i).nextTag? := by
  induction size : source.length - i using Nat.strong_induction_on generalizing tagStart i with
  | _ size ih =>
    subst size
    rw [reader.text_eq]
    cases there : source[i]? with
    | none =>
      rw [nextTag_at_end there]
      rfl
    | some b =>
      have inside := lt_of_getElem? there
      by_cases brace : b = openBrace
      · subst brace
        simp only [if_true]
        rw [reader.brace_eq]
        cases next : source[i + 1]? with
        | none =>
          rw [nextTag_byte there (by simp [next]), nextTag_at_end next]
          rfl
        | some b' =>
          have inside' := lt_of_getElem? next
          by_cases brace' : b' = openBrace
          · subst brace'
            rw [nextTag_braces there next]
            exact ⟨i, inside', rfl, rfl, if_pos rfl⟩
          · have lone : ¬ source[i + 1]? = some openBrace := by simpa [next] using brace'
            rw [nextTag_byte there (fun both => lone both.2), nextTag_byte next (by simp [brace'])]
            simp only [if_neg brace']
            exact ih _ (by omega) i (i + 2) rfl
      · rw [nextTag_byte there (by simp [brace])]
        simp only [if_neg brace]
        exact ih _ (by omega) tagStart (i + 1) rfl

end

/-! ## Names -/

/-- A reading of the name in a tag byte by byte, up to the end of the tag. Its states keep the ends
of the name; those that mean nothing yet may be anything. `braces` closing braces follow the first
one. -/
structure NameReader (source : Bytes) (first later : UInt8 → Bool) (braces : Nat) (α : Type) where
  before : Nat → Nat → Nat → α
  inside : Nat → Nat → Nat → α
  behind : Nat → Nat → Nat → α
  closing : Nat → Nat → Nat → Nat → α
  stray : Nat → Nat → Nat → α
  ended : α
  before_eq (keyStart keyEnd i : Nat) : before keyStart keyEnd i =
    match source[i]? with
    | none => ended
    | some b =>
      if isBlank b then before keyStart keyEnd (i + 1)
      else if first b then inside i keyEnd (i + 1)
      else stray keyStart keyEnd (i + 1)
  inside_eq (keyStart keyEnd i : Nat) : inside keyStart keyEnd i =
    match source[i]? with
    | none => ended
    | some b =>
      if later b then inside keyStart keyEnd (i + 1)
      else if isBlank b then behind keyStart i (i + 1)
      else if b = closeBrace then closing braces keyStart i (i + 1)
      else stray keyStart keyEnd (i + 1)
  behind_eq (keyStart keyEnd i : Nat) : behind keyStart keyEnd i =
    match source[i]? with
    | none => ended
    | some b =>
      if isBlank b then behind keyStart keyEnd (i + 1)
      else if b = closeBrace then closing braces keyStart keyEnd (i + 1)
      else stray keyStart keyEnd (i + 1)
  closing_eq (due keyStart keyEnd i : Nat) : due < braces → closing (due + 1) keyStart keyEnd i =
    match source[i]? with
    | none => ended
    | some b =>
      if b = closeBrace then closing due keyStart keyEnd (i + 1)
      else stray keyStart keyEnd (i + 1)

namespace NameReader

section

variable {source : Bytes} {first later : UInt8 → Bool} {braces : Nat} {α : Type}
  (reader : NameReader source first later braces α) (base : Nat)

def Stops (result : α) : Stop → Prop
  | .ended => result = reader.ended
  | .stray after => ∃ keyStart keyEnd i,
      after = place base source i ∧ result = reader.stray keyStart keyEnd i

def Closes (keyStart keyEnd : Nat) (result : α) : Except Stop Cursor → Prop
  | .error stop => reader.Stops base result stop
  | .ok after => ∃ i, after = place base source i ∧ result = reader.closing 0 keyStart keyEnd i

def Comes (result : α) : Except Stop (String × Cursor) → Prop
  | .error stop => reader.Stops base result stop
  | .ok (name, after) => ∃ keyStart keyEnd i, keyStart ≤ keyEnd ∧ keyEnd ≤ source.length ∧
      IsName first later (between source keyStart keyEnd) ∧
      name = nameText (between source keyStart keyEnd) ∧ after = place base source i ∧
      result = reader.closing 0 keyStart keyEnd i

theorem closes_braces (keyStart keyEnd i : Nat) {due : Nat} (bound : due ≤ braces) :
    reader.Closes base keyStart keyEnd (reader.closing due keyStart keyEnd i)
      ((place base source i).takeBraces due) := by
  induction due generalizing i with
  | zero => exact ⟨i, rfl, rfl⟩
  | succ due ih =>
    rw [reader.closing_eq due keyStart keyEnd i bound, takeBraces]
    cases there : source[i]? with
    | none =>
      rw [take_at_end there]
      rfl
    | some b =>
      rw [take_byte there]
      by_cases brace : b = closeBrace
      · simp only [brace, beq_self_eq_true, if_true]
        exact ih (i + 1) (Nat.le_of_succ_le bound)
      · simp only [beq_eq_false_iff_ne.mpr brace, if_neg brace]
        exact ⟨keyStart, keyEnd, i + 1, rfl, rfl⟩

theorem closes_first (keyStart keyEnd staleEnd i : Nat) :
    reader.Closes base keyStart keyEnd
      (match source[i]? with
        | none => reader.ended
        | some b =>
          if b = closeBrace then reader.closing braces keyStart keyEnd (i + 1)
          else reader.stray keyStart staleEnd (i + 1))
      ((place base source i).takeBraces (braces + 1)) := by
  rw [takeBraces]
  cases there : source[i]? with
  | none =>
    rw [take_at_end there]
    rfl
  | some b =>
    rw [take_byte there]
    by_cases brace : b = closeBrace
    · simp only [brace, beq_self_eq_true, if_true]
      exact reader.closes_braces base keyStart keyEnd (i + 1) (Nat.le_refl braces)
    · simp only [beq_eq_false_iff_ne.mpr brace, if_neg brace]
      exact ⟨keyStart, staleEnd, i + 1, rfl, rfl⟩

theorem closes_behind (keyStart keyEnd i : Nat) :
    reader.Closes base keyStart keyEnd (reader.behind keyStart keyEnd i)
      (((place base source i).skipWhile isBlank).takeBraces (braces + 1)) := by
  obtain ⟨j, -, skipped, stops, follows⟩ := skip_place base source isBlank i
  have same : reader.behind keyStart keyEnd i = reader.behind keyStart keyEnd j := by
    refine follows (reader.behind keyStart keyEnd) fun k b there blank => ?_
    rw [reader.behind_eq, there]
    exact if_pos blank
  have first := reader.closes_first base keyStart keyEnd keyEnd j
  rw [skipped, same, reader.behind_eq]
  cases there : source[j]? with
  | none => rwa [there] at first
  | some b =>
    simp only [stops b there]
    rwa [there] at first

theorem closes_inside (keyStart keyEnd i : Nat)
    (stops : ∀ b, source[i]? = some b → later b = false) :
    reader.Closes base keyStart i (reader.inside keyStart keyEnd i)
      (((place base source i).skipWhile isBlank).takeBraces (braces + 1)) := by
  have first := reader.closes_first base keyStart i keyEnd i
  rw [reader.inside_eq]
  cases there : source[i]? with
  | none =>
    rw [skip_stopped (by simp [there])]
    rwa [there] at first
  | some b =>
    simp only [stops b there]
    cases blank : isBlank b with
    | true =>
      rw [skip_byte there blank]
      exact reader.closes_behind base keyStart i (i + 1)
    | false =>
      have other (c : UInt8) (same : source[i]? = some c) : isBlank c = false := by
        cases there.symm.trans same
        exact blank
      rw [skip_stopped other]
      rwa [there] at first

theorem comes (keyStart keyEnd i : Nat) :
    reader.Comes base (reader.before keyStart keyEnd i)
      ((place base source i).named first later (braces + 1)) := by
  obtain ⟨j, -, skipped, stops, follows⟩ := skip_place base source isBlank i
  have same : reader.before keyStart keyEnd i = reader.before keyStart keyEnd j := by
    refine follows (reader.before keyStart keyEnd) fun k b there blank => ?_
    rw [reader.before_eq, there]
    exact if_pos blank
  rw [Cursor.named, skipped, same, reader.before_eq]
  cases there : source[j]? with
  | none =>
    rw [take_at_end there]
    rfl
  | some b =>
    rw [take_byte there]
    simp only [stops b there]
    cases starts : first b with
    | false => exact ⟨keyStart, keyEnd, j + 1, rfl, rfl⟩
    | true =>
      obtain ⟨k, behind, skipped', stops', follows'⟩ := skip_place base source later (j + 1)
      have same' : reader.inside j keyEnd (j + 1) = reader.inside j keyEnd k := by
        refine follows' (reader.inside j keyEnd) fun k b there goesOn => ?_
        rw [reader.inside_eq, there]
        exact if_pos goesOn
      obtain ⟨others, all, passed, -⟩ := skipWhile_eq_iff.mp skipped'
      have name : between source j k = b :: others :=
        upTo_place.symm.trans ((consumes_byte there).append passed).upTo
      have closes := reader.closes_inside base j keyEnd k stops'
      rw [if_neg Bool.false_ne_true, if_pos rfl, same']
      change reader.Comes base (reader.inside j keyEnd k) (do
        let after ← (((place base source (j + 1)).skipWhile later).skipWhile isBlank).takeBraces
          (braces + 1)
        pure (nameText ((place base source j).upTo
          ((place base source (j + 1)).skipWhile later).offset), after))
      rw [skipped', show (place base source k).offset = base + k from rfl, upTo_place]
      cases outcome : ((place base source k).skipWhile isBlank).takeBraces (braces + 1) with
      | error stop =>
        rw [outcome] at closes
        exact closes
      | ok after =>
        rw [outcome] at closes
        obtain ⟨l, last, result⟩ := closes
        have inside := consumes_inside passed (lt_of_getElem? there)
        refine ⟨j, k, l, Nat.le_of_succ_le behind, inside, ?_, rfl, last, result⟩
        rw [name]
        exact ⟨starts, all⟩

end

end NameReader

end Mustache.Proofs.Offsets
