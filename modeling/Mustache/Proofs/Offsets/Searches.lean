import Mustache.Proofs.Grammar.BlockEnds
import Mustache.Proofs.Offsets.Stepwise

namespace Mustache.Proofs.Offsets
open Cursor Grammar

theorem decodeLossy_of_isName {first later : UInt8 → Bool} {name : Bytes}
    (isName : IsName first later name) (starts : ∀ {b}, first b = true → isPathByte b = true)
    (goesOn : ∀ {b}, later b = true → isPathByte b = true) :
    (∀ b ∈ name, isPathByte b = true) ∧ Utf8.decodeLossy name = nameText name := by
  have path : ∀ b ∈ name, isPathByte b = true := by
    cases name with
    | nil => exact isName.elim
    | cons b others =>
      exact List.forall_mem_cons.mpr ⟨starts isName.1, fun c member => goesOn (isName.2 c member)⟩
  exact ⟨path, Utf8.decodeLossy_ascii name fun b member => isPathByte_ascii (path b member)⟩

theorem TagKind.isPathByte_of_accepts {kind : TagKind} {b : UInt8}
    (accepted : kind.accepts b = true) : isPathByte b = true := by
  cases kind with
  | inclusion => exact accepted
  | value | raw | opening => exact isPathByte_of_isKeyByte accepted

theorem TagKind.accepts_of_starts {kind : TagKind} {b : UInt8} (starts : kind.starts b = true) :
    kind.accepts b = true := by
  cases kind with
  | inclusion => exact starts
  | value | raw | opening => exact isKeyByte_of_isKeyStart starts

theorem marker_place (base : Nat) (source : Bytes) (i : Nat) :
    ∃ j, (place base source i).marker? = source[j]?.map (·, place base source (j + 1)) ∧
      i ≤ j ∧ (∀ b, source[j]? = some b → isBlank b = false) ∧
      ∀ {α : Type} (f : Nat → α),
        (∀ k b, source[k]? = some b → isBlank b = true → f k = f (k + 1)) → f i = f j := by
  obtain ⟨j, behind, skipped, stops, follows⟩ := skip_place base source isBlank i
  refine ⟨j, ?_, behind, stops, follows⟩
  have rest : source.drop j = (place base source j).rest := rfl
  rw [marker?, skipped, place, rest]
  cases there : source[j]? with
  | none =>
    rw [rest_at_end there]
    rfl
  | some b =>
    rw [rest_cons there]
    rfl

namespace Scan

variable {key : String} {source : Bytes}

abbrev runAt (key : String) (source : Bytes) (scan : Scan) (i : Nat) : Except Halt (Nat × Nat) :=
  scan.run key source i (source.drop i)

def proceed (key : String) (source : Bytes) (i : Nat) : Verdict → Except Halt (Nat × Nat)
  | .more next => runAt key source next i
  | .found body consumed => .ok (body, consumed)

theorem runAt_eq (scan : Scan) (i : Nat) :
    runAt key source scan i =
      match source[i]? with
      | none => .error (.refused (.unterminatedBlock key))
      | some b => scan.step key source i b >>= proceed key source (i + 1) := by
  have rest : source.drop i = (place 0 source i).rest := rfl
  rw [runAt, rest]
  cases there : source[i]? with
  | none =>
    rw [rest_at_end there]
    rfl
  | some b =>
    rw [rest_cons there]
    rfl

def textReader (key : String) (source : Bytes) (level keyStart keyEnd : Nat) :
    TextReader source (Except Halt (Nat × Nat)) where
  text tagStart i := runAt key source ⟨.text, level, tagStart, keyStart, keyEnd⟩ i
  brace i := runAt key source ⟨.brace, level, i, keyStart, keyEnd⟩ (i + 1)
  tag i := runAt key source ⟨.marker, level, i, keyStart, keyEnd⟩ (i + 2)
  ended := .error (.refused (.unterminatedBlock key))
  text_eq tagStart i := by
    rw [runAt_eq]
    cases source[i]? with
    | none => rfl
    | some b =>
      simp only [step]
      split <;> rfl
  brace_eq i := by
    rw [runAt_eq]
    cases source[i + 1]? with
    | none => rfl
    | some b =>
      simp only [step]
      split <;> rfl

def nameReader (key : String) (source : Bytes) (level tagStart : Nat) :
    NameReader source isKeyByte isKeyByte 1 (Except Halt (Nat × Nat)) where
  before keyStart keyEnd i := runAt key source ⟨.closeStart, level, tagStart, keyStart, keyEnd⟩ i
  inside keyStart keyEnd i := runAt key source ⟨.closeKey, level, tagStart, keyStart, keyEnd⟩ i
  behind keyStart keyEnd i := runAt key source ⟨.closeEnd, level, tagStart, keyStart, keyEnd⟩ i
  closing due keyStart keyEnd i :=
    let scan : Scan := ⟨.closing, level, tagStart, keyStart, keyEnd⟩
    match due with
    | 0 => scan.close key source (i - 1) >>= proceed key source i
    | _ => runAt key source scan i
  stray keyStart keyEnd i := runAt key source ⟨.text, level, tagStart, keyStart, keyEnd⟩ i
  ended := .error (.refused (.unterminatedBlock key))
  before_eq keyStart keyEnd i := by
    rw [runAt_eq]
    cases source[i]? with
    | none => rfl
    | some b =>
      simp only [step]
      cases blank : isBlank b with
      | true =>
        rw [if_neg (by simp [not_isKeyByte_of_isBlank blank])]
        rfl
      | false => split <;> rfl
  inside_eq keyStart keyEnd i := by
    rw [runAt_eq]
    cases source[i]? with
    | none => rfl
    | some b =>
      simp only [step]
      repeat' split
      all_goals rfl
  behind_eq keyStart keyEnd i := by
    rw [runAt_eq]
    cases source[i]? with
    | none => rfl
    | some b =>
      simp only [step]
      by_cases brace : b = closeBrace
      · subst brace
        rfl
      · rw [if_neg brace, if_neg brace]
        split <;> rfl
  closing_eq due keyStart keyEnd i bound := by
    obtain rfl : due = 0 := Nat.lt_one_iff.mp bound
    change runAt key source ⟨.closing, level, tagStart, keyStart, keyEnd⟩ i = _
    rw [runAt_eq ⟨.closing, level, tagStart, keyStart, keyEnd⟩]
    cases source[i]? with
    | none => rfl
    | some b =>
      simp only [step]
      split <;> rfl

/-! ## Agreement -/

def Agrees (base : Nat) (source : Bytes) (result : Except Halt (Nat × Nat)) :
    Except SyntaxError BlockEnd → Prop
  | .error fault => result = .error (.refused fault)
  | .ok found => ∃ body consumed, found.body = base + body ∧
      found.after = place base source consumed ∧ result = .ok (body, consumed)

theorem closing_outer {closed : String} {tagStart keyStart keyEnd i : Nat}
    (name : (⟨.closing, 1, tagStart, keyStart, keyEnd⟩ : Scan).name source = .ok closed) :
    (nameReader key source 1 tagStart).closing 0 keyStart keyEnd (i + 1) =
      if closed = key then .ok (tagStart, i + 1)
      else .error (.refused (.mismatchedClose key closed)) := by
  change Scan.close key source ⟨.closing, 1, tagStart, keyStart, keyEnd⟩ i >>=
    proceed key source (i + 1) = _
  rw [Scan.close, show minus 1 1 = .ok 0 from rfl, name]
  change (if closed = key then _ else _) >>= _ = _
  split <;> rfl

theorem closing_inner (inner tagStart keyStart keyEnd i : Nat) :
    (nameReader key source (inner + 2) tagStart).closing 0 keyStart keyEnd (i + 1) =
      runAt key source ⟨.text, inner + 1, tagStart, keyStart, keyEnd⟩ (i + 1) := rfl

section

variable {base inner tagStart keyStart keyEnd i : Nat}

theorem agrees_closing
    (later : ∀ inner tagStart keyStart keyEnd j, source.length - j < source.length - i →
      Agrees base source (runAt key source ⟨.text, inner + 1, tagStart, keyStart, keyEnd⟩ j)
        (BlockEnd.find key inner (place base source j))) :
    Agrees base source (runAt key source ⟨.closeStart, inner + 1, tagStart, keyStart, keyEnd⟩ i)
      (match BlockEnd.closingKey (place base source i) with
        | .error .ended => .error (.unterminatedBlock key)
        | .error (.stray after) => BlockEnd.find key inner after
        | .ok (closed, after) =>
          match inner with
          | 0 =>
            if closed = key then .ok ⟨base + tagStart, after⟩
            else .error (.mismatchedClose key closed)
          | inner + 1 => BlockEnd.find key inner after) := by
  have comes := (nameReader key source (inner + 1) tagStart).comes base keyStart keyEnd i
  have shorter {j : Nat} (less : (place base source j).rest.length <
      (place base source i).rest.length) : source.length - j < source.length - i := by
    simpa [place] using less
  change NameReader.Comes _ base (runAt key source _ i) _ at comes
  unfold BlockEnd.closingKey
  cases read : (place base source i).named isKeyByte isKeyByte 2 with
  | error stop =>
    rw [read] at comes
    cases stop with
    | ended => exact comes
    | stray after =>
      obtain ⟨keyStart', keyEnd', j, rfl, same⟩ := comes
      rw [same]
      exact later inner tagStart keyStart' keyEnd' j (shorter (stray_shorter read))
  | ok result =>
    obtain ⟨closed, after⟩ := result
    rw [read] at comes
    obtain ⟨keyStart', keyEnd', j, ordered, inside, isName, rfl, rfl, same⟩ := comes
    have less := shorter (named_shorter read)
    obtain ⟨j, rfl⟩ : ∃ k, j = k + 1 := Nat.exists_eq_succ_of_ne_zero (by omega)
    have text := (decodeLossy_of_isName isName isPathByte_of_isKeyByte isPathByte_of_isKeyByte).2
    have name (level : Nat) :
        (⟨.closing, level, tagStart, keyStart', keyEnd'⟩ : Scan).name source =
          .ok (nameText (between source keyStart' keyEnd')) := by
      rw [Scan.name, slice_of_le ordered inside, ← text]
      rfl
    rw [same]
    cases inner with
    | zero =>
      rw [closing_outer (name 1)]
      simp only
      split
      · exact ⟨tagStart, j + 1, rfl, rfl, rfl⟩
      · rfl
    | succ inner =>
      rw [closing_inner]
      exact later inner tagStart keyStart' keyEnd' (j + 1) less

theorem agrees_marker
    (later : ∀ inner tagStart keyStart keyEnd j, source.length - j < source.length - i →
      Agrees base source (runAt key source ⟨.text, inner + 1, tagStart, keyStart, keyEnd⟩ j)
        (BlockEnd.find key inner (place base source j))) :
    Agrees base source (runAt key source ⟨.marker, inner + 1, tagStart, keyStart, keyEnd⟩ i)
      (match (place base source i).marker? with
        | none => .error (.unterminatedBlock key)
        | some (b, next) =>
          if b = hashMark ∨ b = caretMark then BlockEnd.find key (inner + 1) next
          else if b = slashMark then
            match BlockEnd.closingKey next with
            | .error .ended => .error (.unterminatedBlock key)
            | .error (.stray after) => BlockEnd.find key inner after
            | .ok (closed, after) =>
              match inner with
              | 0 =>
                if closed = key then .ok ⟨base + tagStart, after⟩
                else .error (.mismatchedClose key closed)
              | inner + 1 => BlockEnd.find key inner after
          else BlockEnd.find key inner next) := by
  obtain ⟨j, marked, behind, stops, follows⟩ := marker_place base source i
  have same := follows (runAt key source ⟨.marker, inner + 1, tagStart, keyStart, keyEnd⟩)
    fun k b there blank => by
      have other (mark : UInt8) (visible : isBlank mark = false) : b ≠ mark := by
        rintro rfl
        rw [visible] at blank
        cases blank
      rw [runAt_eq, there]
      simp only [step, blank, other hashMark rfl, other caretMark rfl, other slashMark rfl]
      rfl
  rw [same, marked, runAt_eq]
  cases there : source[j]? with
  | none => rfl
  | some b =>
    have inside := lt_of_getElem? there
    have further (inner tagStart keyStart keyEnd : Nat) :=
      later inner tagStart keyStart keyEnd (j + 1) (by omega)
    simp only [Option.map_some, step]
    by_cases block : b = hashMark ∨ b = caretMark
    · simp only [if_pos block]
      exact further (inner + 1) tagStart keyStart keyEnd
    by_cases slash : b = slashMark
    · simp only [if_neg block, if_pos slash]
      refine agrees_closing fun inner tagStart keyStart keyEnd k less => ?_
      exact later inner tagStart keyStart keyEnd k (by omega)
    · simp only [if_neg block, if_neg slash, stops b there]
      exact further inner tagStart keyStart keyEnd

end

theorem agrees (key : String) (base : Nat) (source : Bytes)
    (inner tagStart keyStart keyEnd i : Nat) :
    Agrees base source (runAt key source ⟨.text, inner + 1, tagStart, keyStart, keyEnd⟩ i)
      (BlockEnd.find key inner (place base source i)) := by
  induction size : source.length - i using Nat.strong_induction_on
    generalizing inner tagStart keyStart keyEnd i with
  | _ size ih =>
    subst size
    have text := (textReader key source (inner + 1) keyStart keyEnd).comes base tagStart i
    rw [find_eq]
    change TextReader.Comes _ base (runAt key source _ i) _ at text
    cases tag : (place base source i).nextTag? with
    | none =>
      rw [tag] at text
      exact text
    | some found =>
      obtain ⟨stop, behind⟩ := found
      rw [tag] at text
      obtain ⟨j, room, rfl, rfl, same⟩ := text
      have ahead := le_of_nextTag tag
      rw [same]
      refine agrees_marker fun inner tagStart keyStart keyEnd k less => ?_
      exact ih _ (by omega) inner tagStart keyStart keyEnd k rfl

theorem find_agrees (key : String) (base : Nat) (source : Bytes) :
    Agrees base source (find key source) (BlockEnd.find key 0 ⟨base, source⟩) :=
  agrees key base source 0 0 0 0 0

end Scan

end Mustache.Proofs.Offsets
