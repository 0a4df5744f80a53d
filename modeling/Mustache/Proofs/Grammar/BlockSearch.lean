import Mustache.Loader
import Mustache.Proofs.Grammar.Compilation

namespace Mustache.Proofs.Grammar
open Cursor

theorem plain_brace : Plain [openBrace] := by
  apply plain_cons_iff.mpr
  exact ⟨by simp, plain_nil⟩

theorem find_plain {c : Cursor} (plain : Plain c.rest) (key : String) (inner : Nat) :
    BlockEnd.find key inner c = .error (.unterminatedBlock key) := by
  rw [find_eq, nextTag_eq_none_iff.mpr plain]

theorem find_of_derived {loader : Loader} {options : Options} {start : Nat} {source : Bytes}
    {tokens : List Token} (derived : Derives loader options start source tokens) (offset : Nat)
    (key : String) (inner : Nat) :
    BlockEnd.find key inner ⟨offset, source⟩ = .error (.unterminatedBlock key) := by
  obtain ⟨kept, brace, rfl, passed, -, last⟩ := derived.passed
  rw [passed (consumes_mk offset kept brace)]
  apply find_plain
  rcases last with rfl | rfl
  · exact plain_nil
  · exact plain_brace

/-- Behind a body that compiles the search finds the closing tag, or refuses it for its key; what it
finds in any source is a closing tag for its key; and a body alone has no end. -/
theorem find_exact (key : String) :
    (∀ loader options body template, Template.compile loader options body = .ok template →
      EndsApart body → ∀ closed closing, ClosingForm closed closing → ∀ rest,
        BlockEnd.find key 0 (.start (body ++ (openTag ++ closing) ++ rest)) =
          if closed = key then .ok ⟨body.length, ⟨(body ++ (openTag ++ closing)).length, rest⟩⟩
          else .error (.mismatchedClose key closed)) ∧
    (∀ source found, BlockEnd.find key 0 (.start source) = .ok found →
      found.body < found.after.offset ∧ found.after.offset ≤ source.length ∧
        found.after.rest = source.drop found.after.offset ∧
        ∃ closing, ClosingForm key closing ∧
          (source.take found.after.offset).drop found.body = openTag ++ closing) ∧
    ∀ loader options body template, Template.compile loader options body = .ok template →
      BlockEnd.find key 0 (.start body) = .error (.unterminatedBlock key) := by
  refine ⟨?_, ?_, ?_⟩
  · intro loader options body template compiled apart closed closing closes rest
    have tree := (compileAt_eq_ok_iff.mp compiled).1
    have read := consumes_mk 0 (body ++ (openTag ++ closing)) rest
    have found := find_body tree.derived apart closes read key
    simpa only [Cursor.start, Nat.zero_add] using found
  · intro source found ended
    obtain ⟨body, closing, closes, place, read⟩ := closing_of_find ended
    have split : source = body ++ (openTag ++ closing) ++ found.after.rest := read.rest
    have behind : found.after.offset = (body ++ (openTag ++ closing)).length := by
      simpa [Cursor.start] using read.offset
    have front : found.body = body.length := by simpa [Cursor.start] using place
    refine ⟨?_, ?_, ?_, closing, closes, ?_⟩
    · simp [front, behind, openTag]
    · simp [split, behind]
    · rw [behind, split, List.drop_left]
    · rw [front, behind, split, List.take_left, List.drop_left]
  · intro loader options body template compiled
    have tree := (compileAt_eq_ok_iff.mp compiled).1
    exact find_of_derived tree.derived 0 key 0

theorem find_exact_nested :
    let loader := Registry.load ⟨[("item", valueSource "name" true)]⟩
    let body := [openBrace, closeBrace, openBrace, 0x20] ++
      blockSource .inverted "list" (valueSource "name" false) ++ inclusionSource "item"
    let closing := [0x20] ++ slashMark :: ([0x0a] ++ Bytes.ofText "list" ++ [0x09] ++ closeTag 2)
    let source := body ++ (openTag ++ closing) ++ closingSource "row"
    let found : BlockEnd :=
      ⟨body.length, ⟨(body ++ (openTag ++ closing)).length, closingSource "row"⟩⟩
    (∃ template, Template.compile loader {} body = .ok template) ∧
      BlockEnd.find "list" 0 (.start source) = .ok found ∧
      (∃ form, ClosingForm "list" form ∧
        (source.take found.after.offset).drop found.body = openTag ++ form) ∧
      BlockEnd.find "row" 0 (.start source) = .error (.mismatchedClose "row" "list") ∧
      BlockEnd.find "list" 0 (.start body) = .error (.unterminatedBlock "list") := by
  intro loader body closing source found
  have compiles : (Template.compile loader {} body).toOption.isSome = true := by decide +kernel
  obtain ⟨template, compiled⟩ : ∃ template, Template.compile loader {} body = .ok template := by
    cases outcome : Template.compile loader {} body with
    | error error => simp [outcome, Except.toOption] at compiles
    | ok template => exact ⟨template, rfl⟩
  have apart : EndsApart body := by decide +kernel
  have padded : Padded isKeyByte isKeyByte (Bytes.ofText "list")
      ([0x0a] ++ Bytes.ofText "list" ++ [0x09]) := by
    refine .mk ?_ ?_ ?_
    · simp [Blanks, isBlank]
    · exact ⟨by decide, by decide +kernel⟩
    · simp [Blanks, isBlank]
  have closes : ClosingForm "list" closing := .mk (by simp [Blanks, isBlank]) padded
  obtain ⟨ends, closings, lacks⟩ := find_exact "list"
  have ended := ends loader {} body template compiled apart "list" closing closes
    (closingSource "row")
  rw [if_pos rfl] at ended
  have refused := (find_exact "row").1 loader {} body template compiled apart "list" closing closes
    (closingSource "row")
  rw [if_neg (by decide)] at refused
  obtain ⟨-, -, -, stands⟩ := closings source found ended
  exact ⟨⟨template, compiled⟩, ended, stands, refused, lacks loader {} body template compiled⟩

end Mustache.Proofs.Grammar
