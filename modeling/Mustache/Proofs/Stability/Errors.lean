import Mustache.Proofs.Grammar.Concatenation
import Mustache.Proofs.Stability.Lookahead
import Mustache.Template.Printer

/-!
# Errors and what stands behind them

The error of a source is that of the first tag that has one, in itself or in its body (`Fails`,
`compileAt_error_iff`). More bytes behind the source leave it as it is, unless it says that
something was still open at the end (`compile_error_append`). One error quotes what follows it: the
key of a closing tag without a block goes up to the next closing brace, and where there is none, up
to the end. Such a tag stands behind a source that compiles (`StrayClose`).
-/

namespace Mustache.Proofs.Stability
open Cursor Grammar

variable {loader : Loader} {options : Options} {levels : Nat} {more : Bytes}

/-- The tag behind a cursor, or a later one, has an error in itself or in its body. -/
inductive Fails (loader : Loader) (options : Options) (levels : Nat) (source : Bytes) :
    Cursor → SyntaxError → Prop
  | tag {c behind : Cursor} {stop : Nat} {error : SyntaxError} :
      c.nextTag? = some (stop, behind) → itemAt source behind = .error error →
      Fails loader options levels source c error
  | body {c behind after : Cursor} {stop : Nat} {item : Item} {error : SyntaxError} :
      c.nextTag? = some (stop, behind) → itemAt source behind = .ok (item, after) →
      compileItem loader options levels item = .error error →
      Fails loader options levels source c error
  | later {c behind after : Cursor} {stop : Nat} {item : Item} {token : Token}
      {error : SyntaxError} :
      c.nextTag? = some (stop, behind) → itemAt source behind = .ok (item, after) →
      compileItem loader options levels item = .ok token →
      Fails loader options levels source after error → Fails loader options levels source c error

def outcome (loader : Loader) (options : Options) (levels : Nat) (outline : Outline) :
    Except SyntaxError (List Token) := do
  let tokens ← outline.items.mapM (compileItem loader options levels)
  match outline.fault with
  | some fault => throw fault
  | none => return tokens

def textTokens (start : Nat) : Bytes → List Token
  | [] => []
  | text => [.literal start text]

theorem outcome_text_eq (start : Nat) (text : Bytes) (outline : Outline) :
    outcome loader options levels (outline.prepend (Outline.text start text)) =
      (outcome loader options levels outline).map (textTokens start text ++ ·) := by
  cases text with
  | nil =>
    change outcome loader options levels outline = (outcome loader options levels outline).map id
    cases outcome loader options levels outline <;> rfl
  | cons b text =>
    simp only [outcome, Outline.prepend, Outline.text, List.mapM_append]
    cases outline.items.mapM (compileItem loader options levels) with
    | error error => rfl
    | ok tokens => cases outline.fault <;> rfl

theorem outcome_item_eq (item : Item) (outline : Outline) :
    outcome loader options levels (outline.prepend [item]) =
      compileItem loader options levels item >>= fun token =>
        (outcome loader options levels outline).map (token :: ·) := by
  simp only [outcome, Outline.prepend, List.mapM_append, List.mapM_cons, List.mapM_nil]
  cases compileItem loader options levels item with
  | error error => rfl
  | ok token =>
    cases outline.items.mapM (compileItem loader options levels) with
    | error error => rfl
    | ok tokens => cases outline.fault <;> rfl

theorem outcome_text {start : Nat} {text : Bytes} {outline : Outline} {error : SyntaxError} :
    outcome loader options levels (outline.prepend (Outline.text start text)) = .error error ↔
      outcome loader options levels outline = .error error := by
  rw [outcome_text_eq]
  cases outcome loader options levels outline <;> simp [Except.map]

theorem outcome_item {item : Item} {outline : Outline} {error : SyntaxError} :
    outcome loader options levels (outline.prepend [item]) = .error error ↔
      compileItem loader options levels item = .error error ∨
        (∃ token, compileItem loader options levels item = .ok token) ∧
          outcome loader options levels outline = .error error := by
  rw [outcome_item_eq]
  cases compileItem loader options levels item <;>
    cases outcome loader options levels outline <;> simp [Except.map, bind, Except.bind]

theorem written_behind_text {source : Bytes} {c behind after : Cursor} {stop : Nat} {item : Item}
    {token : Token} (found : c.nextTag? = some (stop, behind))
    (here : itemAt source behind = .ok (item, after))
    (compiled : compileItem loader options levels item = .ok token) :
    ∃ text piece, Plain text ∧ EndsApart text ∧ Consumes c (text ++ piece) after ∧
      Written loader options levels token piece := by
  obtain ⟨text, plain, apart, -, read⟩ := nextTag_eq_some_iff.mp found
  obtain ⟨d, before, opens⟩ := read.split
  obtain ⟨piece, tag, written⟩ :=
    written_of_item (nested_all loader options levels) opens here compiled
  exact ⟨text, piece, plain, apart, before.append tag, written⟩

theorem outcome_scan {source : Bytes} {c behind : Cursor} {stop : Nat} {error : SyntaxError}
    (found : c.nextTag? = some (stop, behind)) :
    outcome loader options levels (Outline.scan source c) = .error error ↔
      itemAt source behind = .error error ∨ ∃ item after,
        itemAt source behind = .ok (item, after) ∧
          (compileItem loader options levels item = .error error ∨
            (∃ token, compileItem loader options levels item = .ok token) ∧
              outcome loader options levels (Outline.scan source after) = .error error) := by
  rw [scan_eq, found, outcome_text, scanTag_eq]
  cases itemAt source behind with
  | error fault => simp [outcome, pure, Except.pure, bind, Except.bind, throw, throwThe,
      MonadExceptOf.throw]
  | ok result =>
    obtain ⟨item, after⟩ := result
    simp [outcome_item]

theorem outcome_scan_plain {source : Bytes} {c : Cursor} {error : SyntaxError}
    (plain : c.nextTag? = none) :
    outcome loader options levels (Outline.scan source c) ≠ .error error := by
  intro failed
  rw [scan_eq, plain] at failed
  simp only at failed
  rw [← prepend_fault] at failed
  cases outcome_text.mp failed

theorem fails_of_outcome {source : Bytes} {c : Cursor} {error : SyntaxError}
    (failed : outcome loader options levels (Outline.scan source c) = .error error) :
    Fails loader options levels source c error := by
  induction size : c.rest.length using Nat.strong_induction_on generalizing c with
  | _ size ih =>
    subst size
    cases found : c.nextTag? with
    | none => exact absurd failed (outcome_scan_plain found)
    | some tag =>
      obtain ⟨stop, behind⟩ := tag
      rcases (outcome_scan found).mp failed with here | ⟨item, after, here, compiled⟩
      · exact .tag found here
      rcases compiled with inside | ⟨⟨token, compiled⟩, failed⟩
      · exact .body found here inside
      · obtain ⟨text, piece, -, -, read, written⟩ := written_behind_text found here compiled
        have shorter := read.shorter (List.append_ne_nil_of_right_ne_nil text written.filled)
        exact .later found here compiled (ih _ shorter failed rfl)

theorem Fails.outcome {source : Bytes} {c : Cursor} {error : SyntaxError}
    (failed : Fails loader options levels source c error) :
    outcome loader options levels (Outline.scan source c) = .error error := by
  induction failed with
  | tag found here => exact (outcome_scan found).mpr (.inl here)
  | body found here inside => exact (outcome_scan found).mpr (.inr ⟨_, _, here, .inl inside⟩)
  | later found here compiled later ih =>
    exact (outcome_scan found).mpr (.inr ⟨_, _, here, .inr ⟨⟨_, compiled⟩, ih⟩⟩)

theorem compileAt_succ {source : Bytes} :
    compileAt loader options (levels + 1) source =
      (outcome loader options levels (Outline.ofSource source)).map (⟨source, ·, options⟩) := by
  simp only [compileAt, Template.compileAt, outcome]
  cases (Outline.ofSource source).items.mapM (compileItem loader options levels) with
  | error error => rfl
  | ok tokens => cases (Outline.ofSource source).fault <;> rfl

theorem compileAt_error_outcome {source : Bytes} {error : SyntaxError} :
    compileAt loader options (levels + 1) source = .error error ↔
      outcome loader options levels (Outline.ofSource source) = .error error := by
  rw [compileAt_succ]
  cases outcome loader options levels (Outline.ofSource source) <;> simp [Except.map]

theorem compileAt_error_iff {source : Bytes} {error : SyntaxError} :
    compileAt loader options (levels + 1) source = .error error ↔
      Fails loader options levels source (.start source) error := by
  rw [compileAt_error_outcome]
  exact ⟨fails_of_outcome, Fails.outcome⟩

/-! ## More behind a source -/

structure StrayAt (loader : Loader) (options : Options) (levels : Nat) (c : Cursor)
    (front before rest : Bytes) : Prop where
  split : c.rest = front ++ (openTag ++ (before ++ slashMark :: rest))
  blanks : Blanks before
  apart : EndsApart front
  derived : ∃ tokens, Derives loader options c.offset front tokens ∧ Token.depthAll tokens ≤ levels

theorem derives_plain {text : Bytes} (plain : Plain text) (start : Nat) :
    ∃ tokens, Derives loader options start text tokens ∧ Token.depthAll tokens ≤ levels := by
  by_cases filled : text = []
  · subst filled
    exact ⟨[], .done, Nat.zero_le _⟩
  · exact ⟨[.literal start text], derives_text filled plain start, Nat.zero_le _⟩

theorem StrayAt.prepend {c after : Cursor} {text piece front before rest : Bytes} {token : Token}
    (stray : StrayAt loader options levels after front before rest) (plain : Plain text)
    (apart : EndsApart text) (read : Consumes c (text ++ piece) after)
    (written : Written loader options levels token piece) :
    StrayAt loader options levels c (text ++ piece ++ front) before rest := by
  obtain ⟨split, blanks, apart', tokens, derived, shallow⟩ := stray
  have ends : EndsApart (text ++ piece ++ front) := (apart.append written.endsApart).append apart'
  refine ⟨?_, blanks, ends, ?_⟩
  · rw [read.rest, split, List.append_assoc _ front]
  · rw [read.offset, List.length_append, ← Nat.add_assoc] at derived
    have tag := written.cons derived
    have deep : Token.depthAll (token :: tokens) ≤ levels :=
      Nat.max_le.mpr ⟨written.shallow, shallow⟩
    rw [List.append_assoc]
    by_cases filled : text = []
    · subst filled
      exact ⟨token :: tokens, tag, deep⟩
    · refine ⟨.literal c.offset text :: token :: tokens, ?_, ?_⟩
      · exact .literal filled plain (fun _ => apart) (written.tagFirst tokens) tag
      · exact Nat.max_le.mpr ⟨Nat.zero_le _, deep⟩

theorem Fails.extend {source : Bytes} {c : Cursor} {error : SyntaxError}
    (failed : Fails loader options levels source c error)
    (place : c.offset + c.rest.length = source.length) (more : Bytes) :
    error.wantsMore = true ∨ Fails loader options levels (source ++ more) (c.extend more) error ∨
      ∃ front before rest, StrayAt loader options levels c front before rest ∧
        closeBrace ∉ rest := by
  induction failed with
  | @tag c behind stop error found here =>
    obtain ⟨text, plain, apart, -, read⟩ := nextTag_eq_some_iff.mp found
    have inside := (consumes_place read).trans place
    rcases itemAt_error_extend inside here with cured | same | stray
    · exact .inl cured
    · exact .inr (.inl (.tag (nextTag_extend found) same))
    · obtain ⟨before, rest, blanks, split, unclosed⟩ := stray
      refine .inr (.inr ⟨text, before, rest, ⟨?_, blanks, apart, ?_⟩, unclosed⟩)
      · rw [read.rest, split, List.append_assoc]
      · exact derives_plain plain c.offset
  | body found here inside =>
    exact .inr (.inl (.body (nextTag_extend found) (itemAt_extend here) inside))
  | later found here compiled later ih =>
    obtain ⟨text, piece, plain, apart, read, written⟩ := written_behind_text found here compiled
    rcases ih ((consumes_place read).trans place) with cured | same | stray
    · exact .inl cured
    · exact .inr (.inl (.later (nextTag_extend found) (itemAt_extend here) compiled same))
    · obtain ⟨front, before, rest, stray, unclosed⟩ := stray
      exact .inr (.inr ⟨_, before, rest, stray.prepend plain apart read written, unclosed⟩)

theorem Fails.congr {source : Bytes} {c d : Cursor} {error : SyntaxError}
    (failed : Fails loader options levels source d error) (same : c.nextTag? = d.nextTag?) :
    Fails loader options levels source c error := by
  cases failed with
  | tag found here => exact .tag (same.trans found) here
  | body found here inside => exact .body (same.trans found) here inside
  | later found here compiled later => exact .later (same.trans found) here compiled later

theorem Fails.behind {source : Bytes} {c : Cursor} {error : SyntaxError}
    (faultless : ∀ error, ¬ Fails loader options levels source c error) (apart : EndsApart c.rest)
    (failed : Fails loader options levels (source ++ more) ⟨c.offset + c.rest.length, more⟩ error) :
    Fails loader options levels (source ++ more) (c.extend more) error := by
  -- On what is left of the source, in which every tag is read and every body compiles.
  induction size : c.rest.length using Nat.strong_induction_on generalizing c with
  | _ size ih =>
    subst size
    cases found : c.nextTag? with
    | none =>
      apply failed.congr
      have plain := nextTag_eq_none_iff.mp found
      rw [nextTag?, nextTag?, Cursor.extend, seekFrom_text plain (.inl apart)]
    | some tag =>
      obtain ⟨stop, behind⟩ := tag
      cases here : itemAt source behind with
      | error fault => exact absurd (.tag found here) (faultless fault)
      | ok result =>
        obtain ⟨item, after⟩ := result
        cases compiled : compileItem loader options levels item with
        | error fault => exact absurd (.body found here compiled) (faultless fault)
        | ok token =>
          obtain ⟨text, piece, -, -, read, written⟩ := written_behind_text found here compiled
          have shorter := read.shorter (List.append_ne_nil_of_right_ne_nil text written.filled)
          rw [read.rest] at apart
          rw [← consumes_place read] at failed
          have later := ih _ shorter
            (fun fault later => faultless fault (.later found here compiled later))
            apart.of_append failed rfl
          exact .later (nextTag_extend found) (itemAt_extend here) compiled later

theorem fails_slash {source before rest : Bytes} {c : Cursor} (blanks : Blanks before)
    (stands : c.rest = openTag ++ (before ++ slashMark :: rest)) :
    Fails loader options levels source c (.unexpectedClose (strayKey rest)) := by
  let after : Cursor := ⟨c.offset + (openTag ++ (before ++ [slashMark])).length, rest⟩
  have opens : Consumes c (openTag ++ (before ++ [slashMark])) after := by
    refine ⟨?_, rfl⟩
    simp [stands, after]
  obtain ⟨behind, found, slash⟩ := nextTag_of_openTag opens
  have here : itemAt source behind = .error (.unexpectedClose (strayKey after.rest)) :=
    itemAt_slash blanks slash
  exact .tag found here

/-- A source that goes wrong at a closing tag without a block, and the bytes behind the slash: all
that stands in front of the tag compiles. -/
structure StrayClose (loader : Loader) (options : Options) (source front before rest : Bytes) :
    Prop where
  split : source = front ++ (openTag ++ (before ++ slashMark :: rest))
  blanks : Blanks before
  apart : EndsApart front
  compiles : ∃ template, Template.compile loader options front = .ok template

theorem StrayClose.extend {source front before rest : Bytes}
    (stray : StrayClose loader options source front before rest) (more : Bytes) :
    StrayClose loader options (source ++ more) front before (rest ++ more) := by
  refine ⟨?_, stray.blanks, stray.apart, stray.compiles⟩
  simp [stray.split]

theorem StrayClose.compile {source front before rest : Bytes}
    (stray : StrayClose loader options source front before rest) :
    Template.compile loader options source = .error (.unexpectedClose (strayKey rest)) := by
  obtain ⟨rfl, blanks, apart, template, compiled⟩ := stray
  apply compileAt_error_iff.mpr
  have faultless (error : SyntaxError) :
      ¬ Fails loader options options.maxDepth front (.start front) error := by
    intro failed
    have refused : Template.compile loader options front = .error error :=
      compileAt_error_iff.mpr failed
    rw [compiled] at refused
    cases refused
  exact Fails.behind faultless apart (fails_slash blanks rfl)

theorem StrayAt.close {source front before rest : Bytes}
    (stray : StrayAt loader options options.maxDepth (.start source) front before rest) :
    StrayClose loader options source front before rest := by
  obtain ⟨split, blanks, apart, tokens, derived, shallow⟩ := stray
  have tree : TreeOf loader options front ⟨front, tokens, options⟩ := ⟨rfl, rfl, derived⟩
  exact ⟨split, blanks, apart, _, compileAt_eq_ok_iff.mpr ⟨tree, Nat.lt_succ_of_le shallow⟩⟩

theorem compile_error_extend {source : Bytes} {error : SyntaxError}
    (failed : Template.compile loader options source = .error error) (more : Bytes) :
    error.wantsMore = true ∨ Template.compile loader options (source ++ more) = .error error ∨
      ∃ front before rest, StrayClose loader options source front before rest ∧
        closeBrace ∉ rest := by
  have place : (Cursor.start source).offset + (Cursor.start source).rest.length = source.length :=
    Nat.zero_add _
  rcases (compileAt_error_iff.mp failed).extend place more with cured | same | stray
  · exact .inl cured
  · exact .inr (.inl (compileAt_error_iff.mpr same))
  · obtain ⟨front, before, rest, stray, unclosed⟩ := stray
    exact .inr (.inr ⟨front, before, rest, stray.close, unclosed⟩)

/-- Only errors of what was still open at the end of a source are cured by more bytes behind it.
The others stay as they are, up to the key of a closing tag that no closing brace follows. -/
theorem compile_error_append {source : Bytes} {error : SyntaxError}
    (failed : Template.compile loader options source = .error error) (suffix : Bytes) :
    (error.wantsMore = false → (∀ key, error ≠ .unexpectedClose key) →
      Template.compile loader options (source ++ suffix) = .error error) ∧
    (∀ key, error = .unexpectedClose key → ∃ key',
      Template.compile loader options (source ++ suffix) = .error (.unexpectedClose key') ∧
        (key' = key ∨ ∃ front before rest,
          StrayClose loader options source front before rest ∧ closeBrace ∉ rest)) ∧
    (∀ front before rest, StrayClose loader options source front before rest →
      error = .unexpectedClose (strayKey rest) ∧
        Template.compile loader options (source ++ suffix) =
          .error (.unexpectedClose (strayKey (rest ++ suffix))) ∧
        (closeBrace ∈ rest → Template.compile loader options (source ++ suffix) = .error error)) ∧
    ∀ template, Template.compile loader options (source ++ suffix) = .ok template →
      error.wantsMore = true := by
  have longer {front before rest : Bytes}
      (stray : StrayClose loader options source front before rest) :
      error = .unexpectedClose (strayKey rest) ∧
        Template.compile loader options (source ++ suffix) =
          .error (.unexpectedClose (strayKey (rest ++ suffix))) := by
    have known := stray.compile
    rw [failed] at known
    exact ⟨Except.error.inj known, (stray.extend suffix).compile⟩
  have outcomes := compile_error_extend failed suffix
  refine ⟨fun complete other => ?_, fun key named => ?_, fun front before rest stray => ?_,
    fun template compiled => ?_⟩
  · rcases outcomes with cured | same | ⟨front, before, rest, stray, -⟩
    · rw [complete] at cured
      cases cured
    · exact same
    · exact absurd (longer stray).1 (other _)
  · subst named
    rcases outcomes with cured | same | ⟨front, before, rest, stray, unclosed⟩
    · cases cured
    · exact ⟨key, same, .inl rfl⟩
    · exact ⟨_, (longer stray).2, .inr ⟨front, before, rest, stray, unclosed⟩⟩
  · obtain ⟨rfl, same⟩ := longer stray
    refine ⟨rfl, same, fun closed => ?_⟩
    rw [same, strayKey_append closed]
  · rcases outcomes with cured | same | ⟨front, before, rest, stray, -⟩
    · exact cured
    · rw [compiled] at same
      cases same
    · have same := (longer stray).2
      rw [compiled] at same
      cases same

theorem compile_error_append_close :
    let loader : Loader := fun _ => .error .notFound
    let list := openingSource .positive "list" ++ valueSource "name" true ++ closingSource "item"
    let front := blockSource .positive "list" (valueSource "name" true)
    let stray := front ++ (openTag ++ ([] ++ slashMark :: Bytes.ofText "it"))
    Template.compile loader {} list = .error (.mismatchedClose "list" "item") ∧
      Template.compile loader {} (list ++ closingSource "list") =
        .error (.mismatchedClose "list" "item") ∧
      Template.compile loader {} stray = .error (.unexpectedClose "it") ∧
      StrayClose loader {} stray front [] (Bytes.ofText "it") ∧
      Template.compile loader {} (stray ++ Bytes.ofText "em\x7d\x7d") =
        .error (.unexpectedClose (strayKey (Bytes.ofText "item\x7d\x7d"))) ∧
      strayKey (Bytes.ofText "item\x7d\x7d") = "item" := by
  intro loader list front stray
  have mismatched : Template.compile loader {} list = .error (.mismatchedClose "list" "item") := by
    decide +kernel
  have unopened : Template.compile loader {} stray = .error (.unexpectedClose "it") := by
    decide +kernel
  have compiled : Template.compile loader {} front = .ok ⟨front, [.block .positive "list"
      ⟨valueSource "name" true, [.value "name" true], {}⟩], {}⟩ := by
    decide +kernel
  have apart : EndsApart front := by decide +kernel
  have close : StrayClose loader {} stray front [] (Bytes.ofText "it") :=
    ⟨rfl, nofun, apart, _, compiled⟩
  obtain ⟨same, -⟩ := compile_error_append mismatched (closingSource "list")
  obtain ⟨-, -, named, -⟩ := compile_error_append unopened (Bytes.ofText "em\x7d\x7d")
  obtain ⟨-, longer, -⟩ := named front [] (Bytes.ofText "it") close
  exact ⟨mismatched, same rfl nofun, unopened, close, longer, by decide +kernel⟩

end Mustache.Proofs.Stability
