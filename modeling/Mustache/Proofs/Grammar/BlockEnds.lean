import Mustache.Proofs.Grammar.Tags

/-!
# The search for the end of a block

The search reads a body from outside, by other rules than those the body is compiled by. It is kept
in step with the grammar by one invariant: a derived source is passed over as a whole, at whatever
level the search stands (`Derives.passed`). Only a brace at the very end is open, since the search
takes it for a part of what follows.
-/

namespace Mustache.Proofs.Grammar
open Cursor

theorem find_eq (key : String) (inner : Nat) (c : Cursor) :
    BlockEnd.find key inner c =
      match c.nextTag? with
      | none => .error (.unterminatedBlock key)
      | some (body, behind) =>
        match behind.marker? with
        | none => .error (.unterminatedBlock key)
        | some (b, next) =>
          if b = hashMark ∨ b = caretMark then BlockEnd.find key (inner + 1) next
          else if b = slashMark then
            match BlockEnd.closingKey next with
            | .error .ended => .error (.unterminatedBlock key)
            | .error (.stray after) => BlockEnd.find key inner after
            | .ok (closed, after) =>
              match inner with
              | 0 =>
                if closed = key then .ok ⟨body, after⟩ else .error (.mismatchedClose key closed)
              | inner + 1 => BlockEnd.find key inner after
          else BlockEnd.find key inner next := by
  rw [BlockEnd.find]
  split
  · next found => rw [found]
  next body behind found =>
  rw [found]
  simp only
  split
  · next marked => rw [marked]
  next b next marked =>
  rw [marked]
  simp only
  split
  · rfl
  split
  · split
    · next closing => rw [closing]
    · next closing => rw [closing]
    · next closing =>
      cases inner with
      | zero => rw [closing]
      | succ inner => rw [closing]
  · rfl

theorem find_congr {c d : Cursor} (same : c.nextTag? = d.nextTag?) (key : String) (inner : Nat) :
    BlockEnd.find key inner c = BlockEnd.find key inner d := by
  rw [find_eq key inner c, find_eq key inner d, same]

theorem find_of_marker {c behind next : Cursor} {stop : Nat} {b : UInt8}
    (found : c.nextTag? = some (stop, behind)) (marked : behind.marker? = some (b, next))
    (block : ¬ (b = hashMark ∨ b = caretMark)) (slash : b ≠ slashMark) (key : String)
    (inner : Nat) :
    BlockEnd.find key inner c = BlockEnd.find key inner next := by
  rw [find_eq, found]
  simp only [marked]
  rw [if_neg block, if_neg slash]

theorem nextTag_of_openTag {c after : Cursor} {form : Bytes}
    (read : Consumes c (openTag ++ form) after) :
    ∃ behind, c.nextTag? = some (c.offset, behind) ∧ Consumes behind form after := by
  obtain ⟨behind, opens, rest⟩ := read.split
  exact ⟨behind, nextTag_eq_some_iff.mpr ⟨[], plain_nil, endsApart_nil, rfl, opens⟩, rest⟩

/-- The search goes on behind these bytes as if it started there. -/
def Passed (bytes : Bytes) : Prop :=
  ∀ {c after : Cursor}, Consumes c bytes after → ∀ (key : String) (inner : Nat),
    BlockEnd.find key inner c = BlockEnd.find key inner after

theorem Passed.nil : Passed [] := by
  intro c after read key inner
  rw [(Consumes.nil c).right_unique read]

theorem Passed.append {left right : Bytes} (first : Passed left) (second : Passed right) :
    Passed (left ++ right) := by
  intro c after read key inner
  obtain ⟨d, here, there⟩ := read.split
  rw [first here, second there]

theorem passed_text {text : Bytes} (plain : Plain text) (apart : EndsApart text) : Passed text := by
  intro c after read key inner
  refine find_congr ?_ key inner
  rw [nextTag?, nextTag?, read.rest, read.offset, seekFrom_text plain (.inl apart)]

theorem plain_of_not_mem {text : Bytes} (absent : openBrace ∉ text) : Plain text := by
  intro inside
  exact absent (inside.subset List.mem_cons_self)

theorem endsApart_of_not_mem {text : Bytes} (absent : openBrace ∉ text) : EndsApart text := by
  intro last
  exact absent (List.mem_of_getLast? last)

theorem passed_of_not_mem {text : Bytes} (absent : openBrace ∉ text) : Passed text :=
  passed_text (plain_of_not_mem absent) (endsApart_of_not_mem absent)

theorem not_mem_closeTag (braces : Nat) : openBrace ∉ closeTag braces := by
  intro member
  cases (List.mem_replicate.mp member).2

theorem not_mem_padded {first later : UInt8 → Bool} (classes : NameClass first later)
    {name inner : Bytes} (padded : Padded first later name inner) (braces : Nat) :
    openBrace ∉ inner ++ closeTag braces := by
  rw [List.mem_append, not_or]
  exact ⟨padded.not_mem_openBrace classes, not_mem_closeTag braces⟩

theorem passed_value {key : String} {escaped : Bool} {form : Bytes}
    (spelled : TagForm (.value key escaped) form) : Passed (openTag ++ form) := by
  intro c after read key inner
  obtain ⟨behind, found, rest⟩ := nextTag_of_openTag read
  cases spelled with
  | value padded =>
    obtain ⟨b, next, starts, marked, others, allowed, rest⟩ :=
      marker_of_padded nameClass_key padded rest
    have other (mark : UInt8) (reserved : isKeyStart mark = false) : b ≠ mark := by
      rintro rfl
      rw [reserved] at starts
      cases starts
    have absent : openBrace ∉ others ++ closeTag 2 := by
      rw [List.mem_append, not_or]
      refine ⟨fun member => ?_, not_mem_closeTag 2⟩
      rcases allowed _ member with name | blank <;> contradiction
    have block : ¬ (b = hashMark ∨ b = caretMark) := by
      rintro (mark | mark)
      · exact other hashMark rfl mark
      · exact other caretMark rfl mark
    rw [find_of_marker found marked block (other slashMark rfl), passed_of_not_mem absent rest]
  | raw blanks padded =>
    obtain ⟨next, marked, rest⟩ := marker_of_blanks blanks rfl rest
    rw [find_of_marker found marked (by decide) (by decide),
      passed_of_not_mem (not_mem_padded nameClass_key padded 3) rest]

theorem passed_inclusion {path : String} {form : Bytes} (spelled : TagForm (.inclusion path) form) :
    Passed (openTag ++ form) := by
  intro c after read key inner
  obtain ⟨behind, found, rest⟩ := nextTag_of_openTag read
  cases spelled with
  | inclusion blanks padded =>
    obtain ⟨next, marked, rest⟩ := marker_of_blanks blanks rfl rest
    rw [find_of_marker found marked (by decide) (by decide),
      passed_of_not_mem (not_mem_padded nameClass_path padded 2) rest]

theorem find_opening {polarity : Polarity} {opened : String} {form : Bytes}
    (spelled : TagForm (.opening polarity opened) form) {c after : Cursor}
    (read : Consumes c (openTag ++ form) after) (key : String) (inner : Nat) :
    BlockEnd.find key inner c = BlockEnd.find key (inner + 1) after := by
  obtain ⟨behind, found, rest⟩ := nextTag_of_openTag read
  cases spelled with
  | opening blanks padded =>
    have visible : isBlank (blockMark polarity) = false := by cases polarity <;> rfl
    have block : blockMark polarity = hashMark ∨ blockMark polarity = caretMark := by
      cases polarity
      · exact .inl rfl
      · exact .inr rfl
    obtain ⟨next, marked, rest⟩ := marker_of_blanks blanks visible rest
    rw [find_eq, found]
    simp only [marked]
    rw [if_pos block, passed_of_not_mem (not_mem_padded nameClass_key padded 2) rest]

theorem closing_steps {closed : String} {form : Bytes} (spelled : ClosingForm closed form)
    {c after : Cursor} (read : Consumes c (openTag ++ form) after) :
    ∃ behind next, c.nextTag? = some (c.offset, behind) ∧
      behind.marker? = some (slashMark, next) ∧ BlockEnd.closingKey next = .ok (closed, after) := by
  obtain ⟨behind, found, rest⟩ := nextTag_of_openTag read
  obtain ⟨blanks, padded⟩ := spelled
  obtain ⟨next, marked, rest⟩ := marker_of_blanks blanks rfl rest
  exact ⟨behind, next, found, marked, named_of_padded nameClass_closing padded rest⟩

theorem find_closing_inner {closed : String} {form : Bytes} (spelled : ClosingForm closed form)
    {c after : Cursor} (read : Consumes c (openTag ++ form) after) (key : String) (inner : Nat) :
    BlockEnd.find key (inner + 1) c = BlockEnd.find key inner after := by
  obtain ⟨behind, next, found, marked, closes⟩ := closing_steps spelled read
  rw [find_eq, found]
  simp only [marked, closes]
  rw [if_neg (by decide), if_pos trivial]

theorem find_closing {closed : String} {form : Bytes} (spelled : ClosingForm closed form)
    {c after : Cursor} (read : Consumes c (openTag ++ form) after) (key : String) :
    BlockEnd.find key 0 c =
      if closed = key then .ok ⟨c.offset, after⟩ else .error (.mismatchedClose key closed) := by
  obtain ⟨behind, next, found, marked, closes⟩ := closing_steps spelled read
  rw [find_eq, found]
  simp only [marked, closes]
  rw [if_neg (by decide), if_pos trivial]

theorem passed_block {polarity : Polarity} {opened closed : String} {opening body closing : Bytes}
    (opens : TagForm (.opening polarity opened) opening) (passed : Passed body)
    (closes : ClosingForm closed closing) :
    Passed (openTag ++ opening ++ body ++ (openTag ++ closing)) := by
  intro c after read key inner
  obtain ⟨d, read, last⟩ := read.split
  obtain ⟨e, first, middle⟩ := read.split
  rw [find_opening opens first, passed middle, find_closing_inner closes last]

/-! ## Derived sources -/

theorem endsApart_append {left right : Bytes} (filled : right ≠ []) :
    EndsApart (left ++ right) ↔ EndsApart right := by
  rw [EndsApart, EndsApart, List.getLast?_append, List.getLast?_eq_some_getLast filled,
    Option.some_or]

theorem endsApart_closeTag (left : Bytes) (n : Nat) : EndsApart (left ++ closeTag (n + 1)) := by
  rw [endsApart_append (by simp [closeTag])]
  exact endsApart_of_not_mem (not_mem_closeTag (n + 1))

theorem TagForm.endsApart {tag : Tag} {form : Bytes} (spelled : TagForm tag form) :
    EndsApart form := by
  cases spelled with
  | value padded => exact endsApart_closeTag _ 1
  | raw blanks padded =>
    rw [← List.cons_append, ← List.append_assoc]
    exact endsApart_closeTag _ 2
  | opening blanks padded =>
    rw [← List.cons_append, ← List.append_assoc]
    exact endsApart_closeTag _ 1
  | inclusion blanks padded =>
    rw [← List.cons_append, ← List.append_assoc]
    exact endsApart_closeTag _ 1

theorem TagForm.ne_nil {tag : Tag} {form : Bytes} (spelled : TagForm tag form) : form ≠ [] := by
  cases spelled <;> simp [closeTag]

theorem ClosingForm.ne_nil {key : String} {form : Bytes} (spelled : ClosingForm key form) :
    form ≠ [] := by
  obtain ⟨blanks, padded⟩ := spelled
  simp

theorem ClosingForm.endsApart {key : String} {form : Bytes} (spelled : ClosingForm key form) :
    EndsApart form := by
  obtain ⟨blanks, padded⟩ := spelled
  rw [← List.cons_append, ← List.append_assoc]
  exact endsApart_closeTag _ 1

theorem TagForm.endsApart_tag {tag : Tag} {form : Bytes} (spelled : TagForm tag form) :
    EndsApart (openTag ++ form) :=
  (endsApart_append spelled.ne_nil).mpr spelled.endsApart

theorem ClosingForm.endsApart_tag {key : String} {form : Bytes} (spelled : ClosingForm key form)
    (front : Bytes) : EndsApart (front ++ (openTag ++ form)) := by
  rw [← List.append_assoc]
  exact (endsApart_append spelled.ne_nil).mpr spelled.endsApart

theorem Plain.split_brace {text : Bytes} (plain : Plain text) :
    ∃ kept brace, text = kept ++ brace ∧ Plain kept ∧ EndsApart kept ∧
      (brace = [] ∨ brace = [openBrace]) := by
  by_cases apart : EndsApart text
  · exact ⟨text, [], (List.append_nil text).symm, plain, apart, .inl rfl⟩
  · obtain ⟨kept, rfl⟩ := List.getLast?_eq_some_iff.mp (Classical.not_not.mp apart)
    refine ⟨kept, [openBrace], rfl, ?_, ?_, .inr rfl⟩
    · intro inside
      exact plain (inside.trans (List.prefix_append kept _).isInfix)
    · intro last
      obtain ⟨front, rfl⟩ := List.getLast?_eq_some_iff.mp last
      refine not_plain_openTag front [] ?_
      rw [List.append_assoc] at plain
      exact plain

theorem Derives.passed {loader : Loader} {options : Options} {start : Nat} {source : Bytes}
    {tokens : List Token} (derived : Derives loader options start source tokens) :
    ∃ kept brace, source = kept ++ brace ∧ Passed kept ∧ EndsApart kept ∧
      (brace = [] ∨ brace = [openBrace]) := by
  -- Every case but text puts something in front that is passed over and ends in a closing brace.
  have prepend {front rest kept brace : Bytes} (first : Passed front) (apart : EndsApart front)
      (split : rest = kept ++ brace ∧ Passed kept ∧ EndsApart kept ∧
        (brace = [] ∨ brace = [openBrace])) :
      ∃ kept brace, front ++ rest = kept ++ brace ∧ Passed kept ∧ EndsApart kept ∧
        (brace = [] ∨ brace = [openBrace]) := by
    obtain ⟨rfl, passed, apart', last⟩ := split
    refine ⟨front ++ kept, brace, (List.append_assoc ..).symm, first.append passed, ?_, last⟩
    cases kept with
    | nil => rwa [List.append_nil]
    | cons b kept => exact (endsApart_append (List.cons_ne_nil b kept)).mpr apart'
  induction derived with
  | done => exact ⟨[], [], rfl, Passed.nil, endsApart_nil, .inl rfl⟩
  | @literal start text rest tokens filled plain apart first later ih =>
    by_cases last : rest = []
    · subst last
      obtain ⟨kept, brace, rfl, plain, apart, brace'⟩ := plain.split_brace
      exact ⟨kept, brace, List.append_nil _, passed_text plain apart, apart, brace'⟩
    · obtain ⟨kept, brace, split⟩ := ih
      exact prepend (passed_text plain (apart last)) (apart last) split
  | value spelled later ih =>
    obtain ⟨kept, brace, split⟩ := ih
    exact prepend (passed_value spelled) spelled.endsApart_tag split
  | @block start opening body closing rest polarity key inner tokens opens nested apart closes later
      nestedIh ih =>
    obtain ⟨kept, brace, split⟩ := ih
    obtain ⟨body, brace', rfl, passed, -, last⟩ := nestedIh
    have whole : brace' = [] := by
      rcases last with rfl | rfl
      · rfl
      · exact absurd List.getLast?_concat apart
    rw [whole, List.append_nil]
    exact prepend (passed_block opens passed closes) (closes.endsApart_tag _) split
  | inclusion spelled inside loaded nested later nestedIh ih =>
    obtain ⟨kept, brace, split⟩ := ih
    exact prepend (passed_inclusion spelled) spelled.endsApart_tag split

theorem Derives.passed_of_endsApart {loader : Loader} {options : Options} {start : Nat}
    {source : Bytes} {tokens : List Token} (derived : Derives loader options start source tokens)
    (apart : EndsApart source) : Passed source := by
  obtain ⟨kept, brace, rfl, passed, -, rfl | rfl⟩ := derived.passed
  · rwa [List.append_nil]
  · exact absurd List.getLast?_concat apart

theorem find_body {loader : Loader} {options : Options} {start : Nat} {body closing : Bytes}
    {inner : List Token} {closed : String} (derived : Derives loader options start body inner)
    (apart : EndsApart body) (closes : ClosingForm closed closing) {c after : Cursor}
    (read : Consumes c (body ++ (openTag ++ closing)) after) (key : String) :
    BlockEnd.find key 0 c = if closed = key then .ok ⟨c.offset + body.length, after⟩
      else .error (.mismatchedClose key closed) := by
  obtain ⟨d, first, last⟩ := read.split
  rw [derived.passed_of_endsApart apart first, find_closing closes last, first.offset]

theorem consumes_of_marker {c after : Cursor} {b : UInt8} (marked : c.marker? = some (b, after)) :
    ∃ bytes, Consumes c bytes after := by
  obtain ⟨before, -, -, read⟩ := marker_eq_some_iff.mp marked
  exact ⟨_, read⟩

theorem take_stray {p : UInt8 → Bool} {c after : Cursor}
    (stopped : c.take p = .error (.stray after)) :
    ∃ bytes, Consumes c bytes after := by
  unfold Cursor.take at stopped
  split at stopped
  · cases stopped
  · next b rest split =>
    split at stopped
    · cases stopped
    · cases stopped
      exact ⟨[b], split, rfl⟩

theorem takeBraces_stray {n : Nat} {c after : Cursor}
    (stopped : c.takeBraces n = .error (.stray after)) : ∃ bytes, Consumes c bytes after := by
  induction n generalizing c with
  | zero => cases stopped
  | succ n ih =>
    cases first : c.take (· == closeBrace) with
    | error stop =>
      have same : stop = .stray after := by
        simpa [takeBraces, first, bind, Except.bind] using stopped
      subst same
      exact take_stray first
    | ok d =>
      have later : d.takeBraces n = .error (.stray after) := by
        simpa [takeBraces, first, bind, Except.bind] using stopped
      obtain ⟨b, -, read⟩ := take_ok_iff.mp first
      obtain ⟨bytes, rest⟩ := ih later
      exact ⟨[b] ++ bytes, read.append rest⟩

theorem named_stray {first later : UInt8 → Bool} {braces : Nat} {c after : Cursor}
    (stopped : c.named first later braces = .error (.stray after)) :
    ∃ bytes, Consumes c bytes after := by
  obtain ⟨before, -, skipped, -⟩ := skipWhile_eq_iff.mp (rfl : c.skipWhile isBlank = _)
  unfold named at stopped
  cases head : (c.skipWhile isBlank).take first with
  | error stop =>
    have same : stop = .stray after := by simpa [head, bind, Except.bind] using stopped
    subst same
    obtain ⟨bytes, read⟩ := take_stray head
    exact ⟨before ++ bytes, skipped.append read⟩
  | ok d =>
    obtain ⟨b, -, taken⟩ := take_ok_iff.mp head
    obtain ⟨others, -, passed, -⟩ := skipWhile_eq_iff.mp (rfl : d.skipWhile later = _)
    obtain ⟨blanks, -, skipped', -⟩ :=
      skipWhile_eq_iff.mp (rfl : (d.skipWhile later).skipWhile isBlank = _)
    cases tail : ((d.skipWhile later).skipWhile isBlank).takeBraces braces with
    | error stop =>
      have same : stop = .stray after := by simpa [head, tail, bind, Except.bind] using stopped
      subst same
      obtain ⟨bytes, read⟩ := takeBraces_stray tail
      exact ⟨_, (((skipped.append taken).append passed).append skipped').append read⟩
    | ok behind => simp [head, tail, bind, Except.bind, pure, Except.pure] at stopped

theorem closing_of_find {key : String} {inner : Nat} {c : Cursor} {found : BlockEnd}
    (ended : BlockEnd.find key inner c = .ok found) :
    ∃ body closing, ClosingForm key closing ∧ found.body = c.offset + body.length ∧
      Consumes c (body ++ (openTag ++ closing)) found.after := by
  -- The search has gone on from `d`, some bytes further.
  have further {c d : Cursor} {bytes : Bytes} (read : Consumes c bytes d)
      (later : ∃ body closing, ClosingForm key closing ∧ found.body = d.offset + body.length ∧
        Consumes d (body ++ (openTag ++ closing)) found.after) :
      ∃ body closing, ClosingForm key closing ∧ found.body = c.offset + body.length ∧
        Consumes c (body ++ (openTag ++ closing)) found.after := by
    obtain ⟨body, closing, closes, place, rest⟩ := later
    refine ⟨bytes ++ body, closing, closes, ?_, ?_⟩
    · rw [place, read.offset, List.length_append, Nat.add_assoc]
    · rw [List.append_assoc]
      exact read.append rest
  fun_induction BlockEnd.find key inner c with
  | case1 | case2 | case4 | case7 => cases ended
  | case3 inner c body behind tag b next marked opens ih =>
    obtain ⟨text, -, -, -, before⟩ := nextTag_eq_some_iff.mp tag
    obtain ⟨mark, read⟩ := consumes_of_marker marked
    exact further (before.append read) (ih ended)
  | case5 inner c body behind tag next after closing marked plain ih =>
    obtain ⟨text, -, -, -, before⟩ := nextTag_eq_some_iff.mp tag
    obtain ⟨mark, read⟩ := consumes_of_marker marked
    obtain ⟨name, rest⟩ := named_stray closing
    exact further ((before.append read).append rest) (ih ended)
  | case6 c body behind tag next after marked plain closing =>
    cases ended
    obtain ⟨text, -, -, place, before⟩ := nextTag_eq_some_iff.mp tag
    obtain ⟨blanks, areBlanks, -, read⟩ := marker_eq_some_iff.mp marked
    obtain ⟨name, inner, padded, rfl, rest⟩ := padded_of_named closing
    refine ⟨text, _, .mk areBlanks padded, place, ?_⟩
    rw [List.append_cons, ← List.append_assoc, ← List.append_assoc]
    exact (before.append read).append rest
  | case8 c body behind tag next closed after closing inner marked plain ih =>
    obtain ⟨text, -, -, -, before⟩ := nextTag_eq_some_iff.mp tag
    obtain ⟨mark, read⟩ := consumes_of_marker marked
    obtain ⟨name, inner, -, -, rest⟩ := padded_of_named closing
    exact further ((before.append read).append rest) (ih ended)
  | case9 inner c body behind tag b next marked plain other ih =>
    obtain ⟨text, -, -, -, before⟩ := nextTag_eq_some_iff.mp tag
    obtain ⟨mark, read⟩ := consumes_of_marker marked
    exact further (before.append read) (ih ended)

theorem endsApart_of_find {loader : Loader} {options : Options} {start : Nat} {body closing : Bytes}
    {inner : List Token} {key : String} {c after : Cursor}
    (derived : Derives loader options start body inner)
    (ended : BlockEnd.find key 0 c = .ok ⟨c.offset + body.length, after⟩)
    (read : Consumes c (body ++ (openTag ++ closing)) after) : EndsApart body := by
  obtain ⟨kept, brace, rfl, passed, apart, rfl | rfl⟩ := derived.passed
  · rwa [List.append_nil]
  exfalso
  rw [List.append_assoc] at read
  obtain ⟨d, first, last⟩ := read.split
  have braces : Consumes d (openTag ++ openBrace :: closing) after := last
  obtain ⟨behind, found, rest⟩ := nextTag_of_openTag braces
  have none : Blanks [] := nofun
  obtain ⟨next, marked, -⟩ := marker_of_blanks none rfl rest
  rw [passed first, find_of_marker found marked (by decide) (by decide)] at ended
  obtain ⟨others, _, -, place, -⟩ := closing_of_find ended
  obtain ⟨text, -, -, start, opens⟩ := nextTag_eq_some_iff.mp found
  obtain ⟨blanks, -, -, mark⟩ := marker_eq_some_iff.mp marked
  have offsets := first.offset
  have opens := opens.offset
  have mark := mark.offset
  simp only [List.length_append, List.length_singleton] at place opens mark
  simp only [openTag, List.length_cons, List.length_nil] at opens
  omega

end Mustache.Proofs.Grammar
