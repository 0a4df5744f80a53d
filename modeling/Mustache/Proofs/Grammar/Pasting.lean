import Mustache.Loader
import Mustache.Proofs.Grammar.Concatenation
import Mustache.Template.Printer

/-!
# Partials and their text

A source in which a partial is included means what it means with the partial's text instead. The tag
may stand in the body of a block, so it is searched for along the derivation of the whole source:
the pieces of a source that cannot hold the tag (`Shut`) lie in front of it or behind it, and where
it lies in a body the search goes on there (`Derives.located`).
-/

namespace Mustache.Proofs.Grammar
open Cursor

variable {loader : Loader} {options : Options}

/-- No partial is included from within a piece, whatever follows. -/
def Shut (piece : Bytes) : Prop :=
  ∀ ⦃rest before behind : Bytes⦄, piece ++ rest = before ++ (openTag ++ angleMark :: behind) →
    ∃ between, before = piece ++ between ∧ rest = between ++ (openTag ++ angleMark :: behind)

theorem Shut.append {left right : Bytes} (first : Shut left) (second : Shut right) :
    Shut (left ++ right) := by
  intro rest before behind split
  rw [List.append_assoc] at split
  obtain ⟨between, rfl, later⟩ := first split
  obtain ⟨between, rfl, last⟩ := second later
  exact ⟨between, (List.append_assoc ..).symm, last⟩

theorem Shut.cons {b : UInt8} {piece : Bytes} (shut : Shut piece)
    (other : ∀ {rest behind}, b :: (piece ++ rest) ≠ openTag ++ angleMark :: behind) :
    Shut (b :: piece) := by
  intro rest before behind split
  cases before with
  | nil => exact absurd split other
  | cons b' before =>
    obtain ⟨rfl, same⟩ := List.cons.inj split
    obtain ⟨between, rfl, later⟩ := shut same
    exact ⟨between, rfl, later⟩

theorem shut_text {text : Bytes} (plain : Plain text) (apart : EndsApart text) : Shut text := by
  induction text with
  | nil =>
    intro rest before behind split
    exact ⟨before, rfl, split⟩
  | cons b text ih =>
    obtain ⟨lone, plain⟩ := plain_cons_iff.mp plain
    cases text with
    | nil =>
      refine Shut.cons (ih plain endsApart_nil) ?_
      intro rest behind same
      exact apart (congrArg some (List.cons.inj same).1)
    | cons b' text =>
      refine Shut.cons (ih plain (endsApart_cons.mp apart)) ?_
      intro rest behind same
      obtain ⟨first, later⟩ := List.cons.inj same
      exact lone ⟨first, congrArg some (List.cons.inj later).1⟩

theorem not_mem_marked {first later : UInt8 → Bool} (classes : NameClass first later)
    {before name inner : Bytes} {mark : UInt8} (blanks : Blanks before) (other : openBrace ≠ mark)
    (padded : Padded first later name inner) (braces : Nat) :
    openBrace ∉ before ++ mark :: (inner ++ closeTag braces) := by
  rw [List.mem_append, List.mem_cons, not_or, not_or]
  refine ⟨?_, other, not_mem_padded classes padded braces⟩
  intro member
  cases blanks _ member

theorem TagForm.plain {tag : Tag} {form : Bytes} (spelled : TagForm tag form) : Plain form := by
  cases spelled with
  | value padded => exact plain_of_not_mem (not_mem_padded nameClass_key padded 2)
  | @raw before key inner blanks padded =>
    have absent : openBrace ∉ before := by
      intro member
      cases blanks _ member
    have closed := not_mem_padded nameClass_key padded 3
    refine (plain_of_not_mem absent).append ?_ ((endsApart_of_not_mem absent).seam _)
    refine plain_cons_iff.mpr ⟨?_, plain_of_not_mem closed⟩
    intro ⟨_, next⟩
    exact closed (List.mem_of_mem_head? next)
  | @opening polarity before key inner blanks padded =>
    have other : openBrace ≠ blockMark polarity := by cases polarity <;> decide
    exact plain_of_not_mem (not_mem_marked nameClass_key blanks other padded 2)
  | inclusion blanks padded =>
    exact plain_of_not_mem (not_mem_marked nameClass_path blanks (by decide) padded 2)

theorem TagForm.unique {tag tag' : Tag} {form form' rest rest' : Bytes}
    (spelled : TagForm tag form) (spelled' : TagForm tag' form')
    (same : form ++ rest = form' ++ rest') : tag = tag' ∧ form = form' ∧ rest = rest' := by
  have read := read_of_form spelled (consumes_mk 0 form rest)
  rw [same, read_of_form spelled' (consumes_mk 0 form' rest')] at read
  simp only [Except.ok.injEq, Prod.mk.injEq, Cursor.mk.injEq] at read
  obtain ⟨rfl, -, rfl⟩ := read
  exact ⟨rfl, List.append_cancel_right same, rfl⟩

theorem TagForm.ne_braced {tag : Tag} {form rest behind : Bytes} (spelled : TagForm tag form) :
    form ++ rest ≠ openBrace :: angleMark :: behind := by
  intro same
  have read := read_of_form spelled (consumes_mk 0 form rest)
  rw [same] at read
  cases read

theorem TagForm.inclusion_of_angle {tag : Tag} {form rest behind : Bytes}
    (spelled : TagForm tag form) (same : form ++ rest = angleMark :: behind) :
    ∃ path, tag = .inclusion path := by
  have read := read_of_form spelled (consumes_mk 0 form rest)
  rw [same] at read
  obtain ⟨path, -, rfl⟩ := tag_named_ok_iff.mp read
  exact ⟨path, rfl⟩

theorem shut_behind {tag : Tag} {form : Bytes} (spelled : TagForm tag form) :
    Shut (openBrace :: form) := by
  refine (shut_text spelled.plain spelled.endsApart).cons ?_
  intro rest behind same
  exact spelled.ne_braced (List.cons.inj same).2

theorem shut_tag {tag : Tag} {form : Bytes} (spelled : TagForm tag form)
    (other : ∀ path, tag ≠ .inclusion path) : Shut (openTag ++ form) := by
  refine Shut.cons (shut_behind spelled) ?_
  intro rest behind same
  have later := (List.cons.inj same).2
  obtain ⟨path, equal⟩ := spelled.inclusion_of_angle (List.cons.inj later).2
  exact other path equal

theorem ClosingForm.marker {key : String} {form : Bytes} (spelled : ClosingForm key form)
    (rest : Bytes) : ∃ behind, marker? ⟨0, form ++ rest⟩ = some (slashMark, behind) := by
  obtain @⟨before, key, inner, blanks, padded⟩ := spelled
  have visible : isBlank slashMark = false := rfl
  obtain ⟨behind, marked, -⟩ := marker_of_blanks blanks visible (consumes_mk 0 _ rest)
  exact ⟨behind, marked⟩

theorem ClosingForm.plain {key : String} {form : Bytes} (spelled : ClosingForm key form) :
    Plain form := by
  obtain ⟨blanks, padded⟩ := spelled
  exact plain_of_not_mem (not_mem_marked nameClass_closing blanks (by decide) padded 2)

theorem shut_closing {key : String} {form : Bytes} (spelled : ClosingForm key form) :
    Shut (openTag ++ form) := by
  have behind : Shut (openBrace :: form) := by
    refine (shut_text spelled.plain spelled.endsApart).cons ?_
    intro rest behind same
    obtain ⟨next, marked⟩ := spelled.marker rest
    rw [(List.cons.inj same).2] at marked
    cases marked
  refine behind.cons ?_
  intro rest behind same
  have later : form ++ rest = angleMark :: behind := (List.cons.inj (List.cons.inj same).2).2
  obtain ⟨next, marked⟩ := spelled.marker rest
  rw [later] at marked
  cases marked

structure Pasted (loader : Loader) (options : Options) (start : Nat) (before pasted behind : Bytes)
    (tokens : List Token) : Prop where
  apart : EndsApart before
  derived : Seam pasted behind → ∃ tokens',
    Derives loader options start (before ++ pasted ++ behind) tokens' ∧ Replaces tokens' tokens

theorem Pasted.prepend {start : Nat} {front before pasted behind : Bytes} {token : Token}
    {tokens : List Token}
    (later : Pasted loader options (start + front.length) before pasted behind tokens)
    (apart : EndsApart front) (first : Derives loader options start front [token]) :
    Pasted loader options start (front ++ before) pasted behind (token :: tokens) := by
  refine ⟨apart.append later.apart, fun seam => ?_⟩
  obtain ⟨tokens', derived, replaces⟩ := later.derived seam
  refine ⟨splice [token] tokens', ?_, ?_⟩
  · rw [List.append_assoc front, List.append_assoc front]
    exact first.append derived (apart.seam _)
  · exact (replaces_splice _ _).trans (.append (.refl [token]) replaces)

theorem replaces_inclusion (path : String) (inner : Template) :
    Replaces inner.tokens [.inclusion path inner] := by
  obtain ⟨source, tokens, options⟩ := inner
  constructor
  · exact Nat.le_trans (Nat.le_succ _) (Nat.le_max_left _ _)
  · intro scope
    exact (Rendering.append_write_nil _).symm

theorem replaces_block (polarity : Polarity) (key : String) (inner inner' : Template)
    (replaces : Replaces inner.tokens inner'.tokens) :
    Replaces [.block polarity key inner] [.block polarity key inner'] := by
  constructor
  · exact max_le_max (Nat.succ_le_succ replaces.depth_le) (Nat.le_refl _)
  · intro scope
    cases polarity with
    | positive => simp only [Token.walkAll, Token.walk, replaces.walk_eq]
    | inverted => simp only [Token.walkAll, Token.walk, replaces.walk_eq]

theorem pasted_here {start place : Nat} {source rest : Bytes} {path : String}
    {inner tokens : List Token} (nested : Derives loader options 0 source inner)
    (later : Derives loader options place rest tokens) :
    Pasted loader options start [] source rest
      (.inclusion path ⟨source, inner, options⟩ :: tokens) := by
  refine ⟨endsApart_nil, fun seam => ?_⟩
  obtain ⟨inner', here, same⟩ := nested.move start
  obtain ⟨tokens', there, same'⟩ := later.move (start + source.length)
  refine ⟨splice inner' tokens', here.append there seam, ?_⟩
  have both := (same.trans (replaces_inclusion path ⟨source, inner, options⟩)).append same'
  exact (replaces_splice inner' tokens').trans both

theorem Pasted.block {start place : Nat} {polarity : Polarity} {key : String}
    {opening before pasted behind closing rest body : Bytes} {inner tokens : List Token}
    (within : Pasted loader options 0 before pasted behind inner)
    (spelled : TagForm (.opening polarity key) opening) (closes : ClosingForm key closing)
    (apart : EndsApart behind) (later : Derives loader options place rest tokens) :
    Pasted loader options start (openTag ++ opening ++ before) pasted
      (behind ++ (openTag ++ closing ++ rest))
      (.block polarity key ⟨body, inner, options⟩ :: tokens) := by
  refine ⟨spelled.endsApart_tag.append within.apart, fun seam => ?_⟩
  have closed : EndsApart (before ++ pasted ++ behind) := by
    by_cases last : behind = []
    · subst last
      rw [List.nil_append, List.append_assoc] at seam
      rw [List.append_nil]
      exact within.apart.append seam.endsApart
    · exact (endsApart_append last).mpr apart
  obtain ⟨inner', derived, same⟩ := within.derived seam.of_append_right
  obtain ⟨tokens', there, same'⟩ := later.move (start + _)
  have whole := Derives.block spelled derived closed closes there
  refine ⟨_, by simpa only [List.append_assoc] using whole, ?_⟩
  exact (replaces_block polarity key ⟨_, inner', options⟩ ⟨body, inner, options⟩ same).append same'

/-! ## The place of a partial -/

def Located (loader : Loader) (options : Options) (path source : Bytes) (start : Nat)
    (whole outer before behind : Bytes) (tokens : List Token) : Prop :=
  (∃ between, before = whole ++ between ∧
      outer = between ++ (openTag ++ angleMark :: (path ++ closeTag 2 ++ behind))) ∨
    ∃ rest, behind = rest ++ outer ∧ Pasted loader options start before source rest tokens

variable {path source : Bytes}

theorem Located.prepend {start : Nat} {front rest outer before behind : Bytes} {token : Token}
    {tokens : List Token}
    (located : Located loader options path source (start + front.length) rest outer before behind
      tokens)
    (apart : EndsApart front) (first : Derives loader options start front [token]) :
    Located loader options path source start (front ++ rest) outer (front ++ before) behind
      (token :: tokens) := by
  rcases located with ⟨between, rfl, split⟩ | ⟨later, rfl, pasted⟩
  · exact .inl ⟨between, (List.append_assoc ..).symm, split⟩
  · exact .inr ⟨later, rfl, pasted.prepend apart first⟩

theorem bare_inclusion (isPath : IsName isPathByte isPathByte path) :
    TagForm (.inclusion (nameText path)) (angleMark :: (path ++ closeTag 2)) := by
  have none : Blanks [] := nofun
  have bare : PaddedPath path ([] ++ path ++ []) := .mk none isPath none
  rw [List.append_nil] at bare
  exact .inclusion none bare

theorem inclusion_split (isPath : IsName isPathByte isPathByte path) {path' : String}
    {tag rest before behind : Bytes} (spelled : TagForm (.inclusion path') tag)
    (split : openTag ++ tag ++ rest =
      before ++ (openTag ++ angleMark :: (path ++ closeTag 2 ++ behind))) :
    (∃ between, before = openTag ++ tag ++ between ∧
        rest = between ++ (openTag ++ angleMark :: (path ++ closeTag 2 ++ behind))) ∨
      before = [] ∧ path' = nameText path ∧ rest = behind := by
  cases before with
  | nil =>
    have same : tag ++ rest = angleMark :: (path ++ closeTag 2) ++ behind := by
      simpa [openTag] using split
    obtain ⟨paths, rfl, rfl⟩ := spelled.unique (bare_inclusion isPath) same
    exact .inr ⟨rfl, Tag.inclusion.inj paths, rfl⟩
  | cons b before =>
    obtain ⟨rfl, later⟩ := List.cons.inj split
    obtain ⟨between, rfl, split'⟩ := shut_behind spelled later
    exact .inl ⟨between, rfl, split'⟩

theorem Derives.located (isPath : IsName isPathByte isPathByte path)
    (loaded : loader (nameText path) = .ok source) {start : Nat} {whole : Bytes}
    {tokens : List Token} (derived : Derives loader options start whole tokens)
    {outer before behind : Bytes} (closed : outer ≠ [] → EndsApart whole)
    (split : whole ++ outer =
      before ++ (openTag ++ angleMark :: (path ++ closeTag 2 ++ behind))) :
    Located loader options path source start whole outer before behind tokens := by
  -- Where the search has gone into a body, `outer` is what stands behind that body.
  induction derived generalizing outer before behind with
  | done => exact .inl ⟨before, rfl, split⟩
  | @literal start text rest tokens filled plain apart first later ih =>
    have follows : rest ++ outer ≠ [] := by
      intro last
      rw [List.append_assoc, last, List.append_nil] at split
      rw [split] at plain
      exact not_plain_openTag before _ plain
    have apart : EndsApart text := by
      by_cases last : rest = []
      · subst last
        rw [List.append_nil] at closed
        exact closed follows
      · exact apart last
    rw [List.append_assoc] at split
    obtain ⟨between, rfl, split'⟩ := shut_text plain apart split
    have located := ih (fun more => (closed more).of_append) split'
    exact located.prepend apart (derives_text filled plain start)
  | @value start tag rest key escaped tokens spelled later ih =>
    rw [List.append_assoc (openTag ++ tag)] at split
    obtain ⟨between, rfl, split'⟩ := shut_tag spelled nofun split
    have located := ih (fun more => (closed more).of_append) split'
    exact located.prepend spelled.endsApart_tag (derives_value spelled start)
  | @block start opening body closing rest polarity key inner tokens spelled nested apart closes
      later nestedIh ih =>
    have parts : openTag ++ opening ++ (body ++ (openTag ++ closing ++ (rest ++ outer))) =
        before ++ (openTag ++ angleMark :: (path ++ closeTag 2 ++ behind)) := by
      rw [← split]
      simp only [List.append_assoc]
    obtain ⟨within, rfl, place⟩ := shut_tag spelled nofun parts
    rcases nestedIh (fun _ => apart) place with ⟨after, rfl, behind⟩ | ⟨last, rfl, pasted⟩
    · -- Behind the body there is still the closing tag to pass.
      obtain ⟨between, rfl, split'⟩ := shut_closing closes behind
      have located := ih (fun more => (closed more).of_append) split'
      have block := derives_block spelled nested apart closes start
      simpa only [List.append_assoc] using located.prepend (closes.endsApart_tag _) block
    · have body' : body = within ++ (openTag ++ angleMark :: (path ++ closeTag 2)) ++ last := by
        apply List.append_cancel_right (place.trans _)
        simp only [List.append_assoc, List.cons_append]
      rw [body'] at apart
      refine .inr ⟨last ++ (openTag ++ closing ++ rest), by simp only [List.append_assoc], ?_⟩
      exact pasted.block spelled closes apart.of_append later
  | @inclusion start tag rest path' source' inner tokens spelled inside loaded' nested later
      nestedIh ih =>
    rw [List.append_assoc (openTag ++ tag)] at split
    rcases inclusion_split isPath spelled split with ⟨between, rfl, split'⟩ | ⟨rfl, paths, rfl⟩
    · have located := ih (fun more => (closed more).of_append) split'
      have inclusion := derives_inclusion spelled inside loaded' nested start
      exact located.prepend spelled.endsApart_tag inclusion
    · rw [paths, loaded] at loaded'
      cases loaded'
      exact .inr ⟨rest, rfl, pasted_here nested later⟩

/-- Including a partial is the same as having its text in place of the tag. -/
theorem render_pasted {before behind : Bytes} {template : Template}
    (isPath : IsName isPathByte isPathByte path) (loaded : loader (nameText path) = .ok source)
    (compiled : Template.compile loader options
      (before ++ tagSource (angleMark :: path) ++ behind) = .ok template)
    (seam : Seam source behind) :
    ∃ pasted, Template.compile loader options (before ++ source ++ behind) = .ok pasted ∧
      ∀ data, pasted.render data = template.render data := by
  obtain ⟨tree, shallow⟩ := compileAt_eq_ok_iff.mp compiled
  obtain ⟨tokens, rfl, derived⟩ := tree.eq_mk
  have split : before ++ tagSource (angleMark :: path) ++ behind ++ [] =
      before ++ (openTag ++ angleMark :: (path ++ closeTag 2 ++ behind)) := by
    simp [tagSource, openTag, closeTag]
  rcases derived.located isPath loaded (absurd rfl) split with ⟨between, -, nothing⟩ | found
  · have filled := congrArg List.length nothing
    simp [openTag] at filled
  · obtain ⟨rest, rfl, pasted⟩ := found
    rw [List.append_nil] at seam
    obtain ⟨tokens', derived', replaces⟩ := pasted.derived seam
    rw [List.append_nil]
    refine ⟨⟨before ++ source ++ rest, tokens', options⟩, ?_, fun data => ?_⟩
    · refine compileAt_eq_ok_iff.mpr ⟨⟨rfl, rfl, derived'⟩, ?_⟩
      exact Nat.lt_of_le_of_lt replaces.shallow shallow
    · exact Replaces.render_eq replaces data

theorem render_pasted_section :
    let source := Bytes.ofText "- " ++ valueSource "name" true
    let before := openingSource .positive "list"
    let behind := Bytes.ofText "; " ++ closingSource "list"
    let loader := Registry.load ⟨[("item", source)]⟩
    let template : Template := ⟨before ++ inclusionSource "item" ++ behind,
      [.block .positive "list" ⟨inclusionSource "item" ++ Bytes.ofText "; ",
        [.inclusion "item" ⟨source, [.literal 0 (Bytes.ofText "- "), .value "name" true], {}⟩,
          .literal 9 (Bytes.ofText "; ")], {}⟩], {}⟩
    ∃ pasted, Template.compile loader {} (before ++ source ++ behind) = .ok pasted ∧
      ∀ data, pasted.render data = template.render data := by
  intro source before behind loader template
  have isPath : IsName isPathByte isPathByte (Bytes.ofText "item") := by
    refine ⟨?_, ?_⟩ <;> decide +kernel
  have compiled : Template.compile loader {}
      (before ++ tagSource (angleMark :: Bytes.ofText "item") ++ behind) = .ok template := by
    decide +kernel
  have seam : Seam source behind := by decide +kernel
  exact render_pasted isPath (by decide +kernel) compiled seam

end Mustache.Proofs.Grammar
