import Mustache.Proofs.Grammar.Outlines

/-!
# Compiling is deriving

Compilation accepts exactly the sources of the grammar whose trees are no deeper than the options
allow, and gives the derived tree:

* `Derives.scans` (completeness): along a derivation, the outline of the source is found without a
  fault and its items compile to the tokens of the derivation, as long as the levels suffice.
* `Reads.of_scan` (soundness): every item of a faultless outline that compiles is a piece of a
  derivation. Bodies come from the search for the end of a block; that it stops where the grammar
  wants it to is `endsApart_of_find`.
* `TreeOf.inner`: a template in a tree is the tree of its own source.
-/

namespace Mustache.Proofs.Grammar
open Cursor

theorem mapM_ok_iff {ε α β : Type} {f : α → Except ε β} {xs : List α} {ys : List β} :
    xs.mapM f = .ok ys ↔ List.Forall₂ (fun x y => f x = .ok y) xs ys := by
  induction xs generalizing ys with
  | nil =>
    rw [List.mapM_nil, pure_eq_ok, List.forall₂_nil_left_iff, eq_comm]
  | cons x xs ih =>
    simp only [List.mapM_cons, bind_eq_ok, pure_eq_ok, List.forall₂_cons_left_iff, ih]
    constructor
    · intro ⟨y, first, ys, others, same⟩
      exact ⟨y, ys, first, others, same.symm⟩
    · intro ⟨y, ys, first, others, same⟩
      exact ⟨y, first, ys, others, same.symm⟩

abbrev compileAt (loader : Loader) (options : Options) (levels : Nat) (source : Bytes) :
    Except SyntaxError Template :=
  Template.compileAt (fun path => .ok (loader path)) options levels source

abbrev compileItem (loader : Loader) (options : Options) (levels : Nat) :
    Item → Except SyntaxError Token :=
  Item.compile (fun path => .ok (loader path)) (compileAt loader options levels)

abbrev Compiled (loader : Loader) (options : Options) (levels : Nat) :
    List Item → List Token → Prop :=
  List.Forall₂ fun item token => compileItem loader options levels item = .ok token

variable {loader : Loader} {options : Options} {levels : Nat}

theorem compileAt_ok_iff {source : Bytes} {template : Template} :
    compileAt loader options (levels + 1) source = .ok template ↔
      ∃ items tokens, Outline.ofSource source = ⟨items, none⟩ ∧
        Compiled loader options levels items tokens ∧ template = ⟨source, tokens, options⟩ := by
  simp only [compileAt, Template.compileAt, bind_eq_ok, mapM_ok_iff]
  obtain ⟨items, fault⟩ := Outline.ofSource source
  constructor
  · rintro ⟨tokens, compiled, result⟩
    cases fault with
    | some fault => cases result
    | none => exact ⟨items, tokens, rfl, compiled, (pure_eq_ok.mp result).symm⟩
  · rintro ⟨_, tokens, ⟨⟩, compiled, rfl⟩
    exact ⟨tokens, compiled, rfl⟩

theorem compileItem_block_iff {polarity : Polarity} {key : String} {body : Bytes} {token : Token} :
    compileItem loader options levels (.block polarity key body) = .ok token ↔
      ∃ inner, compileAt loader options levels body = .ok inner ∧
        token = .block polarity key inner := by
  simp only [compileItem, Item.compile, bind_eq_ok, pure_eq_ok, @eq_comm _ token]

theorem compileItem_inclusion_iff {path : String} {token : Token} :
    compileItem loader options levels (.inclusion path) = .ok token ↔
      Path.isInside path.toList = true ∧ ∃ source inner, loader path = .ok source ∧
        compileAt loader options levels source = .ok inner ∧ token = .inclusion path inner := by
  simp only [compileItem, Item.compile]
  split
  · next inside =>
    cases loaded : loader path with
    | error reason => simp [bind, Except.bind, throw, throwThe, MonadExceptOf.throw]
    | ok source =>
      cases compiled : compileAt loader options levels source with
      | error cause => simp [compiled, bind, Except.bind, tryCatch, tryCatchThe,
          MonadExceptOf.tryCatch, Except.tryCatch, throw, throwThe, MonadExceptOf.throw]
      | ok inner => simp [compiled, inside, bind, Except.bind, tryCatch, tryCatchThe,
          MonadExceptOf.tryCatch, Except.tryCatch, pure, Except.pure, eq_comm]
  · next outside => simp [outside, throw, throwThe, MonadExceptOf.throw]

/-! ## Completeness -/

theorem Derives.tokens_of_nil {start : Nat} {tokens : List Token}
    (derived : Derives loader options start [] tokens) : tokens = [] := by
  generalize empty : ([] : Bytes) = source at derived
  cases derived with
  | done => rfl
  | literal filled => exact absurd (List.append_eq_nil_iff.mp empty.symm).1 filled
  | value => cases empty
  | block => cases empty
  | inclusion => cases empty

theorem Derives.opens {start : Nat} {source : Bytes} {tokens : List Token}
    (derived : Derives loader options start source tokens) (first : TagFirst tokens)
    (filled : source ≠ []) : ∃ form, source = openTag ++ form := by
  cases derived with
  | done => exact absurd rfl filled
  | literal => exact first.elim
  | value => exact ⟨_, List.append_assoc ..⟩
  | @block _ opening body closing rest =>
    exact ⟨opening ++ (body ++ (openTag ++ (closing ++ rest))), by simp only [List.append_assoc]⟩
  | inclusion => exact ⟨_, List.append_assoc ..⟩

theorem text_of_ne_nil {text : Bytes} (filled : text ≠ []) (start : Nat) :
    Outline.text start text = [.literal start text] := by
  cases text with
  | nil => exact absurd rfl filled
  | cons b text => rfl

def Scans (loader : Loader) (options : Options) (start : Nat) (source : Bytes)
    (tokens : List Token) : Prop :=
  ∃ items, (∀ whole, Outline.scan whole ⟨start, source⟩ = ⟨items, none⟩) ∧
    ∀ levels, Token.depthAll tokens ≤ levels → Compiled loader options levels items tokens

theorem Scans.compileAt {source : Bytes} {tokens : List Token}
    (scans : Scans loader options 0 source tokens) (shallow : Token.depthAll tokens < levels) :
    compileAt loader options levels source = .ok ⟨source, tokens, options⟩ := by
  obtain ⟨items, scanned, compiled⟩ := scans
  cases levels with
  | zero => cases shallow
  | succ levels =>
    refine compileAt_ok_iff.mpr ⟨items, tokens, scanned source, compiled levels ?_, rfl⟩
    exact Nat.le_of_lt_succ shallow

theorem Scans.prepend {start : Nat} {front rest : Bytes} {token : Token} {tokens : List Token}
    (scans : Scans loader options (start + front.length) rest tokens) (item : Item)
    (scanned : ∀ whole, Outline.scan whole ⟨start, front ++ rest⟩ =
      (Outline.scan whole ⟨start + front.length, rest⟩).prepend [item])
    (compiled : ∀ levels, token.depth ≤ levels →
      compileItem loader options levels item = .ok token) :
    Scans loader options start (front ++ rest) (token :: tokens) := by
  obtain ⟨items, others, compiled'⟩ := scans
  refine ⟨item :: items, ?_, ?_⟩
  · intro whole
    rw [scanned, others]
    rfl
  · intro levels shallow
    obtain ⟨here, there⟩ := Nat.max_le.mp shallow
    exact .cons (compiled levels here) (compiled' levels there)

theorem Derives.scans {start : Nat} {source : Bytes} {tokens : List Token}
    (derived : Derives loader options start source tokens) :
    Scans loader options start source tokens := by
  induction derived with
  | @done start =>
    exact ⟨[], fun whole => scan_plain plain_nil, fun levels _ => .nil⟩
  | @literal start text rest tokens filled plain apart first later ih =>
    -- Text at the end may end in a brace, text in front of a tag may not.
    by_cases last : rest = []
    · subst last
      cases later.tokens_of_nil
      rw [List.append_nil]
      refine ⟨[.literal start text], fun whole => ?_, fun levels _ => .cons rfl .nil⟩
      rw [scan_plain plain, text_of_ne_nil filled]
    · obtain ⟨form, rfl⟩ := later.opens first last
      refine ih.prepend (.literal start text) (fun whole => ?_) (fun levels _ => rfl)
      rw [scan_text whole plain (apart last) (consumes_mk start text _)
        (consumes_mk _ openTag form), text_of_ne_nil filled]
  | @value start tag rest key escaped tokens spelled later ih =>
    refine ih.prepend (.value key escaped) (fun whole => ?_) (fun levels _ => rfl)
    obtain ⟨behind, opens, read⟩ := (consumes_mk start (openTag ++ tag) rest).split
    rw [scan_openTag whole opens, scanTag_value whole spelled read]
  | @block start opening body closing rest polarity key inner tokens spelled nested apart closes
      later nestedIh ih =>
    refine ih.prepend (.block polarity key body) (fun whole => ?_) (fun levels deep => ?_)
    · rw [List.append_assoc (openTag ++ opening)]
      obtain ⟨c, tag, block⟩ :=
        (consumes_mk start (openTag ++ opening ++ (body ++ (openTag ++ closing))) rest).split
      obtain ⟨behind, opens, read⟩ := tag.split
      have ended := find_body nested apart closes block key
      rw [if_pos rfl] at ended
      have stands : body <+: c.rest := by
        rw [block.rest, List.append_assoc]
        exact List.prefix_append body _
      rw [scan_openTag whole opens, scanTag_block whole spelled read ended stands]
    · exact compileItem_block_iff.mpr ⟨_, nestedIh.compileAt deep, rfl⟩
  | @inclusion start tag rest path source inner tokens spelled inside loaded nested later nestedIh
      ih =>
    refine ih.prepend (.inclusion (nameText path)) (fun whole => ?_) (fun levels deep => ?_)
    · obtain ⟨behind, opens, read⟩ := (consumes_mk start (openTag ++ tag) rest).split
      rw [scan_openTag whole opens, scanTag_inclusion whole spelled read]
    · exact compileItem_inclusion_iff.mpr
        ⟨relative_iff.mp inside, source, _, loaded, nestedIh.compileAt deep, rfl⟩

/-! ## Soundness -/

structure TreeOf (loader : Loader) (options : Options) (source : Bytes) (template : Template) :
    Prop where
  source_eq : template.source = source
  options_eq : template.options = options
  derived : Derives loader options 0 source template.tokens

theorem TreeOf.eq_mk {source : Bytes} {template : Template}
    (tree : TreeOf loader options source template) :
    ∃ tokens, template = ⟨source, tokens, options⟩ ∧ Derives loader options 0 source tokens := by
  obtain ⟨source', tokens, options'⟩ := template
  obtain ⟨rfl, rfl, derived⟩ := tree
  exact ⟨tokens, rfl, derived⟩

theorem prepend_eq_iff {front items : List Item} {outline : Outline} :
    outline.prepend front = ⟨items, none⟩ ↔
      ∃ others, outline = ⟨others, none⟩ ∧ items = front ++ others := by
  obtain ⟨others, fault⟩ := outline
  simp only [Outline.prepend, Outline.mk.injEq]
  constructor
  · rintro ⟨rfl, rfl⟩
    exact ⟨others, ⟨rfl, rfl⟩, rfl⟩
  · rintro ⟨_, ⟨rfl, rfl⟩, rfl⟩
    exact ⟨rfl, rfl⟩

def Nested (loader : Loader) (options : Options) (levels : Nat) : Prop :=
  ∀ {source : Bytes} {template : Template}, compileAt loader options levels source = .ok template →
    TreeOf loader options source template ∧ template.depth < levels

def Reads (loader : Loader) (options : Options) (levels : Nat) (c : Cursor) (tokens : List Token) :
    Prop :=
  Derives loader options c.offset c.rest tokens ∧ Token.depthAll tokens ≤ levels

theorem Reads.prepend {c after : Cursor} {front : Bytes} {token : Token} {tokens : List Token}
    (later : Reads loader options levels after tokens) (read : Consumes c front after)
    (shallow : token.depth ≤ levels)
    (derives : Derives loader options (c.offset + front.length) after.rest tokens →
      Derives loader options c.offset (front ++ after.rest) (token :: tokens)) :
    Reads loader options levels c (token :: tokens) := by
  refine ⟨?_, Nat.max_le.mpr ⟨shallow, later.2⟩⟩
  rw [read.rest]
  apply derives
  rw [← read.offset]
  exact later.1

theorem Reads.text {c after : Cursor} {text : Bytes} {items : List Item} {tokens : List Token}
    (read : Consumes c text after) (plain : Plain text) (apart : after.rest ≠ [] → EndsApart text)
    (compiled : Compiled loader options levels (Outline.text c.offset text ++ items) tokens)
    (later : ∀ {tokens}, Compiled loader options levels items tokens →
      TagFirst tokens ∧ Reads loader options levels after tokens) :
    Reads loader options levels c tokens := by
  by_cases filled : text = []
  · subst filled
    rw [(Consumes.nil c).right_unique read]
    exact (later compiled).2
  · rw [text_of_ne_nil filled] at compiled
    obtain _ | ⟨first, others⟩ := compiled
    obtain ⟨noText, rest⟩ := later others
    cases first
    exact rest.prepend read (Nat.zero_le _) (.literal filled plain apart noText)

theorem TagForm.path_eq {path : String} {form : Bytes} (spelled : TagForm (.inclusion path) form) :
    ∃ name, path = nameText name := by
  cases spelled with
  | inclusion => exact ⟨_, rfl⟩

theorem Consumes.shorter {c after : Cursor} {bytes : Bytes} (read : Consumes c bytes after)
    (filled : bytes ≠ []) : after.rest.length < c.rest.length := by
  rw [read.rest, List.length_append]
  have := List.length_pos_iff.mpr filled
  omega

structure Written (loader : Loader) (options : Options) (levels : Nat) (token : Token)
    (piece : Bytes) : Prop where
  filled : piece ≠ []
  endsApart : EndsApart piece
  shallow : token.depth ≤ levels
  tagFirst (tokens : List Token) : TagFirst (token :: tokens)
  cons {start : Nat} {rest : Bytes} {tokens : List Token} :
    Derives loader options (start + piece.length) rest tokens →
    Derives loader options start (piece ++ rest) (token :: tokens)

theorem Written.value {key : String} {escaped : Bool} {form : Bytes}
    (spelled : TagForm (.value key escaped) form) :
    Written loader options levels (.value key escaped) (openTag ++ form) where
  filled := by simp [openTag]
  endsApart := spelled.endsApart_tag
  shallow := Nat.zero_le _
  tagFirst _ := trivial
  cons := .value spelled

theorem Written.inclusion {path form source : Bytes} {inner : List Token}
    (spelled : TagForm (.inclusion (nameText path)) form) (inside : Relative path)
    (loaded : loader (nameText path) = .ok source) (nested : Derives loader options 0 source inner)
    (shallow : Token.depthAll inner < levels) :
    Written loader options levels (.inclusion (nameText path) ⟨source, inner, options⟩)
      (openTag ++ form) where
  filled := by simp [openTag]
  endsApart := spelled.endsApart_tag
  shallow := shallow
  tagFirst _ := trivial
  cons := .inclusion spelled inside loaded nested

theorem Written.block {polarity : Polarity} {key : String} {opening body closing : Bytes}
    {inner : List Token} (spelled : TagForm (.opening polarity key) opening)
    (nested : Derives loader options 0 body inner) (apart : EndsApart body)
    (closes : ClosingForm key closing) (shallow : Token.depthAll inner < levels) :
    Written loader options levels (.block polarity key ⟨body, inner, options⟩)
      (openTag ++ opening ++ body ++ (openTag ++ closing)) where
  filled := by simp [openTag]
  endsApart := closes.endsApart_tag _
  shallow := shallow
  tagFirst _ := trivial
  cons := .block spelled nested apart closes

theorem written_of_block (nested : Nested loader options levels) {c start after : Cursor}
    {polarity : Polarity} {key : String} {opening : Bytes} {stop : Nat} {token : Token}
    (spelled : TagForm (.opening polarity key) opening)
    (opens : Consumes c (openTag ++ opening) start)
    (ended : BlockEnd.find key 0 start = .ok ⟨stop, after⟩)
    (compiled : compileItem loader options levels (.block polarity key (start.upTo stop)) =
      .ok token) :
    ∃ piece, Consumes c piece after ∧ Written loader options levels token piece := by
  obtain ⟨body, closing, closes, rfl, block⟩ := closing_of_find ended
  obtain ⟨d, before, -⟩ := block.split
  obtain ⟨inner, compiledBody, rfl⟩ := compileItem_block_iff.mp compiled
  rw [← before.offset, before.upTo] at compiledBody
  obtain ⟨tree, shallow⟩ := nested compiledBody
  obtain ⟨tokens, rfl, derived⟩ := tree.eq_mk
  have apart := endsApart_of_find derived ended block
  have whole := opens.append block
  rw [← List.append_assoc] at whole
  exact ⟨_, whole, .block spelled derived apart closes shallow⟩

theorem written_of_item (nested : Nested loader options levels) {whole : Bytes}
    {c behind after : Cursor} {item : Item} {token : Token} (opens : Consumes c openTag behind)
    (found : itemAt whole behind = .ok (item, after))
    (compiled : compileItem loader options levels item = .ok token) :
    ∃ piece, Consumes c piece after ∧ Written loader options levels token piece := by
  unfold itemAt at found
  split at found
  · cases found
  · cases found
  · cases found
  · next key escaped after read =>
    cases found
    cases compiled
    obtain ⟨form, spelled, place⟩ := form_of_read read (by rintro ⟨⟩)
    exact ⟨_, opens.append place, .value spelled⟩
  · next path after read =>
    cases found
    obtain ⟨form, spelled, place⟩ := form_of_read read (by rintro ⟨⟩)
    obtain ⟨inside, source, inner, loaded, compiledBody, rfl⟩ :=
      compileItem_inclusion_iff.mp compiled
    obtain ⟨tree, shallow⟩ := nested compiledBody
    obtain ⟨tokens, rfl, derived⟩ := tree.eq_mk
    obtain ⟨name, rfl⟩ := spelled.path_eq
    have relative := relative_iff.mpr inside
    exact ⟨_, opens.append place, .inclusion spelled relative loaded derived shallow⟩
  · next polarity key start read =>
    obtain ⟨form, spelled, place⟩ := form_of_read read (by rintro ⟨⟩)
    cases ended : BlockEnd.find key 0 start with
    | error fault =>
      rw [ended] at found
      cases found
    | ok result =>
      rw [ended] at found
      cases found
      exact written_of_block nested spelled (opens.append place) ended compiled

theorem Reads.of_scanTag (nested : Nested loader options levels) {whole : Bytes}
    {c behind : Cursor} {items : List Item} {tokens : List Token}
    (opens : Consumes c openTag behind) (scanned : scanTag whole behind = ⟨items, none⟩)
    (compiled : Compiled loader options levels items tokens)
    (later : ∀ {after items tokens}, after.rest.length < c.rest.length →
      Outline.scan whole after = ⟨items, none⟩ → Compiled loader options levels items tokens →
      Reads loader options levels after tokens) :
    TagFirst tokens ∧ Reads loader options levels c tokens := by
  rw [scanTag_eq] at scanned
  split at scanned
  · cases scanned
  · next item after found =>
    obtain ⟨others, faultless, rfl⟩ := prepend_eq_iff.mp scanned
    obtain _ | ⟨first, compiled⟩ := compiled
    obtain ⟨piece, read, written⟩ := written_of_item nested opens found first
    have rest := later (read.shorter written.filled) faultless compiled
    exact ⟨written.tagFirst _, rest.prepend read written.shallow written.cons⟩

theorem Reads.of_scan (nested : Nested loader options levels) {whole : Bytes} {c : Cursor}
    {items : List Item} {tokens : List Token} (scanned : Outline.scan whole c = ⟨items, none⟩)
    (compiled : Compiled loader options levels items tokens) :
    Reads loader options levels c tokens := by
  induction size : c.rest.length using Nat.strong_induction_on generalizing c items tokens with
  | _ size ih =>
    subst size
    rw [scan_eq] at scanned
    split at scanned
    · next found =>
      cases scanned
      have plain := nextTag_eq_none_iff.mp found
      have read : Consumes c c.rest ⟨c.offset + c.rest.length, []⟩ := by
        exact ⟨(List.append_nil _).symm, rfl⟩
      rw [← List.append_nil (Outline.text _ _)] at compiled
      refine Reads.text read plain (absurd rfl) compiled (fun others => ?_)
      cases others
      exact ⟨trivial, .done, Nat.zero_le _⟩
    · next stop behind found =>
      obtain ⟨text, plain, apart, rfl, read⟩ := nextTag_eq_some_iff.mp found
      obtain ⟨d, before, opens⟩ := read.split
      rw [← before.offset, before.upTo] at scanned
      obtain ⟨items, faultless, rfl⟩ := prepend_eq_iff.mp scanned
      refine Reads.text before plain (fun _ => apart) compiled (fun others => ?_)
      refine Reads.of_scanTag nested opens faultless others (fun shorter scanned compiled => ?_)
      have bound : d.rest.length ≤ c.rest.length := by
        rw [before.rest, List.length_append]
        exact Nat.le_add_left _ _
      exact ih _ (Nat.lt_of_lt_of_le shorter bound) scanned compiled rfl

theorem nested_all (loader : Loader) (options : Options) (levels : Nat) :
    Nested loader options levels := by
  -- A source at one level is read with its bodies at the level below.
  induction levels with
  | zero =>
    intro source template compiled
    cases compiled
  | succ levels ih =>
    intro source template compiled
    obtain ⟨items, tokens, scanned, items', rfl⟩ := compileAt_ok_iff.mp compiled
    obtain ⟨derived, shallow⟩ := Reads.of_scan ih scanned items'
    exact ⟨⟨rfl, rfl, derived⟩, Nat.lt_succ_of_le shallow⟩

theorem compileAt_eq_ok_iff {source : Bytes} {template : Template} :
    compileAt loader options levels source = .ok template ↔
      TreeOf loader options source template ∧ template.depth < levels := by
  constructor
  · exact fun compiled => nested_all loader options levels compiled
  · intro ⟨tree, shallow⟩
    obtain ⟨tokens, rfl, derived⟩ := tree.eq_mk
    exact derived.scans.compileAt shallow

theorem TreeOf.unique {source : Bytes} {left right : Template}
    (first : TreeOf loader options source left) (second : TreeOf loader options source right) :
    left = right := by
  have deepest := Nat.lt_succ_of_le (Nat.le_max_left left.depth right.depth)
  have deepest' := Nat.lt_succ_of_le (Nat.le_max_right left.depth right.depth)
  have compiled := compileAt_eq_ok_iff.mpr ⟨first, deepest⟩
  rw [compileAt_eq_ok_iff.mpr ⟨second, deepest'⟩] at compiled
  exact (Except.ok.inj compiled).symm

/-- Compilation gives the tree that a source derives, where that is not too deep. -/
theorem compile_eq_ok_iff {source : Bytes} {template : Template} :
    Template.compile loader options source = .ok template ↔
      TreeOf loader options source template ∧ template.depth ≤ options.maxDepth := by
  rw [Template.compile, ← Nat.lt_succ_iff]
  exact compileAt_eq_ok_iff

theorem exists_mem_of_forall₂ {α β : Type} {R : α → β → Prop} {xs : List α} {ys : List β}
    (related : List.Forall₂ R xs ys) {y : β} (member : y ∈ ys) : ∃ x ∈ xs, R x y := by
  induction related with
  | nil => cases member
  | cons first others ih =>
    rcases List.mem_cons.mp member with rfl | behind
    · exact ⟨_, List.mem_cons_self, first⟩
    · obtain ⟨x, listed, holds⟩ := ih behind
      exact ⟨x, List.mem_cons_of_mem _ listed, holds⟩

theorem TreeOf.compiled {source : Bytes} {template : Template}
    (tree : TreeOf loader options source template) :
    ∃ items, Outline.ofSource source = ⟨items, none⟩ ∧
      Compiled loader options template.depth items template.tokens := by
  have whole := compileAt_eq_ok_iff.mpr ⟨tree, Nat.lt_succ_self template.depth⟩
  obtain ⟨items, tokens, scanned, compiled, rfl⟩ := compileAt_ok_iff.mp whole
  exact ⟨items, scanned, compiled⟩

theorem treeOf_of_compileAt {source : Bytes} {template : Template}
    (compiled : compileAt loader options levels source = .ok template) :
    TreeOf loader options template.source template := by
  have tree := (compileAt_eq_ok_iff.mp compiled).1
  exact tree.source_eq ▸ tree

theorem TreeOf.body {source : Bytes} {template body : Template} {token : Token}
    (tree : TreeOf loader options source template) (member : token ∈ template.tokens)
    (within : token.body? = some body) : TreeOf loader options body.source body := by
  obtain ⟨items, -, compiled⟩ := tree.compiled
  obtain ⟨item, -, made⟩ := exists_mem_of_forall₂ compiled member
  cases item with
  | literal | value =>
    cases made
    cases within
  | block polarity key content =>
    obtain ⟨inner, nested, rfl⟩ := compileItem_block_iff.mp made
    cases within
    exact treeOf_of_compileAt nested
  | inclusion path =>
    obtain ⟨-, content, inner, -, nested, rfl⟩ := compileItem_inclusion_iff.mp made
    cases within
    exact treeOf_of_compileAt nested

theorem TreeOf.loaded {source : Bytes} {template body : Template} {path : String}
    (tree : TreeOf loader options source template)
    (member : Token.inclusion path body ∈ template.tokens) : loader path = .ok body.source := by
  obtain ⟨items, -, compiled⟩ := tree.compiled
  obtain ⟨item, -, made⟩ := exists_mem_of_forall₂ compiled member
  cases item with
  | literal | value => cases made
  | block =>
    obtain ⟨inner, nested, same⟩ := compileItem_block_iff.mp made
    cases same
  | inclusion path =>
    obtain ⟨-, content, inner, loaded, nested, same⟩ := compileItem_inclusion_iff.mp made
    cases same
    rw [loaded, (compileAt_eq_ok_iff.mp nested).1.source_eq]

theorem TreeOf.included {source text : Bytes} {template body : Template} {path : String}
    (tree : TreeOf loader options source template)
    (member : Token.inclusion path body ∈ template.tokens) (loaded : loader path = .ok text) :
    TreeOf loader options text body := by
  have known := tree.loaded member
  rw [loaded, Except.ok.injEq] at known
  subst known
  exact tree.body member rfl

theorem TreeOf.inner {source : Bytes} {template inner : Template}
    (tree : TreeOf loader options source template) (member : inner ∈ template.all) :
    TreeOf loader options inner.source inner := by
  induction template using Template.induction generalizing source with
  | step template ih =>
    rcases Template.mem_all_iff.mp member with rfl | ⟨token, listed, body, within, deeper⟩
    · exact tree.source_eq ▸ tree
    · exact ih token listed body within (tree.body listed within) deeper

end Mustache.Proofs.Grammar
