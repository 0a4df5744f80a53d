import Mustache.Proofs.Grammar.Division

/-!
# A source in two halves

Compilation is a homomorphism: where the first half of a source compiles and no tag comes about at
the seam, the source compiles exactly if the second half does, and its tokens are those of both
halves (`compile_append`). One way is `Derives.append`. The other way is that nothing in the first
half takes bytes from the second: a tag is told by its own bytes, and so is the end of a block
(`body_unique`), so the second half is what is left once the pieces of the first are taken off
(`Derives.behind`).

The output of an object is the output of both halves, too, as long as its adapter leaves the
successes and failures of its frame what they are (`Adapter.Candid`). That cannot be left out, and
the outputs have to be compared as bytes (`render_append_ne`).
-/

namespace Mustache

namespace Proofs.Grammar

variable {loader : Loader} {options : Options}

/-! ## What stands behind a piece -/

theorem Derives.behind_text {start : Nat} {text rest : Bytes} {tokens : List Token}
    (derived : Derives loader options start (text ++ rest) tokens) (plain : Plain text)
    (seam : Seam text rest) :
    ∃ others, Derives loader options (start + text.length) rest others := by
  by_cases filled : text = []
  · subst filled
    exact ⟨tokens, derived⟩
  have unopened (form : Bytes) : text ++ rest ≠ openTag ++ form :=
    not_opened [] filled plain seam
  generalize split : text ++ rest = source at derived
  cases derived with
  | done => exact absurd (List.append_eq_nil_iff.mp split).1 filled
  | @literal _ text' rest' tokens filled' plain' apart' first later =>
    rcases List.append_eq_append_iff.mp split with ⟨more, rfl, rfl⟩ | ⟨more, rfl, rfl⟩
    · -- The literal goes on behind the text.
      rw [List.length_append, ← Nat.add_assoc] at later
      by_cases whole : more = []
      · subst whole
        exact ⟨tokens, later⟩
      · refine ⟨_, .literal whole plain'.of_append_right ?_ first later⟩
        exact fun goesOn => (apart' goesOn).of_append
    · by_cases whole : more = []
      · subst whole
        rw [List.append_nil]
        exact ⟨tokens, later⟩
      · -- A tag would start within the text.
        obtain ⟨form, opens⟩ := later.opens first (List.append_ne_nil_of_left_ne_nil whole rest)
        exact absurd opens (not_opened text' whole plain seam.of_append_left)
  | value => exact absurd (split.trans (List.append_assoc ..)) (unopened _)
  | @block _ opening body closing rest' =>
    refine absurd (split.trans ?_) (unopened (opening ++ body ++ (openTag ++ closing) ++ rest'))
    simp only [List.append_assoc]
  | inclusion => exact absurd (split.trans (List.append_assoc ..)) (unopened _)

def Behind (loader : Loader) (options : Options) (place : Nat) (rest : Bytes) : Tag → Prop
  | .opening _ key => ∃ body closing behind inner others,
      rest = body ++ (openTag ++ closing) ++ behind ∧ Derives loader options 0 body inner ∧
        EndsApart body ∧ ClosingForm key closing ∧
        Derives loader options (place + (body ++ (openTag ++ closing)).length) behind others
  | _ => ∃ others, Derives loader options place rest others

theorem Derives.behind_tag {start : Nat} {tag : Tag} {form rest : Bytes} {tokens : List Token}
    (derived : Derives loader options start (openTag ++ form ++ rest) tokens)
    (spelled : TagForm tag form) :
    Behind loader options (start + (openTag ++ form).length) rest tag := by
  generalize split : openTag ++ form ++ rest = source at derived
  have unique {tag' : Tag} {form' rest' : Bytes} (spelled' : TagForm tag' form')
      (same : openTag ++ form ++ rest = openTag ++ form' ++ rest') :
      tag = tag' ∧ form = form' ∧ rest = rest' := by
    rw [List.append_assoc, List.append_assoc, List.append_cancel_left_eq] at same
    exact spelled.unique spelled' same
  cases derived with
  | done => cases split
  | literal filled plain apart first later =>
    have opens := split.symm.trans (List.append_assoc ..)
    exact absurd opens (not_opened [] filled plain (seam_of_apart apart))
  | value spelled' later =>
    obtain ⟨rfl, rfl, rfl⟩ := unique spelled' split
    exact ⟨_, later⟩
  | @block _ opening body closing behind polarity key inner others spelled' nested apart closes
      later =>
    rw [List.append_assoc (openTag ++ opening), List.append_assoc (openTag ++ opening)] at split
    obtain ⟨rfl, rfl, rfl⟩ := unique spelled' split
    refine ⟨body, closing, behind, inner, others, rfl, nested, apart, closes, ?_⟩
    rwa [List.append_assoc (openTag ++ form), List.length_append, ← Nat.add_assoc] at later
  | inclusion spelled' inside loaded nested later =>
    obtain ⟨rfl, rfl, rfl⟩ := unique spelled' split
    exact ⟨_, later⟩

theorem body_unique {key : String} {body closing rest body' closing' rest' : Bytes}
    {inner inner' : List Token} (nested : Derives loader options 0 body inner)
    (apart : EndsApart body) (closes : ClosingForm key closing)
    (nested' : Derives loader options 0 body' inner') (apart' : EndsApart body')
    (closes' : ClosingForm key closing')
    (same : body ++ (openTag ++ closing) ++ rest = body' ++ (openTag ++ closing') ++ rest') :
    body = body' ∧ closing = closing' ∧ rest = rest' := by
  have found := find_body nested apart closes (consumes_mk 0 _ rest) key
  have found' := find_body nested' apart' closes' (consumes_mk 0 _ rest') key
  rw [same, found', if_pos rfl, if_pos rfl] at found
  have lengths := Nat.add_left_cancel (BlockEnd.mk.inj (Except.ok.inj found)).1
  simp only [List.append_assoc] at same
  obtain ⟨rfl, behind⟩ := List.append_inj same lengths.symm
  rw [List.append_cancel_left_eq] at behind
  obtain ⟨-, rfl, rfl⟩ := closes.unique closes' behind
  exact ⟨rfl, rfl, rfl⟩

theorem Derives.behind {start : Nat} {left right : Bytes} {tokens whole : List Token}
    (first : Derives loader options start left tokens)
    (derived : Derives loader options start (left ++ right) whole) (seam : Seam left right) :
    ∃ others, Derives loader options (start + left.length) right others := by
  -- Both derivations start with the same piece, as long as any of the first half is left.
  induction first generalizing whole with
  | done => exact ⟨whole, derived⟩
  | @literal start text rest tokens filled plain apart first later ih =>
    rw [List.append_assoc] at derived
    obtain ⟨others, behind⟩ := derived.behind_text plain (seam.append_right apart)
    rw [List.length_append, ← Nat.add_assoc]
    exact ih behind seam.of_append_left
  | value spelled later ih =>
    rw [List.append_assoc] at derived
    obtain ⟨others, behind⟩ := derived.behind_tag spelled
    rw [List.length_append, ← Nat.add_assoc]
    exact ih behind seam.of_append_left
  | @block start opening body closing rest polarity key inner tokens spelled nested apart closes
      later nestedIh ih =>
    rw [List.append_assoc, List.append_assoc (openTag ++ opening),
      List.append_assoc (openTag ++ opening)] at derived
    obtain ⟨body', closing', behind, inner', others, split, nested', apart', closes', after⟩ :=
      derived.behind_tag spelled
    obtain ⟨rfl, rfl, rfl⟩ := body_unique nested apart closes nested' apart' closes' split
    rw [Nat.add_assoc, ← List.length_append, ← List.append_assoc] at after
    rw [List.length_append, ← Nat.add_assoc]
    exact ih after seam.of_append_left
  | inclusion spelled inside loaded nested later nestedIh ih =>
    rw [List.append_assoc] at derived
    obtain ⟨others, behind⟩ := derived.behind_tag spelled
    rw [List.length_append, ← Nat.add_assoc]
    exact ih behind seam.of_append_left

/-! ## Tokens of both halves -/

def joined (left right : List Token) : List Token :=
  match left.getLast?, right with
  | some (.literal start text), .literal _ more :: others =>
    left.dropLast ++ .literal start (text ++ more) :: others
  | _, _ => left ++ right

theorem joined_singleton (token : Token) (right : List Token) :
    joined [token] right = joinText token right := by
  cases token with
  | literal start text =>
    cases right with
    | nil => rfl
    | cons next others => cases next <;> rfl
  | value | block | inclusion => cases right <;> rfl

theorem joined_cons_cons (token next : Token) (left right : List Token) :
    joined (token :: next :: left) right = token :: joined (next :: left) right := by
  simp only [joined, List.getLast?_cons_cons, List.dropLast_cons_cons]
  split <;> rfl

theorem joinText_tag {token : Token} (tag : TagFirst [token]) (tokens : List Token) :
    joinText token tokens = token :: tokens := by
  cases token with
  | literal => exact tag.elim
  | value | block | inclusion => rfl

theorem tagFirst_joined {next : Token} (tag : TagFirst [next]) (left right : List Token) :
    TagFirst (joined (next :: left) right) := by
  have starts (tokens : List Token) : TagFirst (next :: tokens) := by cases next <;> exact tag
  cases left with
  | nil =>
    rw [joined_singleton, joinText_tag tag]
    exact starts right
  | cons token left =>
    rw [joined_cons_cons]
    exact starts _

theorem joinText_tagFirst {token : Token} {tokens : List Token} (first : TagFirst tokens) :
    joinText token tokens = token :: tokens := by
  cases tokens with
  | nil => cases token <;> rfl
  | cons next tokens =>
    cases next with
    | literal => exact first.elim
    | value | block | inclusion => cases token <;> rfl

theorem Derives.splice_eq {start : Nat} {source : Bytes} {tokens : List Token}
    (derived : Derives loader options start source tokens) (others : List Token) :
    splice tokens others = joined tokens others := by
  induction tokens generalizing start source with
  | nil => rfl
  | cons token tokens ih =>
    obtain ⟨piece, rest, -, -, -, first, later⟩ := derives_cons_iff.mp derived
    rw [splice, List.foldr_cons, ← splice, ih later]
    cases tokens with
    | nil => exact (joined_singleton token others).symm
    | cons next tokens =>
      rw [joined_cons_cons]
      rcases first with tag | noText
      · exact joinText_tag tag _
      · have tag : TagFirst [next] := by cases next <;> exact noText
        exact joinText_tagFirst (tagFirst_joined tag tokens others)

theorem TreeOf.append {left right : Bytes} {first second : Template}
    (tree : TreeOf loader options left first) (tree' : TreeOf loader options right second)
    (seam : Seam left right) :
    TreeOf loader options (left ++ right) ⟨left ++ right,
      joined first.tokens (second.tokens.map (shiftToken left.length)), options⟩ := by
  have both := tree.derived.append (tree'.derived.shift left.length) seam
  rw [tree.derived.splice_eq] at both
  exact ⟨rfl, rfl, both⟩

theorem TreeOf.behind {left right : Bytes} {first whole : Template}
    (tree : TreeOf loader options left first) (tree' : TreeOf loader options (left ++ right) whole)
    (seam : Seam left right) : ∃ second, TreeOf loader options right second := by
  obtain ⟨others, later⟩ := tree.derived.behind tree'.derived seam
  obtain ⟨base, derived, -⟩ := later.origin
  exact ⟨⟨right, base, options⟩, rfl, rfl, derived⟩

end Proofs.Grammar

end Mustache
