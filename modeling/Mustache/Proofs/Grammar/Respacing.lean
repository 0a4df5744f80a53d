import Mustache.Proofs.Grammar.Division

/-!
# Blanks in tags

Blanks around the marks and names of tags mean nothing: a source that differs from a compiled one
only there compiles to the same tokens, up to the offsets of literals and the sources of bodies
(`compile_respaced`). The canonical source of a template is such a source, so it stands for the
template (`compile_print`).

`Respaced` lets any two bytes in a row be the braces of a tag, without regard to what the source
says there. That no tag is found in the wrong place is shown along the derivation of the source:
text and tags hold no opening braces but their own (`Respaced.behind_text`, `Respaced.behind_tag`).
Three braces are the one place where the braces of a tag could be mistaken, and there the tag is the
same either way.
-/

namespace Mustache.Proofs.Grammar
open Cursor

variable {loader : Loader} {options : Options}

inductive Respaced : Bytes → Bytes → Prop
  | done : Respaced [] []
  | byte {b : UInt8} {rest rest' : Bytes} : Respaced rest rest' →
      Respaced (b :: rest) (b :: rest')
  | tag {tag : Tag} {form form' rest rest' : Bytes} : TagForm tag form → TagForm tag form' →
      Respaced rest rest' → Respaced (openTag ++ form ++ rest) (openTag ++ form' ++ rest')
  | closing {key : String} {form form' rest rest' : Bytes} : ClosingForm key form →
      ClosingForm key form' → Respaced rest rest' →
      Respaced (openTag ++ form ++ rest) (openTag ++ form' ++ rest')

theorem Respaced.refl (bytes : Bytes) : Respaced bytes bytes := by
  induction bytes with
  | nil => exact .done
  | cons b bytes ih => exact .byte ih

theorem Respaced.append {left left' right right' : Bytes} (first : Respaced left left')
    (second : Respaced right right') : Respaced (left ++ right) (left' ++ right') := by
  induction first with
  | done => exact second
  | byte later ih => exact .byte ih
  | tag spelled spelled' later ih =>
    rw [List.append_assoc _ _ right, List.append_assoc _ _ right']
    exact .tag spelled spelled' ih
  | closing closes closes' later ih =>
    rw [List.append_assoc _ _ right, List.append_assoc _ _ right']
    exact .closing closes closes' ih

theorem Respaced.eq_nil_iff {bytes bytes' : Bytes} (respaced : Respaced bytes bytes') :
    bytes = [] ↔ bytes' = [] := by
  cases respaced with
  | done => rfl
  | byte | tag | closing => simp [openTag]

theorem Respaced.endsApart {bytes bytes' : Bytes} (respaced : Respaced bytes bytes')
    (apart : EndsApart bytes) : EndsApart bytes' := by
  induction respaced with
  | done => exact apart
  | @byte b rest rest' later ih =>
    by_cases last : rest' = []
    · rw [later.eq_nil_iff.mpr last] at apart
      rwa [last]
    · have front (bytes : Bytes) : b :: bytes = [b] ++ bytes := rfl
      rw [front, endsApart_append last]
      rw [front] at apart
      exact ih apart.of_append
  | tag spelled spelled' later ih => exact spelled'.endsApart_tag.append (ih apart.of_append)
  | closing closes closes' later ih =>
    have tag := closes'.endsApart_tag []
    exact EndsApart.append tag (ih apart.of_append)

theorem Respaced.behind_byte {b : UInt8} {rest whole : Bytes}
    (respaced : Respaced (b :: rest) whole) (unopened : ∀ form, b :: rest ≠ openTag ++ form) :
    ∃ rest', whole = b :: rest' ∧ Respaced rest rest' := by
  generalize split : b :: rest = source at respaced
  cases respaced with
  | done => cases split
  | byte later =>
    obtain ⟨rfl, rfl⟩ := List.cons.inj split
    exact ⟨_, rfl, later⟩
  | tag | closing => exact absurd (split.trans (List.append_assoc ..)) (unopened _)

theorem Respaced.behind_text {text rest whole : Bytes} (respaced : Respaced (text ++ rest) whole)
    (plain : Plain text) (seam : Seam text rest) :
    ∃ rest', whole = text ++ rest' ∧ Respaced rest rest' := by
  induction text generalizing whole with
  | nil => exact ⟨whole, rfl, respaced⟩
  | cons b text ih =>
    have unopened (form : Bytes) : b :: (text ++ rest) ≠ openTag ++ form :=
      not_opened [] (List.cons_ne_nil b text) plain seam
    obtain ⟨whole, rfl, later⟩ := respaced.behind_byte unopened
    have front : b :: text = [b] ++ text := rfl
    rw [front] at seam
    obtain ⟨rest', rfl, behind⟩ := ih later (plain_cons_iff.mp plain).2 seam.of_append_left
    exact ⟨rest', rfl, behind⟩

theorem ClosingForm.ne_brace {key : String} {form rest more : Bytes}
    (closes : ClosingForm key form) : form ++ rest ≠ openBrace :: more := by
  intro same
  obtain ⟨behind, marked⟩ := closes.marker rest
  rw [same] at marked
  cases marked

theorem TagForm.ne_closing {tag : Tag} {key : String} {form form' rest rest' : Bytes}
    (spelled : TagForm tag form) (closes : ClosingForm key form') :
    form ++ rest ≠ form' ++ rest' := by
  intro same
  have read := read_of_form spelled (consumes_mk 0 form rest)
  obtain ⟨behind, marked⟩ := closes.marker rest'
  rw [same, Tag.read, marked] at read
  cases read
  cases spelled

theorem TagForm.raw_of_brace {tag : Tag} {form rest more : Bytes} (spelled : TagForm tag form)
    (same : form ++ rest = openBrace :: more) :
    ∃ key inner, tag = .value (nameText key) false ∧ PaddedKey key inner ∧
      form = openBrace :: (inner ++ closeTag 3) ∧
      more = inner ++ closeTag 2 ++ closeBrace :: rest := by
  have member : openBrace ∈ form := by
    cases form with
    | nil => exact absurd rfl spelled.ne_nil
    | cons b form =>
      rw [(List.cons.inj same).1]
      exact List.mem_cons_self
  cases spelled with
  | value padded => exact absurd member (not_mem_padded nameClass_key padded 2)
  | @raw before key inner blanks padded =>
    cases before with
    | nil =>
      refine ⟨key, inner, rfl, padded, rfl, ?_⟩
      rw [← (List.cons.inj same).2]
      simp [closeTag]
    | cons b before =>
      have blank := blanks b List.mem_cons_self
      rw [(List.cons.inj same).1] at blank
      cases blank
  | @opening polarity before key inner blanks padded =>
    have other : openBrace ≠ blockMark polarity := by cases polarity <;> decide
    exact absurd member (not_mem_marked nameClass_key blanks other padded 2)
  | inclusion blanks padded =>
    exact absurd member (not_mem_marked nameClass_path blanks (by decide) padded 2)

theorem padded_of_value {key form : Bytes} (spelled : TagForm (.value (nameText key) true) form) :
    ∃ inner, PaddedKey key inner ∧ form = inner ++ closeTag 2 := by
  generalize named : Tag.value (nameText key) true = tag at spelled
  cases spelled with
  | @value key' inner padded =>
    rw [nameText_injective (Tag.value.inj named).1]
    exact ⟨inner, padded, rfl⟩
  | raw => cases (Tag.value.inj named).2
  | opening | inclusion => cases named

/-- The second brace of a tag is matched as a brace of the tag, or it is the third of a raw value
that is taken for a tag of its own. -/
theorem Respaced.behind_brace {tag : Tag} {form rest whole : Bytes}
    (respaced : Respaced (openBrace :: (form ++ rest)) whole) (spelled : TagForm tag form) :
    ∃ form' rest', whole = openBrace :: (form' ++ rest') ∧ TagForm tag form' ∧
      Respaced rest rest' := by
  generalize split : openBrace :: (form ++ rest) = source at respaced
  cases respaced with
  | done => cases split
  | byte later =>
    obtain ⟨rfl, rfl⟩ := List.cons.inj split
    obtain ⟨rest', rfl, behind⟩ := later.behind_text spelled.plain (spelled.endsApart.seam rest)
    exact ⟨form, rest', rfl, spelled, behind⟩
  | @tag inside form₁ form₁' rest₁ rest₁' spelled₁ spelled₁' later =>
    -- Blanks change in the tag of the last two of three braces, so that is a raw value.
    have third : form ++ rest = openBrace :: (form₁ ++ rest₁) := (List.cons.inj split).2
    obtain ⟨key, inner, rfl, padded, rfl, same⟩ := spelled.raw_of_brace third
    obtain ⟨rfl, rfl, rfl⟩ := spelled₁.unique (.value padded) same
    have brace (form : Bytes) : closeBrace :: rest ≠ openTag ++ form := by
      intro opened
      cases opened
    obtain ⟨rest', rfl, behind⟩ := later.behind_byte brace
    obtain ⟨inner', padded', rfl⟩ := padded_of_value spelled₁'
    have none : Blanks [] := nofun
    refine ⟨_, rest', ?_, .raw none padded', behind⟩
    simp [openTag, closeTag]
  | @closing key form₁ form₁' rest₁ rest₁' closes₁ closes₁' later =>
    have third : form ++ rest = openBrace :: (form₁ ++ rest₁) := (List.cons.inj split).2
    obtain ⟨key, inner, rfl, padded, rfl, same⟩ := spelled.raw_of_brace third
    exact absurd same.symm ((TagForm.value padded).ne_closing closes₁)

theorem Respaced.behind_tag {tag : Tag} {form rest whole : Bytes}
    (respaced : Respaced (openTag ++ form ++ rest) whole) (spelled : TagForm tag form) :
    ∃ form' rest', whole = openTag ++ form' ++ rest' ∧ TagForm tag form' ∧
      Respaced rest rest' := by
  generalize split : openTag ++ form ++ rest = source at respaced
  cases respaced with
  | done => cases split
  | byte later =>
    obtain ⟨rfl, rfl⟩ := List.cons.inj split
    obtain ⟨form', rest', rfl, spelled', behind⟩ := Respaced.behind_brace later spelled
    exact ⟨form', rest', rfl, spelled', behind⟩
  | tag spelled₁ spelled₁' later =>
    rw [List.append_assoc, List.append_assoc, List.append_cancel_left_eq] at split
    obtain ⟨rfl, rfl, rfl⟩ := spelled.unique spelled₁ split
    exact ⟨_, _, rfl, spelled₁', later⟩
  | closing closes₁ closes₁' later =>
    rw [List.append_assoc, List.append_assoc, List.append_cancel_left_eq] at split
    exact absurd split (spelled.ne_closing closes₁)

theorem Respaced.behind_closing {key : String} {form rest whole : Bytes}
    (respaced : Respaced (openTag ++ form ++ rest) whole) (closes : ClosingForm key form) :
    ∃ form' rest', whole = openTag ++ form' ++ rest' ∧ ClosingForm key form' ∧
      Respaced rest rest' := by
  generalize split : openTag ++ form ++ rest = source at respaced
  cases respaced with
  | done => cases split
  | byte later =>
    obtain ⟨rfl, rfl⟩ := List.cons.inj split
    have unopened (more : Bytes) : openBrace :: (form ++ rest) ≠ openTag ++ more := by
      intro opened
      exact closes.ne_brace (List.cons.inj opened).2
    obtain ⟨whole, rfl, text⟩ := Respaced.behind_byte later unopened
    obtain ⟨rest', rfl, behind⟩ :=
      Respaced.behind_text text closes.plain (closes.endsApart.seam rest)
    exact ⟨form, rest', rfl, closes, behind⟩
  | tag spelled₁ spelled₁' later =>
    rw [List.append_assoc, List.append_assoc, List.append_cancel_left_eq] at split
    exact absurd split.symm (spelled₁.ne_closing closes)
  | closing closes₁ closes₁' later =>
    rw [List.append_assoc, List.append_assoc, List.append_cancel_left_eq] at split
    obtain ⟨rfl, rfl, rfl⟩ := closes.unique closes₁ split
    exact ⟨_, _, rfl, closes₁', later⟩

/-! ## The same tokens -/

inductive SameTokens : List Token → List Token → Prop
  | nil : SameTokens [] []
  | literal {start start' : Nat} {text : Bytes} {tokens tokens' : List Token} :
      SameTokens tokens tokens' →
      SameTokens (.literal start text :: tokens) (.literal start' text :: tokens')
  | value {key : String} {escaped : Bool} {tokens tokens' : List Token} :
      SameTokens tokens tokens' →
      SameTokens (.value key escaped :: tokens) (.value key escaped :: tokens')
  | block {polarity : Polarity} {key : String} {source source' : Bytes} {options : Options}
      {inner inner' tokens tokens' : List Token} : SameTokens inner inner' →
      SameTokens tokens tokens' →
      SameTokens (.block polarity key ⟨source, inner, options⟩ :: tokens)
        (.block polarity key ⟨source', inner', options⟩ :: tokens')
  | inclusion {path : String} {body : Template} {tokens tokens' : List Token} :
      SameTokens tokens tokens' →
      SameTokens (.inclusion path body :: tokens) (.inclusion path body :: tokens')

theorem SameTokens.printAll_eq {tokens tokens' : List Token} (same : SameTokens tokens tokens') :
    Token.printAll tokens = Token.printAll tokens' := by
  induction same with
  | nil => rfl
  | literal later ih | value later ih | inclusion later ih =>
    simp only [Token.printAll, Token.print, ih]
  | block nested later nestedIh ih =>
    simp only [Token.printAll, Token.print, Template.print, nestedIh, ih]

theorem SameTokens.depthAll_eq {tokens tokens' : List Token} (same : SameTokens tokens tokens') :
    Token.depthAll tokens = Token.depthAll tokens' := by
  induction same with
  | nil => rfl
  | literal later ih | value later ih | inclusion later ih =>
    simp only [Token.depthAll, Token.depth, ih]
  | block nested later nestedIh ih =>
    simp only [Token.depthAll, Token.depth, Template.depth, nestedIh, ih]

theorem SameTokens.walkAll_eq {tokens tokens' : List Token} (same : SameTokens tokens tokens') :
    Token.walkAll tokens = Token.walkAll tokens' := by
  induction same with
  | nil => rfl
  | literal later ih | value later ih | inclusion later ih =>
    funext scope
    simp only [Token.walkAll_cons, Token.walk, ih]
  | @block polarity key source source' options inner inner' tokens tokens' nested later nestedIh
      ih =>
    have body : Template.walk ⟨source, inner, options⟩ = Template.walk ⟨source', inner', options⟩ :=
      funext fun scope => congrFun nestedIh scope
    funext scope
    cases polarity <;> simp only [Token.walkAll_cons, Token.walk, body, ih]

theorem SameTokens.tagFirst {tokens tokens' : List Token} (same : SameTokens tokens tokens')
    (first : TagFirst tokens) : TagFirst tokens' := by
  cases same with
  | literal => exact first
  | nil | value | block | inclusion => trivial

/-! ## Derivations -/

theorem Derives.respaced {start : Nat} {source : Bytes} {tokens : List Token}
    (derived : Derives loader options start source tokens) {outer whole : Bytes}
    (seam : Seam source outer) (respaced : Respaced (source ++ outer) whole) (start' : Nat) :
    ∃ source' outer' tokens', whole = source' ++ outer' ∧ Respaced source source' ∧
      Respaced outer outer' ∧ Derives loader options start' source' tokens' ∧
      SameTokens tokens tokens' := by
  induction derived generalizing outer whole start' with
  | done => exact ⟨[], whole, [], rfl, .done, respaced, .done, .nil⟩
  | @literal start text rest tokens filled plain apart first later ih =>
    rw [List.append_assoc] at respaced
    obtain ⟨whole, rfl, behind⟩ := respaced.behind_text plain (seam.append_right apart)
    obtain ⟨rest', outer', tokens', rfl, rests, outers, derived', same⟩ :=
      ih seam.of_append_left behind (start' + text.length)
    have apart' (goesOn : rest' ≠ []) : EndsApart text := apart (rests.eq_nil_iff.not.mpr goesOn)
    refine ⟨text ++ rest', outer', .literal start' text :: tokens', (List.append_assoc ..).symm, ?_,
      outers, ?_, .literal same⟩
    · exact (Respaced.refl text).append rests
    · exact .literal filled plain apart' (same.tagFirst first) derived'
  | @value start tag rest key escaped tokens spelled later ih =>
    rw [List.append_assoc (openTag ++ tag)] at respaced
    obtain ⟨tag', whole, rfl, spelled', behind⟩ := respaced.behind_tag spelled
    obtain ⟨rest', outer', tokens', rfl, rests, outers, derived', same⟩ :=
      ih seam.of_append_left behind (start' + (openTag ++ tag').length)
    refine ⟨openTag ++ tag' ++ rest', outer', _, (List.append_assoc ..).symm, ?_, outers, ?_,
      .value same⟩
    · exact .tag spelled spelled' rests
    · exact .value spelled' derived'
  | @block start opening body closing rest polarity key inner tokens spelled nested apart closes
      later nestedIh ih =>
    simp only [List.append_assoc] at respaced
    rw [← List.append_assoc] at respaced
    obtain ⟨opening', whole, rfl, spelled', inside⟩ := respaced.behind_tag spelled
    obtain ⟨body', whole, inner', rfl, bodies, outside, nested', sameInner⟩ :=
      nestedIh (apart.seam _) inside 0
    rw [← List.append_assoc] at outside
    obtain ⟨closing', whole, rfl, closes', behind⟩ := outside.behind_closing closes
    obtain ⟨rest', outer', tokens', rfl, rests, outers, derived', same⟩ :=
      ih seam.of_append_left behind
        (start' + (openTag ++ opening' ++ body' ++ (openTag ++ closing')).length)
    refine ⟨openTag ++ opening' ++ body' ++ (openTag ++ closing') ++ rest', outer',
      .block polarity key ⟨body', inner', options⟩ :: tokens', ?_, ?_, outers, ?_,
      .block sameInner same⟩
    · simp only [List.append_assoc]
    · have block := Respaced.tag spelled spelled' (bodies.append (.closing closes closes' rests))
      simpa only [List.append_assoc] using block
    · exact .block spelled' nested' (bodies.endsApart apart) closes' derived'
  | @inclusion start tag rest path source inner tokens spelled inside loaded nested later nestedIh
      ih =>
    rw [List.append_assoc (openTag ++ tag)] at respaced
    obtain ⟨tag', whole, rfl, spelled', behind⟩ := respaced.behind_tag spelled
    obtain ⟨rest', outer', tokens', rfl, rests, outers, derived', same⟩ :=
      ih seam.of_append_left behind (start' + (openTag ++ tag').length)
    refine ⟨openTag ++ tag' ++ rest', outer', _, (List.append_assoc ..).symm, ?_, outers, ?_,
      .inclusion same⟩
    · exact .tag spelled spelled' rests
    · exact .inclusion spelled' inside loaded nested derived'

theorem compile_respaced {source source' : Bytes} {template : Template}
    (compiled : Template.compile loader options source = .ok template)
    (respaced : Respaced source source') :
    ∃ template', Template.compile loader options source' = .ok template' ∧
      SameTokens template.tokens template'.tokens ∧ template'.print = template.print ∧
      ∀ data, template'.render data = template.render data := by
  obtain ⟨tree, shallow⟩ := compileAt_eq_ok_iff.mp compiled
  obtain ⟨tokens, rfl, derived⟩ := tree.eq_mk
  rw [← List.append_nil source] at respaced
  obtain ⟨source', outer', tokens', rfl, -, nothing, derived', same⟩ :=
    derived.respaced (seam_of_apart (absurd rfl)) respaced 0
  rw [nothing.eq_nil_iff.mp rfl, List.append_nil]
  have tree' : TreeOf loader options source' ⟨source', tokens', options⟩ := ⟨rfl, rfl, derived'⟩
  refine ⟨_, compileAt_eq_ok_iff.mpr ⟨tree', ?_⟩, same,
    same.printAll_eq.symm, fun data => ?_⟩
  · rw [Template.depth, ← same.depthAll_eq]
    exact shallow
  · have walk : Template.walk ⟨source', tokens', options⟩ =
        Template.walk ⟨source, tokens, options⟩ :=
      funext fun scope => congrFun same.walkAll_eq.symm scope
    simp only [Template.render, walk]

theorem Derives.respaced_print {start : Nat} {source : Bytes} {tokens : List Token}
    (derived : Derives loader options start source tokens) :
    Respaced source (Token.printAll tokens) := by
  induction derived with
  | done => exact .done
  | literal filled plain apart first later ih => exact (Respaced.refl _).append ih
  | value spelled later ih =>
    obtain ⟨bare, written, spelled'⟩ := spelled.bare
    rw [Token.printAll, Token.print, ← canonicalTag, written]
    exact .tag spelled spelled' ih
  | block spelled nested apart closes later nestedIh ih =>
    obtain ⟨opening, written, spelled'⟩ := spelled.bare
    obtain ⟨closing, written', closes'⟩ := closes.bare
    have block := Respaced.tag spelled spelled' (nestedIh.append (.closing closes closes' ih))
    rw [Token.printAll, Token.print, blockSource, Template.print, ← canonicalTag, written, written']
    simpa only [List.append_assoc] using block
  | inclusion spelled inside loaded nested later nestedIh ih =>
    obtain ⟨bare, written, spelled'⟩ := spelled.bare
    rw [Token.printAll, Token.print, ← canonicalTag, written]
    exact .tag spelled spelled' ih

/-- A compiled source may be replaced by the canonical source of its template, which is its own
canonical source, and by any source with other blanks in its tags. -/
theorem compile_print (loader : Loader) (options : Options) {source : Bytes} {template : Template}
    (compiled : Template.compile loader options source = .ok template) :
    (∃ template', Template.compile loader options template.print = .ok template' ∧
      template'.print = template.print ∧ SameTokens template.tokens template'.tokens ∧
      ∀ data, template'.render data = template.render data) ∧
    ∀ source', Respaced source source' →
      ∃ template', Template.compile loader options source' = .ok template' ∧
        ∀ data, template'.render data = template.render data := by
  constructor
  · obtain ⟨tree, -⟩ := compileAt_eq_ok_iff.mp compiled
    obtain ⟨tokens, rfl, derived⟩ := tree.eq_mk
    obtain ⟨template', compiled', same, printed, rendered⟩ :=
      compile_respaced compiled derived.respaced_print
    exact ⟨template', compiled', printed, same, rendered⟩
  · intro source' respaced
    obtain ⟨template', compiled', -, -, rendered⟩ := compile_respaced compiled respaced
    exact ⟨template', compiled', rendered⟩

theorem compile_print_raw :
    let raw (blanks : Bytes) : Bytes := openTag ++
      (blanks ++ openBrace :: (blanks ++ Bytes.ofText "name" ++ blanks ++ closeTag 3))
    let list (item : Bytes) : Bytes :=
      openingSource .positive "list" ++ (item ++ closingSource "list")
    let template (item : Bytes) : Template :=
      ⟨list item, [.block .positive "list" ⟨item, [.value "name" false], {}⟩], {}⟩
    let loader : Loader := fun _ => .error .notFound
    let spaced := template (raw (Bytes.ofText " \n"))
    Template.compile loader {} spaced.source = .ok spaced ∧
      spaced.print = list (valueSource "name" false) ∧
      (∃ template', Template.compile loader {} spaced.print = .ok template' ∧
        template'.print = spaced.print ∧ SameTokens spaced.tokens template'.tokens ∧
        ∀ data, template'.render data = spaced.render data) ∧
      ∃ template', Template.compile loader {} (list (raw (Bytes.ofText "\t"))) = .ok template' ∧
        ∀ data, template'.render data = spaced.render data := by
  intro raw list template loader spaced
  have compiled : Template.compile loader {} spaced.source = .ok spaced := by decide +kernel
  have form (blanks : Bytes) (only : Blanks blanks) :
      TagForm (.value (nameText (Bytes.ofText "name")) false)
        (blanks ++ openBrace :: (blanks ++ Bytes.ofText "name" ++ blanks ++ closeTag 3)) := by
    have isName : IsName isKeyStart isKeyByte (Bytes.ofText "name") :=
      ⟨by decide +kernel, by decide +kernel⟩
    exact .raw only (.mk only isName only)
  have respaced : Respaced spaced.source (list (raw (Bytes.ofText "\t"))) := by
    have broad : Blanks (Bytes.ofText " \n") := by unfold Blanks; decide +kernel
    have narrow : Blanks (Bytes.ofText "\t") := by unfold Blanks; decide +kernel
    apply (Respaced.refl (openingSource .positive "list")).append
    exact .tag (form _ broad) (form _ narrow) (.refl _)
  obtain ⟨canonical, others⟩ := compile_print loader {} compiled
  exact ⟨compiled, by decide +kernel, canonical, others _ respaced⟩

end Mustache.Proofs.Grammar
