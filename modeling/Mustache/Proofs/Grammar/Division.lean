import Mustache.Proofs.Grammar.Pasting

namespace Mustache.Proofs.Grammar

variable {loader : Loader} {options : Options}

theorem ClosingForm.unique {key key' : String} {form form' rest rest' : Bytes}
    (spelled : ClosingForm key form) (spelled' : ClosingForm key' form')
    (same : form ++ rest = form' ++ rest') : key = key' ∧ form = form' ∧ rest = rest' := by
  obtain ⟨behind, next, found, marked, closes⟩ :=
    closing_steps spelled (consumes_mk 0 (openTag ++ form) rest)
  obtain ⟨behind', next', found', marked', closes'⟩ :=
    closing_steps spelled' (consumes_mk 0 (openTag ++ form') rest')
  rw [List.append_assoc, same, ← List.append_assoc] at found
  cases found.symm.trans found'
  cases marked.symm.trans marked'
  simp only [closes, Except.ok.injEq, Prod.mk.injEq, Cursor.mk.injEq] at closes'
  obtain ⟨rfl, -, rfl⟩ := closes'
  exact ⟨rfl, List.append_cancel_right same, rfl⟩

inductive Piece (loader : Loader) (options : Options) (start : Nat) : Token → Bytes → Prop
  | literal {text : Bytes} : text ≠ [] → Plain text →
      Piece loader options start (.literal start text) text
  | value {tag : Bytes} {key : String} {escaped : Bool} : TagForm (.value key escaped) tag →
      Piece loader options start (.value key escaped) (openTag ++ tag)
  | block {opening body closing : Bytes} {polarity : Polarity} {key : String} {inner : List Token} :
      TagForm (.opening polarity key) opening → Derives loader options 0 body inner →
      EndsApart body → ClosingForm key closing →
      Piece loader options start (.block polarity key ⟨body, inner, options⟩)
        (openTag ++ opening ++ body ++ (openTag ++ closing))
  | inclusion {tag path source : Bytes} {name : String} {inner : List Token} :
      name = nameText path → TagForm (.inclusion name) tag → Relative path →
      loader name = .ok source → Derives loader options 0 source inner →
      Piece loader options start (.inclusion name ⟨source, inner, options⟩) (openTag ++ tag)

theorem Piece.unique {start : Nat} {token : Token} {piece piece' rest rest' : Bytes}
    (here : Piece loader options start token piece)
    (there : Piece loader options start token piece') (same : piece ++ rest = piece' ++ rest') :
    piece = piece' ∧ rest = rest' := by
  suffices piece = piece' by
    subst this
    exact ⟨rfl, List.append_cancel_left same⟩
  cases here with
  | literal =>
    cases there
    rfl
  | value spelled =>
    cases there with
    | value spelled' =>
      rw [List.append_assoc, List.append_assoc, List.append_cancel_left_eq] at same
      rw [(spelled.unique spelled' same).2.1]
  | block spelled nested apart closes =>
    cases there with
    | block spelled' nested' apart' closes' =>
      simp only [List.append_assoc, List.append_cancel_left_eq] at same
      obtain ⟨-, rfl, behind⟩ := spelled.unique spelled' same
      rw [List.append_cancel_left_eq, List.append_cancel_left_eq] at behind
      rw [(closes.unique closes' behind).2.1]
  | inclusion _ spelled =>
    cases there with
    | inclusion _ spelled' =>
      rw [List.append_assoc, List.append_assoc, List.append_cancel_left_eq] at same
      rw [(spelled.unique spelled' same).2.1]

theorem derives_cons_iff {start : Nat} {source : Bytes} {token : Token} {tokens : List Token} :
    Derives loader options start source (token :: tokens) ↔
      ∃ piece rest, source = piece ++ rest ∧ Piece loader options start token piece ∧
        (rest ≠ [] → EndsApart piece) ∧ (TagFirst [token] ∨ TagFirst tokens) ∧
        Derives loader options (start + piece.length) rest tokens := by
  constructor
  · intro derived
    cases derived with
    | literal filled plain apart first later =>
      exact ⟨_, _, rfl, .literal filled plain, apart, .inr first, later⟩
    | value spelled later =>
      exact ⟨_, _, rfl, .value spelled, fun _ => spelled.endsApart_tag, .inl trivial, later⟩
    | block spelled nested apart closes later =>
      refine ⟨_, _, rfl, .block spelled nested apart closes, fun _ => ?_, .inl trivial, later⟩
      exact closes.endsApart_tag _
    | inclusion spelled inside loaded nested later =>
      refine ⟨_, _, rfl, .inclusion rfl spelled inside loaded nested, fun _ => ?_, .inl trivial,
        later⟩
      exact spelled.endsApart_tag
  · rintro ⟨piece, rest, rfl, written, apart, first, later⟩
    cases written with
    | literal filled plain => exact .literal filled plain apart (first.resolve_left id) later
    | value spelled => exact .value spelled later
    | block spelled nested closed closes => exact .block spelled nested closed closes later
    | inclusion named spelled inside loaded nested =>
      subst named
      exact .inclusion spelled inside loaded nested later

theorem TagFirst.of_append {left right : List Token} (first : TagFirst (left ++ right)) :
    TagFirst left := by
  cases left with
  | nil => trivial
  | cons token left => cases token <;> exact first

theorem Derives.divide {start : Nat} {source : Bytes} {left right : List Token}
    (derived : Derives loader options start source (left ++ right)) :
    ∃ front back, source = front ++ back ∧ Derives loader options start front left ∧
      Derives loader options (start + front.length) back right := by
  induction left generalizing start source with
  | nil => exact ⟨[], source, rfl, .done, derived⟩
  | cons token left ih =>
    obtain ⟨piece, rest, rfl, written, apart, first, later⟩ := derives_cons_iff.mp derived
    obtain ⟨front, back, rfl, here, there⟩ := ih later
    refine ⟨piece ++ front, back, (List.append_assoc ..).symm, ?_, ?_⟩
    · refine derives_cons_iff.mpr ⟨piece, front, rfl, written, fun filled => ?_, ?_, here⟩
      · exact apart (List.append_ne_nil_of_left_ne_nil filled back)
      · exact first.imp_right TagFirst.of_append
    · rw [List.length_append, ← Nat.add_assoc]
      exact there

/-- Where the first tokens of a source are those of the bytes in front, the others are those of the
bytes behind, and no tag lies across. -/
theorem Derives.cancel {start : Nat} {front back : Bytes} {left right : List Token}
    (whole : Derives loader options start (front ++ back) (left ++ right))
    (here : Derives loader options start front left) :
    Derives loader options (start + front.length) back right ∧ (back ≠ [] → EndsApart front) := by
  induction left generalizing start front with
  | nil =>
    cases here
    exact ⟨whole, fun _ => endsApart_nil⟩
  | cons token left ih =>
    obtain ⟨piece, rest, rfl, written, apart, -, later⟩ := derives_cons_iff.mp here
    obtain ⟨piece', rest', same, written', apart', -, later'⟩ := derives_cons_iff.mp whole
    rw [List.append_assoc] at same
    obtain ⟨rfl, rfl⟩ := written.unique written' same
    obtain ⟨behind, ends⟩ := ih later' later
    rw [List.length_append, ← Nat.add_assoc]
    refine ⟨behind, fun filled => ?_⟩
    exact (apart' (List.append_ne_nil_of_right_ne_nil _ filled)).append (ends filled)

end Mustache.Proofs.Grammar
