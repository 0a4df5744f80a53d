import Mustache.Proofs.Grammar.Division

namespace Mustache

inductive Value.Falsy : Value → Prop
  | null : Falsy .null
  | bool : Falsy (.bool false)
  | text : Falsy (.text "")
  | bytes : Falsy (.bytes [])
  | list : Falsy (.list [])
  | object {adapter : Adapter} : adapter.isEmpty = true → Falsy (.object adapter)

theorem Value.isTruthy_eq_false_iff {value : Value} : value.isTruthy = false ↔ value.Falsy := by
  constructor
  · intro falsy
    cases value with
    | null => exact .null
    | bool b =>
      cases b with
      | false => exact .bool
      | true => cases falsy
    | int | uint | float | float32 => cases falsy
    | text content =>
      simp only [isTruthy, decide_eq_false_iff_not, not_not] at falsy
      subst falsy
      exact .text
    | bytes content =>
      cases content with
      | nil => exact .bytes
      | cons => cases falsy
    | list items =>
      cases items with
      | nil => exact .list
      | cons => cases falsy
    | object adapter => exact .object (by simpa [isTruthy] using falsy)
  · rintro (_ | _ | _ | _ | _ | empty)
    case object => simp [isTruthy, empty]
    all_goals rfl

def Adapter.scope? (subject : Value) : Adapter → Option Scope
  | .fields _ lookup => some ⟨subject, lookup⟩
  | .scalar inner => some (.ofSubject inner)
  | .mute .. => none
  | .delegate _ inner _ => inner.scope? subject

theorem Adapter.marshal_congr {adapter : Adapter} {subject : Value} {scope : Scope}
    {body body' : Scope → Rendering} (found : adapter.scope? subject = some scope)
    (same : body scope = body' scope) :
    adapter.marshal subject body = adapter.marshal subject body' := by
  fun_induction Adapter.scope? subject adapter with
  | case1 =>
    cases found
    exact same
  | case2 =>
    cases found
    exact same
  | case3 => cases found
  | case4 empty inner settle ih => rw [marshal, marshal, ih found]

namespace Proofs.Grammar

variable {loader : Loader} {options : Options}

/-- A token of the template itself that stands behind some bytes of its source: compiled by
themselves, these give the tokens in front of it. -/
def StandsBehind (loader : Loader) (options : Options) (front : Bytes) (token : Token)
    (template : Template) : Prop :=
  ∃ left right, Template.compile loader options front = .ok ⟨front, left, options⟩ ∧
    template.tokens = left ++ token :: right

theorem exists_standsBehind {source : Bytes} {template : Template} {token : Token}
    (compiled : Template.compile loader options source = .ok template)
    (member : token ∈ template.tokens) :
    ∃ front piece behind, source = front ++ piece ++ behind ∧
      Piece loader options front.length token piece ∧
      StandsBehind loader options front token template := by
  obtain ⟨tree, shallow⟩ := compileAt_eq_ok_iff.mp compiled
  obtain ⟨tokens, rfl, derived⟩ := tree.eq_mk
  obtain ⟨left, right, rfl⟩ := List.append_of_mem member
  obtain ⟨front, back, rfl, here, there⟩ := derived.divide
  obtain ⟨piece, behind, rfl, written, -⟩ := derives_cons_iff.mp there
  rw [Nat.zero_add] at written
  have tree : TreeOf loader options front ⟨front, left, options⟩ := ⟨rfl, rfl, here⟩
  refine ⟨front, piece, behind, (List.append_assoc ..).symm, written, left, right, ?_, rfl⟩
  refine compileAt_eq_ok_iff.mpr ⟨tree, Nat.lt_of_le_of_lt ?_ shallow⟩
  rw [Template.depth, Template.depth, depthAll_append]
  exact Nat.le_max_left _ _

def IsKey (key : String) : Prop := ∃ name, IsName isKeyStart isKeyByte name ∧ nameText name = key

theorem TagForm.isKey {polarity : Polarity} {key : String} {form : Bytes}
    (spelled : TagForm (.opening polarity key) form) : IsKey key := by
  cases spelled with
  | opening _ padded =>
    obtain ⟨-, isName, -⟩ := padded
    exact ⟨_, isName, rfl⟩

theorem IsName.closing {name : Bytes} (isName : IsName isKeyStart isKeyByte name) :
    IsName isKeyByte isKeyByte name := by
  cases name with
  | nil => exact isName
  | cons b rest => exact ⟨isKeyByte_of_isKeyStart isName.1, isName.2⟩

theorem piece_blockSource {key : String} {body : Template} (isKey : IsKey key)
    (tree : TreeOf loader options body.source body) (apart : EndsApart body.source)
    (polarity : Polarity) (start : Nat) :
    Piece loader options start (.block polarity key body)
      (blockSource polarity key body.source) := by
  obtain ⟨name, isName, rfl⟩ := isKey
  obtain ⟨source, inner, options⟩ := body
  obtain ⟨-, rfl, nested⟩ := tree
  have none : Blanks [] := nofun
  obtain ⟨opening, opening_eq, spelled⟩ : ∃ bare,
      openingSource polarity (nameText name) = openTag ++ bare ∧
        TagForm (.opening polarity (nameText name)) bare :=
    TagForm.bare (.opening none (.mk none isName none))
  obtain ⟨closing, closing_eq, closes⟩ := (ClosingForm.mk none (.mk none isName.closing none)).bare
  rw [blockSource, opening_eq, closing_eq]
  exact .block spelled nested apart closes

theorem blockSource_ne_nil {polarity : Polarity} {key : String} {body : Bytes} :
    blockSource polarity key body ≠ [] :=
  List.cons_ne_nil _ _

theorem endsApart_blockSource (polarity : Polarity) (key : String) (body : Bytes) :
    EndsApart (blockSource polarity key body) := by
  have ends : closingSource key =
      (openBrace :: openBrace :: slashMark :: Bytes.ofText key) ++ closeTag 2 := rfl
  rw [blockSource, ends, ← List.append_assoc]
  exact endsApart_closeTag _ 1

theorem derives_blockSource {key : String} {body : Template} (isKey : IsKey key)
    (tree : TreeOf loader options body.source body) (apart : EndsApart body.source)
    (polarity : Polarity) (start : Nat) :
    Derives loader options start (blockSource polarity key body.source)
      [.block polarity key body] := by
  refine derives_cons_iff.mpr ⟨_, [], (List.append_nil _).symm, ?_, absurd rfl, .inr trivial, .done⟩
  exact piece_blockSource isKey tree apart polarity start

structure Around (loader : Loader) (options : Options) (front behind : Bytes)
    (left right : List Token) : Prop where
  before : Derives loader options 0 front left
  apart : EndsApart front
  after : ∃ place, Derives loader options place behind right

theorem StandsBehind.around {front behind : Bytes} {polarity : Polarity} {key : String}
    {body template : Template}
    (stands : StandsBehind loader options front (.block polarity key body) template)
    (compiled : Template.compile loader options
      (front ++ blockSource polarity key body.source ++ behind) = .ok template) :
    ∃ left right, template.tokens = left ++ ([.block polarity key body] ++ right) ∧
      Around loader options front behind left right ∧ IsKey key ∧
      TreeOf loader options body.source body ∧ EndsApart body.source := by
  obtain ⟨left, right, first, tokens_eq⟩ := stands
  have before := (compileAt_eq_ok_iff.mp first).1.derived
  have whole := (compileAt_eq_ok_iff.mp compiled).1.derived
  rw [tokens_eq, List.append_assoc] at whole
  obtain ⟨later, ends⟩ := whole.cancel before
  obtain ⟨piece, rest, split, written, -, -, after⟩ := derives_cons_iff.mp later
  cases written with
  | block spelled nested apart closes =>
    have tree : TreeOf loader options _ ⟨_, _, options⟩ := ⟨rfl, rfl, nested⟩
    have bare := piece_blockSource spelled.isKey tree apart polarity (0 + front.length)
    obtain ⟨-, rfl⟩ := bare.unique (.block spelled nested apart closes) split
    have around := ends (List.append_ne_nil_of_left_ne_nil blockSource_ne_nil behind)
    exact ⟨left, right, tokens_eq, ⟨before, around, _, after⟩, spelled.isKey, tree, apart⟩

theorem Around.compile {front behind : Bytes} {left right : List Token}
    (around : Around loader options front behind left right) {middle : Bytes}
    {inner inner' : List Token} (between : Derives loader options 0 middle inner)
    (apart : EndsApart middle)
    (shallow : Token.depthAll (left ++ (inner' ++ right)) ≤ options.maxDepth)
    (less : Token.depthAll inner ≤ Token.depthAll inner') :
    ∃ template, Template.compile loader options (front ++ middle ++ behind) = .ok template ∧
      Replaces template.tokens (left ++ (inner ++ right)) := by
  obtain ⟨place, after⟩ := around.after
  obtain ⟨right', last, replaces⟩ := after.move (0 + middle.length)
  have joined := between.append last (apart.seam behind)
  obtain ⟨more, later, replaces'⟩ := joined.move (0 + front.length)
  have whole := around.before.append later (around.apart.seam _)
  have same : Replaces (splice left more) (left ++ (inner ++ right)) := by
    refine (replaces_splice left more).trans (.append (.refl left) (replaces'.trans ?_))
    exact (replaces_splice inner right').trans (.append (.refl inner) replaces)
  have enough : Token.depthAll (splice left more) ≤ options.maxDepth := by
    refine Nat.le_trans same.shallow (Nat.le_trans ?_ shallow)
    simp only [depthAll_append]
    exact max_le_max (Nat.le_refl _) (max_le_max less (Nat.le_refl _))
  rw [← List.append_assoc] at whole
  have tree : TreeOf loader options _ ⟨_, splice left more, options⟩ := ⟨rfl, rfl, whole⟩
  exact ⟨_, compileAt_eq_ok_iff.mpr ⟨tree, Nat.lt_succ_of_le enough⟩, same⟩

theorem render_between {template template' : Template} {left inner inner' right : List Token}
    (replaces : Replaces template.tokens (left ++ (inner ++ right)))
    (replaces' : Replaces template'.tokens (left ++ (inner' ++ right))) {adapter : Adapter}
    {scope : Scope} (found : adapter.scope? (.object adapter) = some scope)
    (same : Token.walkAll inner scope = Token.walkAll inner' scope) :
    template.render (.object adapter) = template'.render (.object adapter) := by
  have walk : template.walk scope = template'.walk scope := by
    rw [Template.walk_eq_walkAll, Template.walk_eq_walkAll, replaces.walk, replaces'.walk]
    simp only [Token.walkAll_append, same]
  simp only [Template.render, Value.enter]
  rw [adapter.marshal_congr found walk]

theorem walkAll_singleton (token : Token) (scope : Scope) :
    Token.walkAll [token] scope = token.walk scope :=
  Rendering.append_write_nil _

theorem walk_section_true {scope : Scope} {key : String} (flag : scope.resolve key = .bool true)
    (body : Template) : (Token.block .positive key body).walk scope = body.walk scope := by
  rw [Token.walk, flag]

theorem walk_section_falsy {scope : Scope} {key : String} (falsy : (scope.resolve key).Falsy)
    (body : Template) : (Token.block .positive key body).walk scope = .write [] := by
  rw [Token.walk]
  generalize scope.resolve key = value at falsy
  cases falsy with
  | object empty => simp [Value.isTruthy, empty]
  | null | bool | text | bytes | list => rfl

theorem walk_inverted_falsy {scope : Scope} {key : String} (falsy : (scope.resolve key).Falsy)
    (body : Template) : (Token.block .inverted key body).walk scope = body.walk scope := by
  rw [Token.walk, Value.isTruthy_eq_false_iff.mpr falsy]
  rfl

theorem walk_inverted_truthy {scope : Scope} {key : String} (truthy : ¬ (scope.resolve key).Falsy)
    (body : Template) : (Token.block .inverted key body).walk scope = .write [] := by
  rw [← Value.isTruthy_eq_false_iff, Bool.not_eq_false] at truthy
  rw [Token.walk, truthy]
  rfl

/-- A section whose key means true or a falsy value is its body or nothing, and the inverted block
is the other one of these for every value. -/
theorem render_conditional {front behind : Bytes} {key : String} {body template : Template}
    (compiled : Template.compile loader options
      (front ++ blockSource .positive key body.source ++ behind) = .ok template)
    (stands : StandsBehind loader options front (.block .positive key body) template) :
    ∃ shown hidden inverse,
      Template.compile loader options (front ++ body.source ++ behind) = .ok shown ∧
      Template.compile loader options (front ++ behind) = .ok hidden ∧
      Template.compile loader options (front ++ blockSource .inverted key body.source ++ behind) =
        .ok inverse ∧
      ∀ adapter scope, adapter.scope? (.object adapter) = some scope →
        (scope.resolve key = .bool true →
          template.render (.object adapter) = shown.render (.object adapter)) ∧
        ((scope.resolve key).Falsy →
          template.render (.object adapter) = hidden.render (.object adapter) ∧
          inverse.render (.object adapter) = shown.render (.object adapter)) ∧
        (¬ (scope.resolve key).Falsy →
          inverse.render (.object adapter) = hidden.render (.object adapter)) := by
  obtain ⟨left, right, tokens_eq, around, isKey, tree, closed⟩ := stands.around compiled
  have shallow := Nat.le_of_lt_succ (compileAt_eq_ok_iff.mp compiled).2
  rw [Template.depth_eq_depthAll, tokens_eq] at shallow
  have replaces : Replaces template.tokens (left ++ ([.block .positive key body] ++ right)) :=
    tokens_eq ▸ .refl _
  have deeper : Token.depthAll body.tokens ≤ Token.depthAll [.block .positive key body] := by
    rw [← Template.depth_eq_depthAll]
    exact Nat.le_trans (Nat.le_succ _) (Nat.le_max_left _ _)
  obtain ⟨shown, compiledShown, replacesShown⟩ :=
    around.compile tree.derived closed shallow deeper
  obtain ⟨hidden, compiledHidden, replacesHidden⟩ :=
    around.compile .done endsApart_nil shallow (Nat.zero_le _)
  obtain ⟨inverse, compiledInverse, replacesInverse⟩ :=
    around.compile (derives_blockSource isKey tree closed .inverted 0)
      (endsApart_blockSource .inverted key body.source) shallow (Nat.le_refl _)
  rw [List.append_nil] at compiledHidden
  refine ⟨shown, hidden, inverse, compiledShown, compiledHidden, compiledInverse, ?_⟩
  intro adapter scope found
  refine ⟨fun flag => ?_, fun falsy => ⟨?_, ?_⟩, fun truthy => ?_⟩
  · refine render_between replaces replacesShown found ?_
    rw [walkAll_singleton, walk_section_true flag, Template.walk_eq_walkAll]
  · refine render_between replaces replacesHidden found ?_
    rw [walkAll_singleton, walk_section_falsy falsy, Token.walkAll]
  · refine render_between replacesInverse replacesShown found ?_
    rw [walkAll_singleton, walk_inverted_falsy falsy, Template.walk_eq_walkAll]
  · refine render_between replacesInverse replacesHidden found ?_
    rw [walkAll_singleton, walk_inverted_truthy truthy, Token.walkAll]

theorem render_conditional_missing :
    let body : Template := ⟨Bytes.ofText " {{name}}", [.literal 0 (Bytes.ofText " "),
      .value "name" true], {}⟩
    let front := Bytes.ofText "Hi"
    let behind := Bytes.ofText "!"
    let template : Template := ⟨front ++ blockSource .positive "known" body.source ++ behind,
      [.literal 0 front, .block .positive "known" body, .literal 31 behind], {}⟩
    let data : Value := .object (.fields true fun _ => .null)
    ∃ hidden, Template.compile (Registry.load {}) {} (front ++ behind) = .ok hidden ∧
      template.render data = hidden.render data := by
  intro body front behind template data
  have compiled : Template.compile (Registry.load {}) {}
      (front ++ blockSource .positive "known" body.source ++ behind) = .ok template := by
    decide +kernel
  have stands : StandsBehind (Registry.load {}) {} front (.block .positive "known" body) template :=
    ⟨[.literal 0 front], [.literal 31 behind], by decide +kernel, rfl⟩
  obtain ⟨_, hidden, _, -, compiledHidden, -, same⟩ := render_conditional compiled stands
  exact ⟨hidden, compiledHidden, ((same _ ⟨data, fun _ => .null⟩ rfl).2.1 .null).1⟩

end Proofs.Grammar

end Mustache
