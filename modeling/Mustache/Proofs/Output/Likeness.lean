import Mathlib.Data.List.Forall2
import Mustache.Render

/-!
# Data that renders alike

Two values render alike when they agree wherever a template can look: in scalars, in the length and
the items of lists, in whether a map is empty, and in the fields that are asked for. `Alike` says
this of values, for some keys and for scalars that count as the same. It is kept wherever rendering
goes on (`respects_walk`), through sections over lists, new subjects and partials, so templates give
alike data the same result (`render_alike`).

Which scalars count as the same is a parameter: equal ones, or all that no tag tells apart.
-/

namespace Mustache.Proofs.Output

inductive Alike (same : Value → Value → Prop) (asked : String → Prop) : Value → Value → Prop
  | leaf {value value' : Value} : same value value' → Alike same asked value value'
  | list {items items' : List Value} : items.length = items'.length →
      (∀ {item item'}, (item, item') ∈ items.zip items' → Alike same asked item item') →
      Alike same asked (.list items) (.list items')
  | fields {empty : Bool} {lookup lookup' : String → Value} :
      (∀ key, asked key → Alike same asked (lookup key) (lookup' key)) →
      Alike same asked (.object (.fields empty lookup)) (.object (.fields empty lookup'))
  | scalar {value value' : Value} : Alike same asked value value' →
      Alike same asked (.object (.scalar value)) (.object (.scalar value'))

structure Interchangeable (value value' : Value) : Prop where
  scalar : value.text? ≠ none
  text : value.text? = value'.text?
  truthy : value.isTruthy = value'.isTruthy
  flag : value = .bool true ↔ value' = .bool true

structure Indistinct (same : Value → Value → Prop) : Prop where
  null : same .null .null
  leaf : ∀ {value value'}, same value value' → value = value' ∨ Interchangeable value value'

variable {same : Value → Value → Prop} {asked : String → Prop} {value value' : Value}

theorem forall₂_alike {items items' : List Value} (length : items.length = items'.length)
    (each : ∀ {item item'}, (item, item') ∈ items.zip items' → Alike same asked item item') :
    List.Forall₂ (Alike same asked) items items' :=
  List.forall₂_iff_zip.mpr ⟨length, each⟩

theorem Alike.text (alike : Alike same asked value value') (indistinct : Indistinct same) :
    value.text? = value'.text? := by
  cases alike with
  | leaf known =>
    rcases indistinct.leaf known with rfl | scalars
    · rfl
    · exact scalars.text
  | list | fields | scalar => rfl

theorem Alike.typeName (alike : Alike same asked value value')
    (names : same value value' → value.typeName = value'.typeName) :
    value.typeName = value'.typeName := by
  cases alike with
  | leaf known => exact names known
  | list | fields | scalar => rfl

theorem Alike.typeName_of_no_text (alike : Alike same asked value value')
    (indistinct : Indistinct same) (container : value.text? = none) :
    value.typeName = value'.typeName := by
  apply alike.typeName
  intro known
  rcases indistinct.leaf known with rfl | scalars
  · rfl
  · exact absurd container scalars.scalar

theorem Alike.truthy (alike : Alike same asked value value') (indistinct : Indistinct same) :
    value.isTruthy = value'.isTruthy := by
  cases alike with
  | leaf known =>
    rcases indistinct.leaf known with rfl | scalars
    · rfl
    · exact scalars.truthy
  | @list items items' length each =>
    cases items <;> cases items' <;> simp_all [Value.isTruthy]
  | fields | scalar => rfl

structure AlikeScopes (same : Value → Value → Prop) (asked : String → Prop)
    (scope scope' : Scope) : Prop where
  subject : Alike same asked scope.subject scope'.subject
  lookup : ∀ key, asked key → Alike same asked (scope.lookup key) (scope'.lookup key)

def Respects (same : Value → Value → Prop) (asked : String → Prop) (body : Scope → Rendering) :
    Prop :=
  ∀ ⦃scope scope'⦄, AlikeScopes same asked scope scope' → body scope = body scope'

variable {scope scope' : Scope} {body : Scope → Rendering}

theorem AlikeScopes.resolve (scopes : AlikeScopes same asked scope scope') {key : String}
    (asks : asked key) : Alike same asked (scope.resolve key) (scope'.resolve key) := by
  unfold Scope.resolve
  split
  · exact scopes.subject
  · exact scopes.lookup key asks

theorem Alike.ofSubject (alike : Alike same asked value value') (indistinct : Indistinct same) :
    AlikeScopes same asked (.ofSubject value) (.ofSubject value') :=
  ⟨alike, fun _ _ => .leaf indistinct.null⟩

theorem enter_of_text (scalar : value.text? ≠ none) :
    value.enter body = body (.ofSubject value) := by
  cases value with
  | list | object => exact absurd rfl scalar
  | _ => rfl

theorem enter_alike (alike : Alike same asked value value') (indistinct : Indistinct same)
    (respects : Respects same asked body) : value.enter body = value'.enter body := by
  cases alike with
  | leaf known =>
    rcases indistinct.leaf known with rfl | scalars
    · rfl
    · rw [enter_of_text scalars.scalar, enter_of_text (scalars.text ▸ scalars.scalar)]
      exact respects ((Alike.leaf known).ofSubject indistinct)
  | list length each => exact respects ((Alike.list length each).ofSubject indistinct)
  | fields each => exact respects ⟨.fields each, each⟩
  | scalar inner => exact respects (inner.ofSubject indistinct)

theorem enterAll_alike {items items' : List Value}
    (each : List.Forall₂ (Alike same asked) items items') (indistinct : Indistinct same)
    (respects : Respects same asked body) :
    Value.enterAll body items = Value.enterAll body items' := by
  induction each with
  | nil => rfl
  | cons first others ih =>
    rw [Value.enterAll, Value.enterAll, enter_alike first indistinct respects, ih]

def renderSection (body : Scope → Rendering) (scope : Scope) : Value → Rendering
  | .bool true => body scope
  | .list items => Value.enterAll body items
  | value => if value.isTruthy then value.enter body else .write []

theorem walk_section (key : String) (inner : Template) (scope : Scope) :
    (Token.block .positive key inner).walk scope =
      renderSection inner.walk scope (scope.resolve key) := rfl

theorem renderSection_of_text (scalar : value.text? ≠ none) (other : value ≠ .bool true) :
    renderSection body scope value = if value.isTruthy then value.enter body else .write [] := by
  unfold renderSection
  split
  · exact absurd rfl other
  · exact absurd rfl scalar
  · rfl

theorem renderSection_alike (alike : Alike same asked value value') (indistinct : Indistinct same)
    (respects : Respects same asked body) (scopes : AlikeScopes same asked scope scope') :
    renderSection body scope value = renderSection body scope' value' := by
  have enter := enter_alike alike indistinct respects
  have truthy := alike.truthy indistinct
  cases alike with
  | leaf known =>
    rcases indistinct.leaf known with rfl | scalars
    · unfold renderSection
      split
      · exact respects scopes
      · rfl
      · rfl
    · by_cases flag : value = .bool true
      · rw [flag, scalars.flag.mp flag]
        exact respects scopes
      · have flag' : value' ≠ .bool true := fun same => flag (scalars.flag.mpr same)
        rw [renderSection_of_text scalars.scalar flag,
          renderSection_of_text (scalars.text ▸ scalars.scalar) flag', truthy, enter]
  | list length each => exact enterAll_alike (forall₂_alike length each) indistinct respects
  | fields | scalar => simp only [renderSection, truthy, enter]

def key? : Token → Option String
  | .value key _ | .block _ key _ => some key
  | .literal .. | .inclusion .. => none

theorem respects_token {token : Token} (indistinct : Indistinct same)
    (asks : ∀ key, key? token = some key → asked key)
    (bodies : ∀ inner, token.body? = some inner → Respects same asked inner.walk) :
    Respects same asked token.walk := by
  intro scope scope' scopes
  cases token with
  | literal start text => rfl
  | value key escaped =>
    have alike := scopes.resolve (asks key rfl)
    have text := alike.text indistinct
    simp only [Token.walk]
    rw [← text]
    cases found : (scope.resolve key).text? with
    | none => simp only [alike.typeName_of_no_text indistinct found]
    | some text => rfl
  | block polarity key inner =>
    have alike := scopes.resolve (asks key rfl)
    have respects := bodies inner rfl
    cases polarity with
    | positive =>
      rw [walk_section, walk_section]
      exact renderSection_alike alike indistinct respects scopes
    | inverted => simp only [Token.walk, alike.truthy indistinct, respects scopes]
  | inclusion path inner => exact bodies inner rfl scopes

theorem respects_walkAll {tokens : List Token}
    (each : ∀ token ∈ tokens, Respects same asked token.walk) :
    Respects same asked (Token.walkAll tokens) := by
  intro scope scope' scopes
  induction tokens with
  | nil => rfl
  | cons token tokens ih =>
    obtain ⟨first, others⟩ := List.forall_mem_cons.mp each
    rw [Token.walkAll_cons, Token.walkAll_cons, first scopes, ih others]

theorem mem_keys_iff {template : Template} {key : String} :
    key ∈ template.keys ↔
      ∃ inner ∈ template.all, ∃ token ∈ inner.tokens, key? token = some key := by
  simp only [Template.keys, List.mem_flatMap, List.mem_filterMap]
  rfl

theorem respects_walk (template : Template) (indistinct : Indistinct same)
    (asks : ∀ key ∈ template.keys, asked key) : Respects same asked template.walk := by
  induction template using Template.induction with
  | step template ih =>
    have tokens : Respects same asked (Token.walkAll template.tokens) := by
      apply respects_walkAll
      intro token member
      apply respects_token indistinct
      · intro key found
        exact asks key (mem_keys_iff.mpr ⟨template, Template.mem_all_self, token, member, found⟩)
      · intro inner within
        apply ih token member inner within
        intro key deeper
        obtain ⟨deepest, inside, found⟩ := mem_keys_iff.mp deeper
        exact asks key (mem_keys_iff.mpr
          ⟨deepest, Template.mem_all_of_body member within inside, found⟩)
    cases template
    exact tokens

theorem isObject_iff : value.isObject = true ↔ value.typeName = "object" := by
  cases value <;> simp [Value.isObject, Value.typeName]

theorem isObject_eq (names : value.typeName = value'.typeName) :
    value.isObject = value'.isObject := by
  rw [Bool.eq_iff_iff, isObject_iff, isObject_iff, names]

theorem find_unfit {items items' : List Value}
    (names : List.Forall₂ (fun item item' => item.typeName = item'.typeName) items items') :
    (items.find? fun item => !item.isObject).map Value.typeName =
      (items'.find? fun item => !item.isObject).map Value.typeName := by
  induction names with
  | nil => rfl
  | cons first others ih =>
    rw [List.find?_cons, List.find?_cons, ← isObject_eq first]
    split
    · exact congrArg some first
    · exact ih

def heads : Value → List Value
  | .list items => .list items :: items
  | data => [data]

theorem mem_heads_self (data : Value) : data ∈ heads data := by
  unfold heads
  split <;> exact List.mem_cons_self

theorem typeName_items {items items' : List Value}
    (each : List.Forall₂ (Alike same asked) items items')
    (names : ∀ {value value'}, value ∈ items → same value value' →
      value.typeName = value'.typeName) :
    List.Forall₂ (fun item item' => item.typeName = item'.typeName) items items' := by
  induction each with
  | nil => exact .nil
  | cons first others ih =>
    refine .cons (first.typeName (names List.mem_cons_self)) (ih fun member => ?_)
    exact names (List.mem_cons_of_mem _ member)

theorem render_list (template : Template) (items : List Value) :
    template.render (.list items) =
      match (items.find? fun item => !item.isObject).map Value.typeName with
      | some found => .error (.unsupportedData found)
      | none => (Value.enterAll template.walk items).output := by
  simp only [Template.render]
  cases items.find? fun item => !item.isObject <;> rfl

theorem render_of_text (template : Template) (scalar : value.text? ≠ none) :
    template.render value = .error (.unsupportedData value.typeName) := by
  apply Template.render_scalar
  rw [ne_eq, Value.text?_eq_none_iff, not_or] at scalar
  exact scalar.symm

theorem render_alike (template : Template) (indistinct : Indistinct same)
    (asks : ∀ key ∈ template.keys, asked key) {data data' : Value}
    (alike : Alike same asked data data')
    (names : ∀ {value value'}, value ∈ heads data → same value value' →
      value.typeName = value'.typeName) :
    template.render data = template.render data' := by
  have respects := respects_walk template indistinct asks
  have enter := enter_alike alike indistinct respects
  cases alike with
  | leaf known =>
    rcases indistinct.leaf known with rfl | scalars
    · rfl
    · rw [render_of_text template scalars.scalar,
        render_of_text template (scalars.text ▸ scalars.scalar),
        names (mem_heads_self data) known]
  | list length each =>
    have items := forall₂_alike length each
    have types := typeName_items items fun member => names (List.mem_cons_of_mem _ member)
    rw [render_list, render_list, find_unfit types, enterAll_alike items indistinct respects]
  | fields | scalar => simp only [Template.render, enter]

end Mustache.Proofs.Output
