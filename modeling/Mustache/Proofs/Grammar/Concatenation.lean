import Mathlib.Order.MinMax
import Mustache.Render
import Mustache.Proofs.Grammar.Compilation

namespace Mustache.Proofs.Grammar

variable {loader : Loader} {options : Options}

/-- No tag comes about where one source follows another. -/
def Seam (left right : Bytes) : Prop :=
  ¬ (left.getLast? = some openBrace ∧ right.head? = some openBrace)

instance (left right : Bytes) : Decidable (Seam left right) :=
  inferInstanceAs (Decidable (¬ (_ ∧ _)))

theorem EndsApart.seam {left : Bytes} (apart : EndsApart left) (right : Bytes) :
    Seam left right := by
  intro ⟨last, _⟩
  exact apart last

theorem Seam.endsApart {left rest : Bytes} (seam : Seam left (openTag ++ rest)) :
    EndsApart left := by
  intro last
  exact seam ⟨last, rfl⟩

theorem Seam.of_append_left {front left right : Bytes} (seam : Seam (front ++ left) right) :
    Seam left right := by
  intro ⟨last, first⟩
  refine seam ⟨?_, first⟩
  rw [List.getLast?_append, last, Option.some_or]

theorem Seam.of_append_right {left right rest : Bytes} (seam : Seam left (right ++ rest)) :
    Seam left right := by
  intro ⟨last, first⟩
  refine seam ⟨last, ?_⟩
  rw [List.head?_append, first, Option.some_or]

theorem Seam.append_right {left right rest : Bytes} (apart : right ≠ [] → EndsApart left)
    (seam : Seam (left ++ right) rest) : Seam left (right ++ rest) := by
  by_cases last : right = []
  · subst last
    rwa [List.append_nil] at seam
  · exact (apart last).seam _

theorem EndsApart.append {left right : Bytes} (first : EndsApart left) (second : EndsApart right) :
    EndsApart (left ++ right) := by
  by_cases filled : right = []
  · subst filled
    rwa [List.append_nil]
  · exact (endsApart_append filled).mpr second

theorem EndsApart.of_append {left right : Bytes} (apart : EndsApart (left ++ right)) :
    EndsApart right := by
  intro last
  apply apart
  rw [List.getLast?_append, last, Option.some_or]

theorem Plain.append {left right : Bytes} (first : Plain left) (second : Plain right)
    (seam : Seam left right) : Plain (left ++ right) := by
  induction left with
  | nil => exact second
  | cons b left ih =>
    obtain ⟨lone, plain⟩ := plain_cons_iff.mp first
    have front : b :: left = [b] ++ left := rfl
    rw [List.cons_append, plain_cons_iff]
    refine ⟨?_, ih plain (Seam.of_append_left (front ▸ seam))⟩
    intro ⟨brace, next⟩
    cases left with
    | nil => exact seam ⟨congrArg some brace, next⟩
    | cons b' left => exact lone ⟨brace, next⟩

theorem not_opened (front : Bytes) {text rest form : Bytes} (filled : text ≠ [])
    (plain : Plain (front ++ text)) (seam : Seam text rest) : text ++ rest ≠ openTag ++ form := by
  intro same
  match text with
  | [] => exact filled rfl
  | [b] =>
    obtain ⟨rfl, next⟩ := List.cons.inj same
    have starts : rest = openBrace :: form := next
    exact seam ⟨rfl, congrArg List.head? starts⟩
  | b :: b' :: text =>
    obtain ⟨rfl, next⟩ := List.cons.inj same
    obtain ⟨rfl, -⟩ := List.cons.inj next
    exact not_plain_openTag front text plain

theorem Plain.of_append_right {front text : Bytes} (plain : Plain (front ++ text)) :
    Plain text := by
  intro inside
  exact plain (inside.trans (List.suffix_append front text).isInfix)

theorem seam_of_apart {text rest : Bytes} (apart : rest ≠ [] → EndsApart text) :
    Seam text rest := by
  intro ⟨last, first⟩
  apply apart _ last
  rintro rfl
  cases first

/-! ## Tokens -/

def joinText : Token → List Token → List Token
  | .literal start text, .literal _ more :: tokens => .literal start (text ++ more) :: tokens
  | token, tokens => token :: tokens

def splice (left right : List Token) : List Token := left.foldr joinText right

def shiftToken (n : Nat) : Token → Token
  | .literal start text => .literal (start + n) text
  | token => token

structure Replaces (tokens others : List Token) : Prop where
  shallow : Token.depthAll tokens ≤ Token.depthAll others
  walk : ∀ scope, Token.walkAll tokens scope = Token.walkAll others scope

theorem Replaces.refl (tokens : List Token) : Replaces tokens tokens :=
  ⟨Nat.le_refl _, fun _ => rfl⟩

theorem Replaces.trans {first second third : List Token} (here : Replaces first second)
    (there : Replaces second third) : Replaces first third :=
  ⟨Nat.le_trans here.shallow there.shallow, fun scope => (here.walk scope).trans (there.walk scope)⟩

theorem Replaces.depth_le {inner inner' : Template}
    (replaces : Replaces inner.tokens inner'.tokens) : inner.depth ≤ inner'.depth := by
  rw [Template.depth_eq_depthAll, Template.depth_eq_depthAll]
  exact replaces.shallow

theorem Replaces.walk_eq {inner inner' : Template}
    (replaces : Replaces inner.tokens inner'.tokens) : inner.walk = inner'.walk := by
  funext scope
  rw [Template.walk_eq_walkAll, Template.walk_eq_walkAll, replaces.walk]

theorem Replaces.render_eq {template template' : Template}
    (replaces : Replaces template.tokens template'.tokens) (data : Value) :
    template.render data = template'.render data := by
  unfold Template.render
  rw [replaces.walk_eq]

theorem depthAll_append (left right : List Token) :
    Token.depthAll (left ++ right) = max (Token.depthAll left) (Token.depthAll right) := by
  induction left with
  | nil => exact (Nat.zero_max _).symm
  | cons token left ih =>
    rw [List.cons_append, Token.depthAll, ih, Token.depthAll, Nat.max_assoc]

theorem Replaces.append {left right left' right' : List Token} (first : Replaces left left')
    (second : Replaces right right') : Replaces (left ++ right) (left' ++ right') := by
  constructor
  · rw [depthAll_append, depthAll_append]
    exact max_le_max first.shallow second.shallow
  · intro scope
    rw [Token.walkAll_append, Token.walkAll_append, first.walk, second.walk]

theorem replaces_joinText (token : Token) (tokens : List Token) :
    Replaces (joinText token tokens) (token :: tokens) := by
  unfold joinText
  split
  · next start text start' more tokens =>
    constructor
    · exact Nat.le_max_right _ _
    · intro scope
      simp only [Token.walkAll_cons, Token.walk]
      rw [Rendering.write_append, Rendering.append_assoc]
  · exact .refl _

theorem replaces_splice (left right : List Token) :
    Replaces (splice left right) (left ++ right) := by
  induction left with
  | nil => exact .refl right
  | cons token left ih => exact (replaces_joinText token _).trans (.append (.refl [token]) ih)

theorem replaces_shift (n m : Nat) (tokens : List Token) :
    Replaces (tokens.map (shiftToken n)) (tokens.map (shiftToken m)) := by
  induction tokens with
  | nil => exact .refl []
  | cons token tokens ih =>
    have same : Replaces [shiftToken n token] [shiftToken m token] := by
      cases token <;> exact ⟨Nat.le_refl _, fun _ => rfl⟩
    exact same.append ih

theorem tagFirst_shift {n : Nat} {tokens : List Token} :
    TagFirst (tokens.map (shiftToken n)) ↔ TagFirst tokens := by
  cases tokens with
  | nil => rfl
  | cons token tokens => cases token <;> rfl

theorem map_shift_shift (n m : Nat) (tokens : List Token) :
    (tokens.map (shiftToken n)).map (shiftToken m) = tokens.map (shiftToken (m + n)) := by
  rw [List.map_map]
  refine List.map_congr_left fun token _ => ?_
  cases token with
  | literal start text => exact congrArg (Token.literal · text) (by omega)
  | value | block | inclusion => rfl

/-! ## Derivations -/

theorem derives_text {text : Bytes} (filled : text ≠ []) (plain : Plain text) (start : Nat) :
    Derives loader options start text [.literal start text] := by
  have derived : Derives loader options start (text ++ []) [.literal start text] :=
    .literal filled plain (absurd rfl) trivial .done
  rwa [List.append_nil] at derived

theorem derives_value {tag : Bytes} {key : String} {escaped : Bool}
    (spelled : TagForm (.value key escaped) tag) (start : Nat) :
    Derives loader options start (openTag ++ tag) [.value key escaped] := by
  have derived : Derives loader options start (openTag ++ tag ++ []) [.value key escaped] :=
    .value spelled .done
  rwa [List.append_nil] at derived

theorem derives_block {opening body closing : Bytes} {polarity : Polarity} {key : String}
    {inner : List Token} (spelled : TagForm (.opening polarity key) opening)
    (nested : Derives loader options 0 body inner) (apart : EndsApart body)
    (closes : ClosingForm key closing) (start : Nat) :
    Derives loader options start (openTag ++ opening ++ body ++ (openTag ++ closing))
      [.block polarity key ⟨body, inner, options⟩] := by
  have derived : Derives loader options start
      (openTag ++ opening ++ body ++ (openTag ++ closing) ++ [])
      [.block polarity key ⟨body, inner, options⟩] := .block spelled nested apart closes .done
  rwa [List.append_nil] at derived

theorem derives_inclusion {tag path source : Bytes} {inner : List Token}
    (spelled : TagForm (.inclusion (nameText path)) tag) (inside : Relative path)
    (loaded : loader (nameText path) = .ok source) (nested : Derives loader options 0 source inner)
    (start : Nat) :
    Derives loader options start (openTag ++ tag)
      [.inclusion (nameText path) ⟨source, inner, options⟩] := by
  have derived : Derives loader options start (openTag ++ tag ++ [])
      [.inclusion (nameText path) ⟨source, inner, options⟩] :=
    .inclusion spelled inside loaded nested .done
  rwa [List.append_nil] at derived

theorem Derives.shift {start : Nat} {source : Bytes} {tokens : List Token}
    (derived : Derives loader options start source tokens) (n : Nat) :
    Derives loader options (start + n) source (tokens.map (shiftToken n)) := by
  induction derived with
  | done => exact .done
  | literal filled plain apart first later ih =>
    rw [Nat.add_right_comm] at ih
    exact .literal filled plain apart (tagFirst_shift.mpr first) ih
  | value spelled later ih =>
    rw [Nat.add_right_comm] at ih
    exact .value spelled ih
  | block spelled nested apart closes later nestedIh ih =>
    rw [Nat.add_right_comm] at ih
    exact .block spelled nested apart closes ih
  | inclusion spelled inside loaded nested later nestedIh ih =>
    rw [Nat.add_right_comm] at ih
    exact .inclusion spelled inside loaded nested ih

theorem Derives.origin {start : Nat} {source : Bytes} {tokens : List Token}
    (derived : Derives loader options start source tokens) :
    ∃ base, Derives loader options 0 source base ∧ tokens = base.map (shiftToken start) := by
  induction derived with
  | done => exact ⟨[], .done, rfl⟩
  | literal filled plain apart first later ih =>
    obtain ⟨base, derived, rfl⟩ := ih
    rw [tagFirst_shift, ← tagFirst_shift] at first
    refine ⟨_, .literal filled plain apart first (derived.shift _), ?_⟩
    rw [List.map_cons, map_shift_shift, shiftToken, Nat.zero_add]
  | value spelled later ih =>
    obtain ⟨base, derived, rfl⟩ := ih
    refine ⟨_, .value spelled (derived.shift _), ?_⟩
    rw [List.map_cons, map_shift_shift, shiftToken]
    exact nofun
  | block spelled nested apart closes later nestedIh ih =>
    obtain ⟨base, derived, rfl⟩ := ih
    refine ⟨_, .block spelled nested apart closes (derived.shift _), ?_⟩
    rw [List.map_cons, map_shift_shift, shiftToken]
    exact nofun
  | inclusion spelled inside loaded nested later nestedIh ih =>
    obtain ⟨base, derived, rfl⟩ := ih
    refine ⟨_, .inclusion spelled inside loaded nested (derived.shift _), ?_⟩
    rw [List.map_cons, map_shift_shift, shiftToken]
    exact nofun

theorem Derives.move {start : Nat} {source : Bytes} {tokens : List Token}
    (derived : Derives loader options start source tokens) (start' : Nat) :
    ∃ moved, Derives loader options start' source moved ∧ Replaces moved tokens := by
  obtain ⟨base, first, rfl⟩ := derived.origin
  rw [← Nat.zero_add start']
  exact ⟨_, first.shift start', replaces_shift start' start base⟩

theorem Derives.text_cons {start : Nat} {text rest : Bytes} {tokens : List Token}
    (filled : text ≠ []) (plain : Plain text) (seam : Seam text rest)
    (later : Derives loader options (start + text.length) rest tokens) :
    Derives loader options start (text ++ rest) (joinText (.literal start text) tokens) := by
  have apart (first : TagFirst tokens) (goesOn : rest ≠ []) : EndsApart text := by
    obtain ⟨form, rfl⟩ := later.opens first goesOn
    exact seam.endsApart
  cases later with
  | done => exact .literal filled plain (absurd rfl) trivial .done
  | @literal _ more rest tokens filled' plain' apart' first later =>
    rw [← List.append_assoc]
    refine .literal ?_ (plain.append plain' seam.of_append_right) ?_ first ?_
    · exact List.append_ne_nil_of_left_ne_nil filled more
    · intro goesOn
      exact (endsApart_append filled').mpr (apart' goesOn)
    · rw [List.length_append, ← Nat.add_assoc]
      exact later
  | value spelled later =>
    exact .literal filled plain (apart trivial) trivial (.value spelled later)
  | block spelled nested apart' closes later =>
    exact .literal filled plain (apart trivial) trivial (.block spelled nested apart' closes later)
  | inclusion spelled inside loaded nested later =>
    exact .literal filled plain (apart trivial) trivial
      (.inclusion spelled inside loaded nested later)

theorem Derives.append {start : Nat} {left right : Bytes} {tokens others : List Token}
    (first : Derives loader options start left tokens)
    (second : Derives loader options (start + left.length) right others) (seam : Seam left right) :
    Derives loader options start (left ++ right) (splice tokens others) := by
  induction first with
  | done => exact second
  | @literal start text rest tokens filled plain apart first later ih =>
    rw [List.length_append, ← Nat.add_assoc] at second
    rw [List.append_assoc]
    exact .text_cons filled plain (seam.append_right apart) (ih second seam.of_append_left)
  | value spelled later ih =>
    rw [List.length_append, ← Nat.add_assoc] at second
    rw [List.append_assoc]
    exact .value spelled (ih second seam.of_append_left)
  | block spelled nested apart closes later nestedIh ih =>
    rw [List.length_append, ← Nat.add_assoc] at second
    rw [List.append_assoc]
    exact .block spelled nested apart closes (ih second seam.of_append_left)
  | inclusion spelled inside loaded nested later nestedIh ih =>
    rw [List.length_append, ← Nat.add_assoc] at second
    rw [List.append_assoc]
    exact .inclusion spelled inside loaded nested (ih second seam.of_append_left)

end Mustache.Proofs.Grammar
