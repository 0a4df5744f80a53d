import Mustache.Render
import Mustache.Template.Printer
import Mustache.Proofs.Output.Entities

namespace Mustache.Proofs.Output

def literals (template : Template) : List Bytes :=
  template.all.flatMap fun inner => inner.tokens.filterMap fun
    | .literal _ text => some text
    | .value .. | .block .. | .inclusion .. => none

def Escaped (template : Template) : Prop :=
  ∀ inner ∈ template.all, ∀ key, Token.value key false ∉ inner.tokens

theorem Escaped.body {template body : Template} {token : Token} (escaped : Escaped template)
    (member : token ∈ template.tokens) (within : token.body? = some body) : Escaped body := by
  intro inner deeper
  exact escaped inner (Template.mem_all_of_body member within deeper)

theorem mem_literals_iff {template : Template} {text : Bytes} :
    text ∈ literals template ↔
      ∃ inner ∈ template.all, ∃ start, Token.literal start text ∈ inner.tokens := by
  simp only [literals, List.mem_flatMap, List.mem_filterMap]
  constructor
  · rintro ⟨inner, member, token, listed, same⟩
    cases token with
    | literal start text =>
      cases same
      exact ⟨inner, member, start, listed⟩
    | value | block | inclusion => cases same
  · rintro ⟨inner, member, start, listed⟩
    exact ⟨inner, member, _, listed, rfl⟩

theorem mem_literals_of_body {template body : Template} {token : Token} {text : Bytes}
    (member : token ∈ template.tokens) (within : token.body? = some body)
    (literal : text ∈ literals body) : text ∈ literals template := by
  obtain ⟨inner, deeper, start, listed⟩ := mem_literals_iff.mp literal
  refine mem_literals_iff.mpr ⟨inner, ?_, start, listed⟩
  exact Template.mem_all_of_body member within deeper

variable {P : Bytes → Prop}

theorem piecewise_append (piecewise : Piecewise P) {first next : Rendering}
    (here : P first.written) (there : P next.written) : P (first ++ next).written := by
  obtain ⟨written, error | done⟩ := first
  · exact here
  · exact piecewise.append here there

theorem piecewise_marshal (piecewise : Piecewise P) {body : Scope → Rendering}
    (written : ∀ scope, P (body scope).written) (subject : Value) (adapter : Adapter) :
    P (adapter.marshal subject body).written := by
  fun_induction Adapter.marshal subject body adapter with
  | case1 empty lookup => exact written _
  | case2 inner => exact written _
  | case3 empty outcome => exact piecewise.nil
  | case4 empty inner settle ih => exact ih

theorem piecewise_enter (piecewise : Piecewise P) {body : Scope → Rendering}
    (written : ∀ scope, P (body scope).written) (value : Value) : P (value.enter body).written := by
  unfold Value.enter
  split
  · exact piecewise_marshal piecewise written _ _
  · exact written _

theorem piecewise_enterAll (piecewise : Piecewise P) {body : Scope → Rendering}
    (written : ∀ scope, P (body scope).written) (items : List Value) :
    P (Value.enterAll body items).written := by
  induction items with
  | nil => exact piecewise.nil
  | cons item items ih =>
    exact piecewise_append piecewise (piecewise_enter piecewise written item) ih

theorem piecewise_token (piecewise : Piecewise P) (escape : ∀ text, P (escape text)) {token : Token}
    (literal : ∀ start text, token = .literal start text → P text)
    (escaped : ∀ key, token ≠ .value key false)
    (body : ∀ body, token.body? = some body → ∀ scope, P (body.walk scope).written)
    (scope : Scope) :
    P (token.walk scope).written := by
  cases token with
  | literal start text => exact literal start text rfl
  | value key isEscaped =>
    cases isEscaped with
    | false => exact absurd rfl (escaped key)
    | true =>
      simp only [Token.walk]
      split
      · exact piecewise.nil
      · exact escape _
  | block polarity key inner =>
    have inside := body inner rfl
    cases polarity with
    | positive =>
      simp only [Token.walk]
      split
      · exact inside scope
      · exact piecewise_enterAll piecewise inside _
      · split
        · exact piecewise_enter piecewise inside _
        · exact piecewise.nil
    | inverted =>
      simp only [Token.walk]
      split
      · exact piecewise.nil
      · exact inside scope
  | inclusion path inner => exact body inner rfl scope

theorem piecewise_walkAll (piecewise : Piecewise P) {tokens : List Token} {scope : Scope}
    (each : ∀ token ∈ tokens, P (token.walk scope).written) :
    P (Token.walkAll tokens scope).written := by
  induction tokens with
  | nil => exact piecewise.nil
  | cons token tokens ih =>
    obtain ⟨first, others⟩ := List.forall_mem_cons.mp each
    exact piecewise_append piecewise first (ih others)

theorem piecewise_walk (piecewise : Piecewise P) (escape : ∀ text, P (escape text))
    (template : Template) (escaped : Escaped template)
    (literal : ∀ text ∈ literals template, P text) (scope : Scope) :
    P (template.walk scope).written := by
  induction template using Template.induction generalizing scope with
  | step template ih =>
    have tokens : P (Token.walkAll template.tokens scope).written := by
      apply piecewise_walkAll piecewise
      intro token member
      apply piecewise_token piecewise escape
      · rintro start text rfl
        exact literal text (mem_literals_iff.mpr ⟨template, Template.mem_all_self, start, member⟩)
      · rintro key rfl
        exact escaped template Template.mem_all_self key member
      · intro body within scope
        refine ih token member body within (escaped.body member within) ?_ scope
        exact fun text inside => literal text (mem_literals_of_body member within inside)
    cases template
    exact tokens

theorem piecewise_output (piecewise : Piecewise P) (escape : ∀ text, P (escape text))
    {template : Template} (escaped : Escaped template)
    (literal : ∀ text ∈ literals template, P text) {data : Value} {output : Bytes}
    (rendered : template.render data = .ok output) : P output := by
  have written := piecewise_walk piecewise escape template escaped literal
  have whole {rendering : Rendering} (done : rendering.output = .ok output)
      (holds : P rendering.written) : P output := by
    obtain ⟨written, error | done'⟩ := rendering
    · cases done
    · cases done
      exact holds
  unfold Template.render at rendered
  split at rendered
  · exact whole rendered (piecewise_enter piecewise written _)
  · split at rendered
    · cases rendered
    · exact whole rendered (piecewise_enterAll piecewise written _)
  · cases rendered

/-- Output that consists of some texts and of escaped ones. -/
def Pieces (texts : List Bytes) (output : Bytes) : Prop :=
  ∃ pieces : List Bytes, output = pieces.flatten ∧
    ∀ piece ∈ pieces, piece ∈ texts ∨ ∃ text, piece = escape text

theorem piecewise_pieces (texts : List Bytes) : Piecewise (Pieces texts) := by
  constructor
  · exact ⟨[], rfl, nofun⟩
  · rintro _ _ ⟨left, rfl, known⟩ ⟨right, rfl, known'⟩
    exact ⟨left ++ right, List.flatten_append.symm, List.forall_mem_append.mpr ⟨known, known'⟩⟩

theorem pieces_singleton {texts : List Bytes} {piece : Bytes}
    (known : piece ∈ texts ∨ ∃ text, piece = escape text) : Pieces texts piece := by
  refine ⟨[piece], List.flatten_singleton.symm, ?_⟩
  intro other member
  rw [List.mem_singleton.mp member]
  exact known

/-- Without raw values, output has no markup but that of its literals. -/
theorem render_escaped {template : Template} {data : Value} {output : Bytes}
    (escaped : Escaped template) (rendered : template.render data = .ok output) :
    Pieces (literals template) output ∧
      (∀ b ∈ delimiters, (∀ text ∈ literals template, b ∉ text) → b ∉ output) ∧
      ((∀ text ∈ literals template, ampersand ∉ text) → Ampersands output) := by
  refine ⟨?_, ?_, ?_⟩
  · refine piecewise_output (piecewise_pieces _) ?_ escaped ?_ rendered
    · exact fun text => pieces_singleton (.inr ⟨text, rfl⟩)
    · exact fun text literal => pieces_singleton (.inl literal)
  · intro b delimits absent
    exact piecewise_output (piecewise_not_mem b) (not_mem_escape delimits) escaped absent rendered
  · intro absent
    refine piecewise_output piecewise_ampersands ampersands_escape escaped ?_ rendered
    exact fun text literal => ampersands_of_not_mem (absent text literal)

theorem render_escaped_list :
    let item : Template := ⟨Bytes.ofText "- " ++ valueSource "." true,
      [.literal 0 (Bytes.ofText "- "), .value "." true], {}⟩
    let template : Template := ⟨blockSource .positive "items" item.source,
      [.block .positive "items" item], {}⟩
    template.render (.object (.fields false fun _ => .list [.text "a<b", .text "&lt;"])) =
        .ok (Bytes.ofText "- a&lt;b- &amp;lt;") ∧
      0x3c ∉ Bytes.ofText "- a&lt;b- &amp;lt;" ∧
      Ampersands (Bytes.ofText "- a&lt;b- &amp;lt;") := by
  intro item template
  have escaped : Escaped template := by
    intro inner member key
    have known : inner = template ∨ inner = item := by
      simpa [template, item, Template.all, Token.allWithin, Token.templates] using member
    rcases known with rfl | rfl
    · simp [template]
    · simp [item]
  have rendered : template.render
      (.object (.fields false fun _ => .list [.text "a<b", .text "&lt;"])) =
        .ok (Bytes.ofText "- a&lt;b- &amp;lt;") := by
    decide +kernel
  have clean : ∀ text ∈ literals template, 0x3c ∉ text ∧ ampersand ∉ text := by decide +kernel
  obtain ⟨-, delimiters, ampersands⟩ := render_escaped escaped rendered
  refine ⟨rendered, ?_, ?_⟩
  · exact delimiters 0x3c List.mem_cons_self fun text literal => (clean text literal).1
  · exact ampersands fun text literal => (clean text literal).2

end Mustache.Proofs.Output
