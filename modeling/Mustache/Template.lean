import Mustache.Options
import Mustache.Tag

namespace Mustache

mutual

inductive Token where
  | literal (start : Nat) (text : Bytes)
  | value (key : String) (escaped : Bool)
  | block (polarity : Polarity) (key : String) (body : Template)
  | inclusion (path : String) (body : Template)

structure Template where
  source : Bytes
  tokens : List Token
  options : Options

end

mutual

def Token.decEq : (a b : Token) → Decidable (a = b)
  | .literal start text, .literal start' text' =>
    decidable_of_iff (start = start' ∧ text = text') (by simp)
  | .value key escaped, .value key' escaped' =>
    decidable_of_iff (key = key' ∧ escaped = escaped') (by simp)
  | .block polarity key body, .block polarity' key' body' =>
    have := Template.decEq body body'
    decidable_of_iff (polarity = polarity' ∧ key = key' ∧ body = body') (by simp)
  | .inclusion path body, .inclusion path' body' =>
    have := Template.decEq body body'
    decidable_of_iff (path = path' ∧ body = body') (by simp)
  | .literal .., .value .. | .literal .., .block .. | .literal .., .inclusion .. => isFalse nofun
  | .value .., .literal .. | .value .., .block .. | .value .., .inclusion .. => isFalse nofun
  | .block .., .literal .. | .block .., .value .. | .block .., .inclusion .. => isFalse nofun
  | .inclusion .., .literal .. | .inclusion .., .value .. | .inclusion .., .block .. =>
    isFalse nofun

def Token.decEqList : (as bs : List Token) → Decidable (as = bs)
  | [], [] => isTrue rfl
  | a :: as, b :: bs =>
    have := Token.decEq a b
    have := Token.decEqList as bs
    decidable_of_iff (a = b ∧ as = bs) (by simp)
  | [], _ :: _ | _ :: _, [] => isFalse nofun

def Template.decEq : (a b : Template) → Decidable (a = b)
  | ⟨source, tokens, options⟩, ⟨source', tokens', options'⟩ =>
    have := Token.decEqList tokens tokens'
    decidable_of_iff (source = source' ∧ tokens = tokens' ∧ options = options') (by simp)

end

instance : DecidableEq Token := Token.decEq

instance : DecidableEq Template := Template.decEq

def Token.body? : Token → Option Template
  | .block _ _ body | .inclusion _ body => some body
  | .literal .. | .value .. => none

mutual

def Template.listing (depth : Nat) : Template → List (Nat × Token)
  | ⟨_, tokens, _⟩ => Token.listingAll depth tokens

def Token.listing (depth : Nat) : Token → List (Nat × Token)
  | .block polarity key body => (depth, .block polarity key body) :: body.listing (depth + 1)
  | .inclusion path body => (depth, .inclusion path body) :: body.listing (depth + 1)
  | token => [(depth, token)]

def Token.listingAll (depth : Nat) : List Token → List (Nat × Token)
  | [] => []
  | token :: tokens => token.listing depth ++ Token.listingAll depth tokens

end

mutual

def Template.depth : Template → Nat
  | ⟨_, tokens, _⟩ => Token.depthAll tokens

def Token.depth : Token → Nat
  | .block _ _ body | .inclusion _ body => body.depth + 1
  | .literal .. | .value .. => 0

def Token.depthAll : List Token → Nat
  | [] => 0
  | token :: tokens => max token.depth (Token.depthAll tokens)

end

theorem Template.depth_eq_depthAll (template : Template) :
    template.depth = Token.depthAll template.tokens := by
  cases template
  rfl

theorem Token.depth_le_depthAll {token : Token} {tokens : List Token} (member : token ∈ tokens) :
    token.depth ≤ Token.depthAll tokens := by
  induction tokens with
  | nil => cases member
  | cons first others ih =>
    rw [Token.depthAll]
    rcases List.mem_cons.mp member with rfl | later
    · exact Nat.le_max_left _ _
    · exact Nat.le_trans (ih later) (Nat.le_max_right _ _)

mutual

def Template.all : Template → List Template
  | ⟨source, tokens, options⟩ => ⟨source, tokens, options⟩ :: Token.allWithin tokens

def Token.templates : Token → List Template
  | .block _ _ body | .inclusion _ body => body.all
  | .literal .. | .value .. => []

def Token.allWithin : List Token → List Template
  | [] => []
  | token :: tokens => token.templates ++ Token.allWithin tokens

end

theorem Token.allWithin_eq_flatMap (tokens : List Token) :
    Token.allWithin tokens = tokens.flatMap Token.templates := by
  induction tokens with
  | nil => rfl
  | cons token tokens ih => rw [Token.allWithin, ih, List.flatMap_cons]

theorem Template.all_eq_cons (template : Template) :
    template.all = template :: template.tokens.flatMap Token.templates := by
  rw [← Token.allWithin_eq_flatMap]
  cases template
  rfl

theorem Token.mem_templates_iff {token : Token} {inner : Template} :
    inner ∈ token.templates ↔ ∃ body, token.body? = some body ∧ inner ∈ body.all := by
  cases token <;> simp [Token.templates, Token.body?]

theorem Template.mem_all_iff {template inner : Template} :
    inner ∈ template.all ↔ inner = template ∨ ∃ token ∈ template.tokens, ∃ body,
      token.body? = some body ∧ inner ∈ body.all := by
  simp only [Template.all_eq_cons template, List.mem_cons, List.mem_flatMap,
    Token.mem_templates_iff]

theorem Template.mem_all_self {template : Template} : template ∈ template.all :=
  Template.mem_all_iff.mpr (.inl rfl)

theorem Template.mem_all_of_body {template body inner : Template} {token : Token}
    (member : token ∈ template.tokens) (within : token.body? = some body)
    (deeper : inner ∈ body.all) : inner ∈ template.all :=
  Template.mem_all_iff.mpr (.inr ⟨token, member, body, within, deeper⟩)

theorem Template.depth_lt_of_body {template body : Template} {token : Token}
    (member : token ∈ template.tokens) (within : token.body? = some body) :
    body.depth < template.depth := by
  have deeper : token.depth = body.depth + 1 := by
    cases token <;> simp_all [Token.body?, Token.depth]
  have bound := Token.depth_le_depthAll member
  rwa [deeper, ← Template.depth_eq_depthAll] at bound

@[elab_as_elim]
theorem Template.induction {motive : Template → Prop}
    (step : ∀ template : Template,
      (∀ token ∈ template.tokens, ∀ body, token.body? = some body → motive body) →
        motive template)
    (template : Template) : motive template := by
  refine step template fun token member body within => ?_
  have := Template.depth_lt_of_body member within
  exact Template.induction step body
termination_by template.depth

theorem Template.depth_le_of_mem_all {template inner : Template} (member : inner ∈ template.all) :
    inner.depth ≤ template.depth := by
  induction template using Template.induction with
  | step template ih =>
    rcases Template.mem_all_iff.mp member with rfl | ⟨token, listed, body, within, deeper⟩
    · exact Nat.le_refl _
    · have bound := ih token listed body within deeper
      exact Nat.le_of_lt (Nat.lt_of_le_of_lt bound (Template.depth_lt_of_body listed within))

theorem Template.mem_all_trans {template middle inner : Template} (outer : middle ∈ template.all)
    (deeper : inner ∈ middle.all) : inner ∈ template.all := by
  induction template using Template.induction with
  | step template ih =>
    rcases Template.mem_all_iff.mp outer with rfl | ⟨token, listed, body, within, member⟩
    · exact deeper
    · exact Template.mem_all_of_body listed within (ih token listed body within member)

def Template.keys (template : Template) : List String :=
  template.all.flatMap fun inner => inner.tokens.filterMap fun
    | .value key _ | .block _ key _ => some key
    | .literal .. | .inclusion .. => none

def Template.paths (template : Template) : List String :=
  template.all.flatMap fun inner => inner.tokens.filterMap fun
    | .inclusion path _ => some path
    | .literal .. | .value .. | .block .. => none

theorem Template.mem_paths_iff {template : Template} {path : String} :
    path ∈ template.paths ↔
      ∃ inner ∈ template.all, ∃ body, Token.inclusion path body ∈ inner.tokens := by
  simp only [Template.paths, List.mem_flatMap, List.mem_filterMap]
  constructor
  · rintro ⟨inner, member, token, listed, same⟩
    cases token with
    | inclusion path body =>
      cases same
      exact ⟨inner, member, body, listed⟩
    | literal | value | block => cases same
  · rintro ⟨inner, member, body, listed⟩
    exact ⟨inner, member, _, listed, rfl⟩

end Mustache
