import Mustache.Loader
import Mustache.Proofs.Grammar.Compilation
import Mustache.Template.Printer

namespace Mustache.Proofs.Nesting
open Grammar

variable {loader : Loader} {options : Options}

inductive Chain : Template → List Token → Prop
  | last {template : Template} {token : Token} : token ∈ template.tokens → Chain template [token]
  | into {template body : Template} {token : Token} {tokens : List Token} :
      token ∈ template.tokens → token.body? = some body → Chain body tokens →
      Chain template (token :: tokens)

def included : Token → Option String
  | .inclusion path _ => some path
  | .literal .. | .value .. | .block .. => none

theorem Chain.inner {template : Template} {tokens : List Token} (chain : Chain template tokens)
    {token : Token} (member : token ∈ tokens) : ∃ inner ∈ template.all, token ∈ inner.tokens := by
  induction chain with
  | last listed =>
    rw [List.mem_singleton] at member
    subst member
    exact ⟨_, Template.mem_all_self, listed⟩
  | into listed within chain ih =>
    rcases List.mem_cons.mp member with rfl | later
    · exact ⟨_, Template.mem_all_self, listed⟩
    · obtain ⟨inner, deeper, found⟩ := ih later
      exact ⟨inner, Template.mem_all_of_body listed within deeper, found⟩

theorem not_within_itself {source : Bytes} {template inner deeper body body' : Template}
    {path : String} (tree : TreeOf loader options source template) (outer : inner ∈ template.all)
    (listed : Token.inclusion path body ∈ inner.tokens) (within : deeper ∈ body.all) :
    Token.inclusion path body' ∉ deeper.tokens := by
  intro listed'
  have first := tree.inner outer
  have second := (first.body listed rfl).inner within
  -- Both bodies come from the text of one path, so the inner one is the outer one again.
  have inside : TreeOf loader options body.source body' :=
    second.included listed' (first.loaded listed)
  have same : body' = body := inside.unique (first.body listed rfl)
  have smaller : body'.depth < deeper.depth := Template.depth_lt_of_body listed' rfl
  have bound : deeper.depth ≤ body.depth := Template.depth_le_of_mem_all within
  rw [same] at smaller
  omega

theorem Chain.nodup {source : Bytes} {template : Template} {tokens : List Token}
    (chain : Chain template tokens) (tree : TreeOf loader options source template) :
    (tokens.filterMap included).Nodup := by
  induction chain generalizing source with
  | @last _ token listed =>
    cases token with
    | literal | value | block => exact List.nodup_nil
    | inclusion path => exact List.pairwise_singleton _ path
  | @into template body token tokens listed within chain ih =>
    have later := ih (tree.body listed within)
    cases token with
    | literal | value => cases within
    | block => exact later
    | inclusion path =>
      cases within
      apply List.nodup_cons.mpr
      refine ⟨?_, later⟩
      intro again
      obtain ⟨token, member, same⟩ := List.mem_filterMap.mp again
      obtain ⟨deeper, inside, listed'⟩ := chain.inner member
      cases token with
      | literal | value | block => cases same
      | inclusion path' body' =>
        cases same
        exact not_within_itself tree Template.mem_all_self listed inside listed'

/-! ## What a source reaches -/

inductive Mentions : Bytes → String → Prop
  | here {source : Bytes} {path : String} :
      Item.inclusion path ∈ (Outline.ofSource source).items → Mentions source path
  | block {source body : Bytes} {polarity : Polarity} {key path : String} :
      Item.block polarity key body ∈ (Outline.ofSource source).items → Mentions body path →
      Mentions source path

inductive Reaches (loader : Loader) : Bytes → String → Prop
  | mentioned {source : Bytes} {path : String} : Mentions source path → Reaches loader source path
  | through {source inner : Bytes} {path path' : String} :
      Mentions source path → loader path = .ok inner → Reaches loader inner path' →
      Reaches loader source path'

theorem Mentions.mem_paths {source : Bytes} {template : Template} {path : String}
    (mentions : Mentions source path) (tree : TreeOf loader options source template) :
    path ∈ template.paths := by
  rw [Template.mem_paths_iff]
  induction mentions generalizing template with
  | here item =>
    obtain ⟨items, scanned, compiled⟩ := tree.compiled
    rw [scanned] at item
    obtain ⟨token, listed, made⟩ := exists_mem_of_forall₂ compiled.flip item
    obtain ⟨-, source, body, -, -, rfl⟩ := compileItem_inclusion_iff.mp made
    exact ⟨template, Template.mem_all_self, body, listed⟩
  | block item mentions ih =>
    obtain ⟨items, scanned, compiled⟩ := tree.compiled
    rw [scanned] at item
    obtain ⟨token, listed, made⟩ := exists_mem_of_forall₂ compiled.flip item
    obtain ⟨inner, nested, rfl⟩ := compileItem_block_iff.mp made
    obtain ⟨deeper, inside, body, found⟩ := ih (compileAt_eq_ok_iff.mp nested).1
    exact ⟨deeper, Template.mem_all_of_body listed rfl inside, body, found⟩

theorem Reaches.mem_paths {source : Bytes} {template : Template} {path : String}
    (reaches : Reaches loader source path) (tree : TreeOf loader options source template) :
    path ∈ template.paths := by
  induction reaches generalizing template with
  | mentioned mentions => exact mentions.mem_paths tree
  | through mentions loaded reaches ih =>
    obtain ⟨inner, outer, body, listed⟩ := Template.mem_paths_iff.mp (mentions.mem_paths tree)
    have nested := (tree.inner outer).included listed loaded
    obtain ⟨deeper, inside, found⟩ := Template.mem_paths_iff.mp (ih nested)
    have within := Template.mem_all_of_body listed rfl inside
    exact Template.mem_paths_iff.mpr ⟨deeper, Template.mem_all_trans outer within, found⟩

/-- In a template no partial is inside itself, and a source with a partial that reaches itself
compiles under no limit. -/
theorem compile_acyclic (loader : Loader) (source : Bytes) :
    (∀ options template, Template.compile loader options source = .ok template →
      ∀ tokens, Chain template tokens → (tokens.filterMap included).Nodup) ∧
    ∀ path text, Reaches loader source path → loader path = .ok text → Reaches loader text path →
      ∀ options, ∃ error, Template.compile loader options source = .error error := by
  constructor
  · intro options template compiled tokens chain
    exact chain.nodup (compileAt_eq_ok_iff.mp compiled).1
  · intro path text reaches loaded again options
    cases compiled : Template.compile loader options source with
    | error error => exact ⟨error, rfl⟩
    | ok template =>
      have tree := (compileAt_eq_ok_iff.mp compiled).1
      obtain ⟨inner, outer, body, listed⟩ := Template.mem_paths_iff.mp (reaches.mem_paths tree)
      have nested := (tree.inner outer).included listed loaded
      have inside := Template.mem_paths_iff.mp (again.mem_paths nested)
      obtain ⟨deeper, within, body', listed'⟩ := inside
      exact absurd listed' (not_within_itself tree outer listed within)

theorem compile_acyclic_mutual :
    let first := openingSource .positive "more" ++ inclusionSource "second" ++ closingSource "more"
    let loader := Registry.load ⟨[("first", first), ("second", inclusionSource "first")]⟩
    ∀ options, ∃ error,
      Template.compile loader options (inclusionSource "first") = .error error := by
  intro first loader
  have mentions : Mentions (inclusionSource "first") "first" := .here (by decide +kernel)
  have section_ : Item.block .positive "more" (inclusionSource "second") ∈
      (Outline.ofSource first).items := by
    decide +kernel
  have next : Mentions first "second" := .block section_ (.here (by decide +kernel))
  have again : Reaches loader first "first" :=
    .through next (by decide +kernel) (.mentioned mentions)
  exact (compile_acyclic loader _).2 "first" first (.mentioned mentions) (by decide +kernel) again

end Mustache.Proofs.Nesting
