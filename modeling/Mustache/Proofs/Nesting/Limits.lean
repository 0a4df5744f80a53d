import Mustache.Loader
import Mustache.Proofs.Grammar.Compilation
import Mustache.Template.Printer

/-!
# The limit on nesting

The limit of the options says how deep bodies may nest, and nothing else (`compile_withMaxDepth`).
Two facts make it so:

* `compileAt_continues`: a run with more levels ends as the run with fewer, with the same template
  or the same error, unless the run with fewer meets its limit. The limit stops a run wherever it is
  met, since it goes through partials as it is.
* `treeOf_withMaxDepth`: what a source derives has the same shape under every limit, so the depth of
  its tree decides whether a limit is met.
-/

namespace Mustache

def Options.withMaxDepth (limit : Nat) (options : Options) : Options :=
  { options with maxDepth := limit }

theorem Options.withMaxDepth_withMaxDepth (limit limit' : Nat) (options : Options) :
    (options.withMaxDepth limit').withMaxDepth limit = options.withMaxDepth limit := rfl

mutual

def Template.withMaxDepth (limit : Nat) : Template → Template
  | ⟨source, tokens, options⟩ =>
    ⟨source, Token.withMaxDepthAll limit tokens, options.withMaxDepth limit⟩

def Token.withMaxDepth (limit : Nat) : Token → Token
  | .literal start text => .literal start text
  | .value key escaped => .value key escaped
  | .block polarity key body => .block polarity key (body.withMaxDepth limit)
  | .inclusion path body => .inclusion path (body.withMaxDepth limit)

def Token.withMaxDepthAll (limit : Nat) : List Token → List Token
  | [] => []
  | token :: tokens => token.withMaxDepth limit :: Token.withMaxDepthAll limit tokens

end

theorem Token.withMaxDepthAll_eq_map (limit : Nat) (tokens : List Token) :
    Token.withMaxDepthAll limit tokens = tokens.map (Token.withMaxDepth limit) := by
  induction tokens with
  | nil => rfl
  | cons token tokens ih => rw [Token.withMaxDepthAll, ih, List.map_cons]

mutual

theorem Template.depth_withMaxDepth (limit : Nat) :
    ∀ template : Template, (template.withMaxDepth limit).depth = template.depth
  | ⟨_, tokens, _⟩ => Token.depthAll_withMaxDepth limit tokens

theorem Token.depth_withMaxDepth (limit : Nat) :
    ∀ token : Token, (token.withMaxDepth limit).depth = token.depth
  | .literal _ _ | .value _ _ => rfl
  | .block _ _ body | .inclusion _ body => congrArg (· + 1) (body.depth_withMaxDepth limit)

theorem Token.depthAll_withMaxDepth (limit : Nat) :
    ∀ tokens : List Token,
      Token.depthAll (Token.withMaxDepthAll limit tokens) = Token.depthAll tokens
  | [] => rfl
  | token :: tokens => by
    rw [Token.withMaxDepthAll, Token.depthAll, Token.depthAll, Token.depth_withMaxDepth,
      Token.depthAll_withMaxDepth]

end

end Mustache

namespace Mustache.Proofs.Nesting
open Grammar

variable {loader : Loader} {options : Options}

theorem tagFirst_withMaxDepth {limit : Nat} {tokens : List Token} (first : TagFirst tokens) :
    TagFirst (Token.withMaxDepthAll limit tokens) := by
  cases tokens with
  | nil => trivial
  | cons token tokens => cases token <;> trivial

theorem derives_withMaxDepth (limit : Nat) {start : Nat} {source : Bytes} {tokens : List Token}
    (derived : Derives loader options start source tokens) :
    Derives loader (options.withMaxDepth limit) start source
      (Token.withMaxDepthAll limit tokens) := by
  induction derived with
  | done => exact .done
  | literal filled plain apart first later ih =>
    exact .literal filled plain apart (tagFirst_withMaxDepth first) ih
  | value spelled later ih => exact .value spelled ih
  | block spelled nested apart closes later nestedIh ih =>
    exact .block spelled nestedIh apart closes ih
  | inclusion spelled inside loaded nested later nestedIh ih =>
    exact .inclusion spelled inside loaded nestedIh ih

theorem treeOf_withMaxDepth (limit : Nat) {source : Bytes} {template : Template}
    (tree : TreeOf loader options source template) :
    TreeOf loader (options.withMaxDepth limit) source (template.withMaxDepth limit) := by
  obtain ⟨tokens, rfl, derived⟩ := tree.eq_mk
  exact ⟨rfl, rfl, derives_withMaxDepth limit derived⟩

/-! ## Two runs -/

/-- A run with more levels ends as the one with fewer, unless that one meets its limit. -/
def Continues {α β : Type} (limit : Nat) (f : α → β) (fewer : Except SyntaxError α)
    (more : Except SyntaxError β) : Prop :=
  fewer = .error (.tooDeep limit) ∨ more = fewer.map f

section

variable {α β γ δ : Type} {limit : Nat} {f : α → β} {g : γ → δ}

theorem Continues.bind {fewer : Except SyntaxError α} {more : Except SyntaxError β}
    {next : α → Except SyntaxError γ} {next' : β → Except SyntaxError δ}
    (here : Continues limit f fewer more)
    (there : ∀ a, Continues limit g (next a) (next' (f a))) :
    Continues limit g (fewer >>= next) (more >>= next') := by
  rcases here with rfl | rfl
  · exact .inl rfl
  · cases fewer with
    | error error => exact .inr rfl
    | ok a => exact there a

theorem Continues.mapM {make : α → Except SyntaxError γ} {make' : α → Except SyntaxError δ}
    (each : ∀ a, Continues limit g (make a) (make' a)) (xs : List α) :
    Continues limit (List.map g) (xs.mapM make) (xs.mapM make') := by
  induction xs with
  | nil => exact .inr rfl
  | cons x xs ih =>
    rw [List.mapM_cons, List.mapM_cons]
    apply (each x).bind
    intro made
    apply ih.bind
    intro others
    exact .inr rfl

theorem Continues.within {fewer : Except SyntaxError α} {more : Except SyntaxError β}
    (here : Continues limit f fewer more) (path : String) :
    Continues limit f (tryCatch fewer fun cause => throw (cause.within path))
      (tryCatch more fun cause => throw (cause.within path)) := by
  rcases here with rfl | rfl
  · exact .inl rfl
  · cases fewer <;> exact .inr rfl

end

theorem compileItem_continues {levels levels' limit : Nat}
    (nested : ∀ source, Continues options.maxDepth (Template.withMaxDepth limit)
      (compileAt loader options levels source)
      (compileAt loader (options.withMaxDepth limit) levels' source))
    (item : Item) :
    Continues options.maxDepth (Token.withMaxDepth limit)
      (compileItem loader options levels item)
      (compileItem loader (options.withMaxDepth limit) levels' item) := by
  cases item with
  | literal start text => exact .inr rfl
  | value key escaped => exact .inr rfl
  | block polarity key body =>
    apply (nested body).bind
    intro inner
    exact .inr rfl
  | inclusion path =>
    simp only [compileItem, Item.compile]
    split
    · cases loader path with
      | error reason => exact .inr rfl
      | ok source =>
        apply ((nested source).within path).bind
        intro inner
        exact .inr rfl
    · exact .inr rfl

theorem compileAt_continues {levels levels' : Nat} (enough : levels ≤ levels') (limit : Nat)
    (source : Bytes) :
    Continues options.maxDepth (Template.withMaxDepth limit)
      (compileAt loader options levels source)
      (compileAt loader (options.withMaxDepth limit) levels' source) := by
  -- The run with fewer levels is the first to have none left, and then it meets its limit.
  induction levels generalizing levels' source with
  | zero => exact .inl rfl
  | succ levels ih =>
    cases levels' with
    | zero => omega
    | succ levels' =>
      have each := compileItem_continues (ih (Nat.le_of_succ_le_succ enough))
      simp only [compileAt, Template.compileAt]
      apply (Continues.mapM each _).bind
      intro tokens
      rw [← Token.withMaxDepthAll_eq_map]
      cases (Outline.ofSource source).fault <;> exact .inr rfl

theorem compile_continues {limit limit' : Nat} (enough : limit ≤ limit') (source : Bytes) :
    Continues limit (Template.withMaxDepth limit')
      (Template.compile loader (options.withMaxDepth limit) source)
      (Template.compile loader (options.withMaxDepth limit') source) :=
  compileAt_continues (Nat.succ_le_succ enough) limit' source

theorem compile_of_shallow {limit limit' : Nat} {source : Bytes} {template : Template}
    (compiled : Template.compile loader (options.withMaxDepth limit') source = .ok template)
    (shallow : template.depth ≤ limit) :
    Template.compile loader (options.withMaxDepth limit) source =
      .ok (template.withMaxDepth limit) := by
  have tree := treeOf_withMaxDepth limit (compileAt_eq_ok_iff.mp compiled).1
  rw [Options.withMaxDepth_withMaxDepth] at tree
  apply compileAt_eq_ok_iff.mpr
  refine ⟨tree, ?_⟩
  rw [Template.depth_withMaxDepth]
  exact Nat.lt_succ_of_le shallow

theorem compile_of_deep {limit limit' : Nat} (enough : limit ≤ limit') {source : Bytes}
    {template : Template}
    (compiled : Template.compile loader (options.withMaxDepth limit') source = .ok template)
    (deep : ¬ template.depth ≤ limit) :
    Template.compile loader (options.withMaxDepth limit) source = .error (.tooDeep limit) := by
  apply (compile_continues enough source).resolve_right
  intro same
  rw [compiled] at same
  cases fewer : Template.compile loader (options.withMaxDepth limit) source with
  | error error =>
    rw [fewer] at same
    cases same
  | ok smaller =>
    rw [fewer] at same
    cases same
    have bound := (compileAt_eq_ok_iff.mp fewer).2
    rw [Template.depth_withMaxDepth] at deep
    exact deep (Nat.le_of_lt_succ bound)

/-- A greater limit changes neither templates nor errors but for the error that the limit is met, a
smaller one refuses the templates that nest deeper, and what is in a template is what its own source
compiles to. -/
theorem compile_withMaxDepth (loader : Loader) (options : Options) {limit limit' : Nat}
    (enough : limit ≤ limit') (source : Bytes) :
    (Template.compile loader (options.withMaxDepth limit) source ≠ .error (.tooDeep limit) →
      Template.compile loader (options.withMaxDepth limit') source =
        (Template.compile loader (options.withMaxDepth limit) source).map
          (Template.withMaxDepth limit')) ∧
    (∀ template, Template.compile loader (options.withMaxDepth limit') source = .ok template →
      Template.compile loader (options.withMaxDepth limit) source =
        if template.depth ≤ limit then .ok (template.withMaxDepth limit)
        else .error (.tooDeep limit)) ∧
    ∀ template, Template.compile loader (options.withMaxDepth limit) source = .ok template →
      ∀ inner ∈ template.all,
        Template.compile loader (options.withMaxDepth limit) inner.source = .ok inner := by
  refine ⟨(compile_continues enough source).resolve_left, ?_, ?_⟩
  · intro template compiled
    split
    · next shallow => exact compile_of_shallow compiled shallow
    · next deep => exact compile_of_deep enough compiled deep
  · intro template compiled inner member
    obtain ⟨tree, shallow⟩ := compileAt_eq_ok_iff.mp compiled
    apply compileAt_eq_ok_iff.mpr
    refine ⟨tree.inner member, ?_⟩
    exact Nat.lt_of_le_of_lt (Template.depth_le_of_mem_all member) shallow

theorem compile_withMaxDepth_section :
    let loader := Registry.load ⟨[("item", valueSource "name" true)]⟩
    let source := openingSource .positive "list" ++ inclusionSource "item" ++ closingSource "list"
    let options : Options := Options.withMaxDepth 2 {}
    Template.compile loader options source = .ok ⟨source, [.block .positive "list"
        ⟨inclusionSource "item", [.inclusion "item"
          ⟨valueSource "name" true, [.value "name" true], options⟩], options⟩], options⟩ ∧
      Template.compile loader (Options.withMaxDepth 1 {}) source = .error (.tooDeep 1) := by
  intro loader source options
  have compiled : Template.compile loader options source = .ok ⟨source, [.block .positive "list"
      ⟨inclusionSource "item", [.inclusion "item"
        ⟨valueSource "name" true, [.value "name" true], options⟩], options⟩], options⟩ := by
    decide +kernel
  have fewer : 1 ≤ 2 := by decide
  obtain ⟨-, decides, -⟩ := compile_withMaxDepth loader {} fewer source
  exact ⟨compiled, decides _ compiled⟩

end Mustache.Proofs.Nesting
