import Mustache.Loader
import Mustache.Proofs.Grammar.Compilation
import Mustache.Template.Printer

/-!
# Errors and the partials around them

An error that is met in a partial is wrapped once for each partial on the way out, so its causes are
the stack of includes that led to it. `SyntaxError.unwind` takes the wrappings off again, and
`Traced` says what such a stack has to do with the sources: every path is that of a tag in the text
of the one before, in blocks or not, and what is left at the bottom is what the last path or the
text that it stands for was refused for.

An error of a source is one of five kinds (`arises_of_compileAt`). From this follows the main
statement, `compile_error_unwind`, by induction on the levels that are left.
-/

namespace Mustache

inductive Ground where
  | refused
  | unreadable (reason : LoadError)
  | own (error : SyntaxError)
  deriving DecidableEq, Repr

namespace SyntaxError

def unwind : SyntaxError → List String × Ground
  | .refusedPath path => ([path], .refused)
  | .unreadablePartial path reason => ([path], .unreadable reason)
  | .inPartial path cause => (path :: cause.unwind.1, cause.unwind.2)
  | error => ([], .own error)

theorem unwind_of_own {error : SyntaxError} (own : error.isOfPartial = false) :
    error.unwind = ([], .own error) := by
  cases error with
  | refusedPath | unreadablePartial | inPartial => cases own
  | _ => rfl

theorem own_of_unwind {error : SyntaxError} (alone : error.unwind.1 = []) :
    error.isOfPartial = false := by
  cases error with
  | refusedPath | unreadablePartial | inPartial => cases alone
  | _ => rfl

theorem length_causes (error : SyntaxError) : error.causes.length = error.unwind.1.length := by
  induction error with
  | inPartial path cause ih => simp [causes, unwind, ih]
  | _ => rfl

theorem within_cases (path : String) (cause : SyntaxError) :
    (∃ limit, cause = .tooDeep limit ∧ cause.within path = .tooDeep limit) ∨
      (∀ limit, cause ≠ .tooDeep limit) ∧ cause.within path = .inPartial path cause := by
  cases cause with
  | tooDeep limit => exact .inl ⟨limit, rfl, rfl⟩
  | _ => exact .inr ⟨nofun, rfl⟩

end SyntaxError

end Mustache

namespace Mustache.Proofs.Nesting
open Grammar

variable {loader : Loader} {options : Options}

inductive Arises (loader : Loader) (options : Options) (levels : Nat) (source : Bytes) :
    SyntaxError → Prop
  | fault {error : SyntaxError} : (Outline.ofSource source).fault = some error →
      Arises loader options levels source error
  | body {polarity : Polarity} {key : String} {body : Bytes} {error : SyntaxError} :
      Item.block polarity key body ∈ (Outline.ofSource source).items →
      compileAt loader options levels body = .error error →
      Arises loader options levels source error
  | refused {path : String} : Item.inclusion path ∈ (Outline.ofSource source).items →
      Path.isInside path.toList = false → Arises loader options levels source (.refusedPath path)
  | unreadable {path : String} {reason : LoadError} :
      Item.inclusion path ∈ (Outline.ofSource source).items → Path.isInside path.toList = true →
      loader path = .error reason →
      Arises loader options levels source (.unreadablePartial path reason)
  | within {path : String} {text : Bytes} {cause : SyntaxError} :
      Item.inclusion path ∈ (Outline.ofSource source).items → Path.isInside path.toList = true →
      loader path = .ok text → compileAt loader options levels text = .error cause →
      Arises loader options levels source (cause.within path)

theorem mem_of_mapM_error {ε α β : Type} {f : α → Except ε β} {xs : List α} {error : ε}
    (failed : xs.mapM f = .error error) : ∃ x ∈ xs, f x = .error error := by
  induction xs with
  | nil => cases failed
  | cons x xs ih =>
    rw [List.mapM_cons] at failed
    cases first : f x with
    | error error' =>
      rw [first] at failed
      cases failed
      exact ⟨x, List.mem_cons_self, first⟩
    | ok y =>
      cases others : xs.mapM f with
      | error error' =>
        rw [first, others] at failed
        cases failed
        obtain ⟨x', member, failed'⟩ := ih others
        exact ⟨x', List.mem_cons_of_mem _ member, failed'⟩
      | ok ys =>
        rw [first, others] at failed
        cases failed

theorem arises_of_item {levels : Nat} {source : Bytes} {item : Item} {error : SyntaxError}
    (listed : item ∈ (Outline.ofSource source).items)
    (failed : compileItem loader options levels item = .error error) :
    Arises loader options levels source error := by
  cases item with
  | literal | value => cases failed
  | block polarity key body =>
    apply Arises.body listed
    cases compiled : compileAt loader options levels body with
    | error error' =>
      simpa [compileItem, Item.compile, compiled, bind, Except.bind] using failed
    | ok inner =>
      simp [compileItem, Item.compile, compiled, bind, Except.bind, pure, Except.pure] at failed
  | inclusion path =>
    simp only [compileItem, Item.compile] at failed
    split at failed
    · next inside =>
      cases loaded : loader path with
      | error reason =>
        rw [loaded] at failed
        cases failed
        exact .unreadable listed inside loaded
      | ok text =>
        rw [loaded] at failed
        cases compiled : compileAt loader options levels text with
        | error cause =>
          have same : error = cause.within path := by
            simpa [compiled, bind, Except.bind, tryCatch, tryCatchThe, MonadExceptOf.tryCatch,
              Except.tryCatch, throw, throwThe, MonadExceptOf.throw, eq_comm] using failed
          rw [same]
          exact .within listed inside loaded compiled
        | ok inner =>
          simp [compiled, bind, Except.bind, tryCatch, tryCatchThe, MonadExceptOf.tryCatch,
            Except.tryCatch, pure, Except.pure] at failed
    · next outside =>
      cases failed
      exact .refused listed (eq_false_of_ne_true outside)

theorem arises_of_compileAt {levels : Nat} {source : Bytes} {error : SyntaxError}
    (failed : compileAt loader options (levels + 1) source = .error error) :
    Arises loader options levels source error := by
  simp only [compileAt, Template.compileAt] at failed
  cases made : (Outline.ofSource source).items.mapM (compileItem loader options levels) with
  | error error' =>
    rw [made] at failed
    cases failed
    obtain ⟨item, listed, failed⟩ := mem_of_mapM_error made
    exact arises_of_item listed failed
  | ok tokens =>
    rw [made] at failed
    cases fault : (Outline.ofSource source).fault with
    | none => simp [fault, bind, Except.bind, pure, Except.pure] at failed
    | some error' =>
      have same : error' = error := by
        simpa [fault, bind, Except.bind, throw, throwThe, MonadExceptOf.throw] using failed
      exact .fault (same ▸ fault)

theorem own_of_find {key : String} {inner : Nat} {c : Cursor} {error : SyntaxError}
    (failed : BlockEnd.find key inner c = .error error) : error.isOfPartial = false := by
  fun_induction BlockEnd.find key inner c
  case case1 | case2 | case4 | case7 =>
    cases failed
    rfl
  case case6 => cases failed
  case case3 ih | case5 ih | case8 ih | case9 ih => exact ih failed

theorem own_of_fault {source : Bytes} {c : Cursor} {error : SyntaxError}
    (fault : (Outline.scan source c).fault = some error) : error.isOfPartial = false := by
  fun_induction Outline.scan source c
  case case1 => cases fault
  case case2 | case3 | case4 =>
    cases fault
    rfl
  case case7 ended =>
    cases fault
    exact own_of_find ended
  case case5 ih | case6 ih | case8 ih => exact ih fault

/-! ## Stacks of includes -/

/-- From a source at some depth, a stack of includes leads to a ground. The text of a partial and
the body of a block are one deeper than what they stand in, but only a partial has a path. -/
inductive Traced (loader : Loader) (options : Options) :
    Nat → Bytes → List String → Ground → Prop
  | own {depth : Nat} {source : Bytes} {error : SyntaxError} : error.isOfPartial = false →
      compileAt loader options (options.maxDepth + 1 - depth) source = .error error →
      Traced loader options depth source [] (.own error)
  | block {depth : Nat} {source body : Bytes} {polarity : Polarity} {key path : String}
      {paths : List String} {ground : Ground} :
      Item.block polarity key body ∈ (Outline.ofSource source).items →
      Traced loader options (depth + 1) body (path :: paths) ground →
      Traced loader options depth source (path :: paths) ground
  | refused {depth : Nat} {source : Bytes} {path : String} :
      Item.inclusion path ∈ (Outline.ofSource source).items → Path.isInside path.toList = false →
      Traced loader options depth source [path] .refused
  | unreadable {depth : Nat} {source : Bytes} {path : String} {reason : LoadError} :
      Item.inclusion path ∈ (Outline.ofSource source).items → Path.isInside path.toList = true →
      loader path = .error reason → Traced loader options depth source [path] (.unreadable reason)
  | through {depth : Nat} {source text : Bytes} {path : String} {paths : List String}
      {ground : Ground} :
      Item.inclusion path ∈ (Outline.ofSource source).items → Path.isInside path.toList = true →
      loader path = .ok text → Traced loader options (depth + 1) text paths ground →
      Traced loader options depth source (path :: paths) ground

structure Explained (loader : Loader) (options : Options) (depth : Nat) (source : Bytes)
    (error : SyntaxError) : Prop where
  traced : Traced loader options depth source error.unwind.1 error.unwind.2
  length_le : error.unwind.1.length ≤ options.maxDepth + 1 - depth
  not_tooDeep : error.unwind.1 ≠ [] → ∀ limit, error.unwind.2 ≠ .own (.tooDeep limit)

theorem Explained.own {depth : Nat} {source : Bytes} {error : SyntaxError}
    (own : error.isOfPartial = false)
    (failed : compileAt loader options (options.maxDepth + 1 - depth) source = .error error) :
    Explained loader options depth source error := by
  have alone := SyntaxError.unwind_of_own own
  refine ⟨?_, ?_, ?_⟩
  · rw [alone]
    exact .own own failed
  · rw [alone]
    exact Nat.zero_le _
  · intro wrapped
    rw [alone] at wrapped
    exact absurd rfl wrapped

theorem Explained.block {depth : Nat} {source body : Bytes} {polarity : Polarity} {key : String}
    {error : SyntaxError} (inner : Explained loader options (depth + 1) body error)
    (listed : Item.block polarity key body ∈ (Outline.ofSource source).items)
    (failed : compileAt loader options (options.maxDepth + 1 - depth) source = .error error) :
    Explained loader options depth source error := by
  obtain ⟨traced, length_le, not_tooDeep⟩ := inner
  refine ⟨?_, by omega, not_tooDeep⟩
  cases paths : error.unwind.1 with
  | nil =>
    have own := SyntaxError.own_of_unwind paths
    rw [SyntaxError.unwind_of_own own]
    exact .own own failed
  | cons path paths' =>
    rw [paths] at traced
    exact .block listed traced

theorem Explained.within {depth : Nat} {source text : Bytes} {path : String} {cause : SyntaxError}
    (inner : Explained loader options (depth + 1) text cause) (shallow : depth ≤ options.maxDepth)
    (listed : Item.inclusion path ∈ (Outline.ofSource source).items)
    (inside : Path.isInside path.toList = true) (loaded : loader path = .ok text)
    (failed : compileAt loader options (options.maxDepth + 1 - depth) source =
      .error (cause.within path)) :
    Explained loader options depth source (cause.within path) := by
  rcases cause.within_cases path with ⟨limit, -, same⟩ | ⟨other, same⟩
  · rw [same] at failed ⊢
    exact .own rfl failed
  · obtain ⟨traced, length_le, not_tooDeep⟩ := inner
    rw [same]
    refine ⟨.through listed inside loaded traced, ?_, ?_⟩
    · rw [SyntaxError.unwind, List.length_cons]
      omega
    · intro _ limit
      -- What is met in the partial itself is no limit, since a limit goes through as it is.
      cases paths : cause.unwind.1 with
      | nil =>
        have own := SyntaxError.own_of_unwind paths
        rw [SyntaxError.unwind, SyntaxError.unwind_of_own own]
        exact fun same => other limit (Ground.own.inj same)
      | cons path' paths' => exact not_tooDeep (by simp [paths]) limit

theorem explained_of_compileAt {levels depth : Nat} (count : depth + levels = options.maxDepth + 1)
    {source : Bytes} {error : SyntaxError}
    (failed : compileAt loader options levels source = .error error) :
    Explained loader options depth source error := by
  have left : levels = options.maxDepth + 1 - depth := by omega
  -- Depth and levels keep their sum on the way down, so no level is left just below the limit.
  induction levels generalizing depth source error with
  | zero =>
    cases failed
    exact .own rfl (left ▸ rfl)
  | succ levels ih =>
    have here := left ▸ failed
    cases arises_of_compileAt failed with
    | fault fault => exact .own (own_of_fault fault) here
    | body listed compiled => exact (ih (by omega) compiled (by omega)).block listed here
    | refused listed outside =>
      refine ⟨.refused listed outside, ?_, nofun⟩
      rw [← left]
      exact Nat.succ_le_succ (Nat.zero_le levels)
    | unreadable listed inside loaded =>
      refine ⟨.unreadable listed inside loaded, ?_, nofun⟩
      rw [← left]
      exact Nat.succ_le_succ (Nat.zero_le levels)
    | within listed inside loaded compiled =>
      exact (ih (by omega) compiled (by omega)).within (by omega) listed inside loaded here

/-- The causes of an error are the includes that led to it, one for each partial: they start at a
tag of the source, go on from text to text, and end at what the last path or its text was refused
for. There are no more of them than levels, and the limit is never below a partial. -/
theorem compile_error_unwind {source : Bytes} {error : SyntaxError}
    (failed : Template.compile loader options source = .error error) :
    Traced loader options 0 source error.unwind.1 error.unwind.2 ∧
      error.causes.length = error.unwind.1.length ∧
      error.unwind.1.length ≤ options.maxDepth + 1 ∧
      (error.unwind.1 ≠ [] → ∀ limit, error.unwind.2 ≠ .own (.tooDeep limit)) := by
  have explained : Explained loader options 0 source error :=
    explained_of_compileAt (Nat.zero_add _) failed
  exact ⟨explained.traced, error.length_causes, explained.length_le, explained.not_tooDeep⟩

theorem compile_error_unwind_block :
    let item := openingSource .inverted "name" ++ inclusionSource "line" ++ closingSource "name"
    let line := [openBrace, openBrace, 0x21]
    let loader := Registry.load ⟨[("item", item), ("line", line)]⟩
    let options : Options := { maxDepth := 3 }
    let error := SyntaxError.inPartial "item" (.inPartial "line" (.malformedTag "\x7b\x7b!"))
    Template.compile loader options (inclusionSource "item") = .error error ∧
      Traced loader options 0 (inclusionSource "item") ["item", "line"]
        (.own (.malformedTag "\x7b\x7b!")) ∧
      ["item", "line"].length ≤ options.maxDepth + 1 := by
  intro item line loader options error
  have failed : Template.compile loader options (inclusionSource "item") = .error error := by
    decide +kernel
  obtain ⟨traced, -, length_le, -⟩ := compile_error_unwind failed
  exact ⟨failed, traced, length_le⟩

end Mustache.Proofs.Nesting
