import Mustache.Outline
import Mustache.Path
import Mustache.Template

/-!
# Compiling

A source is compiled by going through its outline: block bodies are compiled as sources of their
own, and so are the partials that the loader has bytes for. The depth limit counts down with every
body entered, whichever kind it is, so compiling ends even where partials include each other.

A loader may keep account of what it is asked for, so compiling works in any monad that can carry a
syntax error; `Template.compile` is the case of a loader without memory.
-/

namespace Mustache

abbrev Loader := String → Except LoadError Bytes

section

variable {m : Type → Type} [Monad m] [MonadExceptOf SyntaxError m]

def Item.compile (load : String → m (Except LoadError Bytes)) (nested : Bytes → m Template) :
    Item → m Token
  | .literal start text => return .literal start text
  | .value key escaped => return .value key escaped
  | .block polarity key body => return .block polarity key (← nested body)
  | .inclusion path =>
    if Path.isInside path.toList then do
      match ← load path with
      | .error reason => throw (.unreadablePartial path reason)
      | .ok source =>
        let body ← tryCatch (nested source) fun cause => throw (cause.within path)
        return .inclusion path body
    else throw (.refusedPath path)

/-- Compiles a source that may hold `levels - 1` levels of bodies. -/
def Template.compileAt (load : String → m (Except LoadError Bytes)) (options : Options) :
    Nat → Bytes → m Template
  | 0, _ => throw (.tooDeep options.maxDepth)
  | levels + 1, source => do
    let outline := Outline.ofSource source
    let tokens ← outline.items.mapM (Item.compile load (Template.compileAt load options levels))
    match outline.fault with
    | some fault => throw fault
    | none => return ⟨source, tokens, options⟩

end

def Template.compile (loader : Loader) (options : Options) (source : Bytes) :
    Except SyntaxError Template :=
  Template.compileAt (fun path => .ok (loader path)) options (options.maxDepth + 1) source

end Mustache
