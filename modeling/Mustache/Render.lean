import Mustache.Escape
import Mustache.Template
import Mustache.Value

/-!
# Rendering

A template is rendered in a scope: the current subject, which the key `.` means, and a lookup for
all other keys. Text is copied, values are written, and blocks go on with the template of their
body: in the same scope for a value that is just true, for a missing one and for partials, in a new
scope for each element of a list and for any other value. An error ends the rendering, unless an
adapter on the way settles it otherwise; what was written before it stays. Output exists only where
the whole rendering succeeds.

Main statements: the rendering of tokens is that of their parts in turn (`Token.walkAll_append`),
and data that is neither an object nor a list renders nothing (`Template.render_scalar`).
-/

namespace Mustache

structure Rendering where
  written : Bytes
  outcome : Except RenderError Unit

namespace Rendering

def write (bytes : Bytes) : Rendering := ⟨bytes, .ok ()⟩

def fail (error : RenderError) : Rendering := ⟨[], .error error⟩

instance : Append Rendering where
  append first next :=
    match first.outcome with
    | .ok () => ⟨first.written ++ next.written, next.outcome⟩
    | .error _ => first

def settled (rendering : Rendering) (settle : Except RenderError Unit → Except RenderError Unit) :
    Rendering :=
  ⟨rendering.written, settle rendering.outcome⟩

def output (rendering : Rendering) : Except RenderError Bytes :=
  rendering.outcome.map fun () => rendering.written

theorem append_ok (written : Bytes) (done : Unit) (next : Rendering) :
    (⟨written, .ok done⟩ : Rendering) ++ next = ⟨written ++ next.written, next.outcome⟩ := rfl

theorem append_write_nil (first : Rendering) : first ++ write [] = first := by
  obtain ⟨written, _ | ⟨⟩⟩ := first
  · rfl
  · rw [write, append_ok, List.append_nil]

theorem append_assoc (first second third : Rendering) :
    first ++ second ++ third = first ++ (second ++ third) := by
  obtain ⟨written, _ | ⟨⟩⟩ := first
  · rfl
  · obtain ⟨more, _ | ⟨⟩⟩ := second
    · rfl
    · simp only [append_ok, List.append_assoc]

theorem write_append (left right : Bytes) : write (left ++ right) = write left ++ write right := rfl

theorem output_append (first next : Rendering) :
    (first ++ next).output = do
      let output ← first.output
      let more ← next.output
      return output ++ more := by
  obtain ⟨written, _ | ⟨⟩⟩ := first
  · rfl
  · obtain ⟨more, _ | ⟨⟩⟩ := next <;> rfl

end Rendering

structure Scope where
  subject : Value
  lookup : String → Value

def Scope.resolve (scope : Scope) (key : String) : Value :=
  if key = "." then scope.subject else scope.lookup key

def Scope.ofSubject (subject : Value) : Scope := ⟨subject, fun _ => .null⟩

def Adapter.marshal (subject : Value) (body : Scope → Rendering) : Adapter → Rendering
  | .fields _ lookup => body ⟨subject, lookup⟩
  | .scalar inner => body (.ofSubject inner)
  | .mute _ outcome => ⟨[], outcome⟩
  | .delegate _ inner settle => (inner.marshal subject body).settled settle

def Value.enter (value : Value) (body : Scope → Rendering) : Rendering :=
  match value with
  | .object adapter => adapter.marshal value body
  | _ => body (.ofSubject value)

def Value.enterAll (body : Scope → Rendering) : List Value → Rendering
  | [] => .write []
  | item :: items => item.enter body ++ Value.enterAll body items

/-! ## Templates -/

mutual

def Template.walk : Template → Scope → Rendering
  | ⟨_, tokens, _⟩, scope => Token.walkAll tokens scope

def Token.walk : Token → Scope → Rendering
  | .literal _ text, _ => .write text
  | .value key escaped, scope =>
    let value := scope.resolve key
    match value.text? with
    | none => .fail (.unsupportedType key value.typeName)
    | some text => .write (if escaped then escape text else text)
  | .block .positive key body, scope =>
    match scope.resolve key with
    -- Just true is no new subject.
    | .bool true => body.walk scope
    | .list items => Value.enterAll body.walk items
    | value => if value.isTruthy then value.enter body.walk else .write []
  | .block .inverted key body, scope =>
    if (scope.resolve key).isTruthy then .write [] else body.walk scope
  | .inclusion _ body, scope => body.walk scope

def Token.walkAll : List Token → Scope → Rendering
  | [], _ => .write []
  | token :: tokens, scope => token.walk scope ++ Token.walkAll tokens scope

end

/-- The output of a template for some data: an object, or a list of objects in turn. -/
def Template.render (template : Template) (data : Value) : Except RenderError Bytes :=
  match data with
  | .object _ => (data.enter template.walk).output
  | .list items =>
    match items.find? fun item => !item.isObject with
    | some item => .error (.unsupportedData item.typeName)
    | none => (Value.enterAll template.walk items).output
  | other => .error (.unsupportedData other.typeName)

/-- Renders, and hands all of the output to a sink at once. Where rendering fails the sink gets
nothing. -/
def Template.renderTo {m : Type → Type} [Monad m] (template : Template) (data : Value)
    (sink : Bytes → m Unit) : m (Except RenderError Unit) :=
  match template.render data with
  | .ok output => do
    sink output
    return .ok ()
  | .error error => return .error error

theorem Template.walk_eq_walkAll (template : Template) (scope : Scope) :
    template.walk scope = Token.walkAll template.tokens scope := by
  cases template
  rfl

theorem Token.walkAll_cons (token : Token) (tokens : List Token) (scope : Scope) :
    Token.walkAll (token :: tokens) scope = token.walk scope ++ Token.walkAll tokens scope := rfl

theorem Token.walkAll_append (left right : List Token) (scope : Scope) :
    Token.walkAll (left ++ right) scope =
      Token.walkAll left scope ++ Token.walkAll right scope := by
  induction left with
  | nil => rfl
  | cons token tokens ih =>
    rw [List.cons_append, walkAll_cons, walkAll_cons, ih, Rendering.append_assoc]

theorem Template.render_scalar (template : Template) {data : Value}
    (scalar : data.typeName ≠ "object" ∧ data.typeName ≠ "list") :
    template.render data = .error (.unsupportedData data.typeName) := by
  cases data <;> simp_all [Value.typeName, Template.render]

end Mustache
