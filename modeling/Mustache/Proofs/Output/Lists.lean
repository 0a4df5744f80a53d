import Mathlib.Data.List.Basic
import Mustache.Render
import Mustache.Template.Printer

namespace Mustache.Proofs.Output

variable {items : List Value}

theorem output_enter (template : Template) {item : Value} (object : item.isObject = true) :
    (item.enter template.walk).output = template.render item := by
  cases item with
  | object adapter => rfl
  | _ => cases object

theorem output_enterAll (template : Template) (objects : ∀ item ∈ items, item.isObject = true) :
    (Value.enterAll template.walk items).output =
      (items.mapM template.render).map List.flatten := by
  induction items with
  | nil => rfl
  | cons item items ih =>
    obtain ⟨first, others⟩ := List.forall_mem_cons.mp objects
    rw [Value.enterAll, Rendering.output_append, output_enter template first, ih others,
      List.mapM_cons]
    cases template.render item with
    | error error => rfl
    | ok output => cases items.mapM template.render <;> rfl

theorem render_list_of_objects (template : Template)
    (objects : ∀ item ∈ items, item.isObject = true) :
    template.render (.list items) = (Value.enterAll template.walk items).output := by
  have fit : (items.find? fun item => !item.isObject) = none := by
    simpa using objects
  simp only [Template.render, fit]

theorem render_list_of_unfit (template : Template) {front : List Value} {item : Value}
    (objects : ∀ item ∈ front, item.isObject = true) (unfit : item.isObject = false)
    (behind : List Value) :
    template.render (.list (front ++ item :: behind)) =
      .error (.unsupportedData item.typeName) := by
  have none : (front.find? fun item => !item.isObject) = none := by
    simpa using objects
  have first : ((front ++ item :: behind).find? fun item => !item.isObject) = some item := by
    simp [List.find?_append, none, unfit]
  simp only [Template.render, first]

theorem render_section_of_list (template : Template) {key : String} (named : key ≠ ".")
    {lookup : String → Value} (held : lookup key = .list items) (source : Bytes)
    (options : Options) (empty : Bool) :
    Template.render ⟨source, [.block .positive key template], options⟩
        (.object (.fields empty lookup)) =
      (Value.enterAll template.walk items).output := by
  have found (subject : Value) : Scope.resolve ⟨subject, lookup⟩ key = .list items := by
    simpa [Scope.resolve, named] using held
  simp only [Template.render, Value.enter, Adapter.marshal, Template.walk, Token.walkAll,
    Token.walk, found, Rendering.append_write_nil]

/-- A list of objects renders as its items do in turn, also as the value of a section, and the sink
gets all of the output or nothing. -/
theorem render_objects (template : Template) (items : List Value) :
    ((∀ item ∈ items, item.isObject = true) →
      template.render (.list items) = (items.mapM template.render).map List.flatten ∧
      (∀ {m : Type → Type} [Monad m] (sink : Bytes → m Unit),
        template.renderTo (.list items) sink =
          match items.mapM template.render with
          | .ok outputs => do
            sink outputs.flatten
            return .ok ()
          | .error error => return .error error) ∧
      ∀ key, key ≠ "." → ∀ lookup : String → Value, lookup key = .list items →
        ∀ source options empty,
          Template.render ⟨source, [.block .positive key template], options⟩
            (.object (.fields empty lookup)) = template.render (.list items)) ∧
    ∀ front item behind, items = front ++ item :: behind →
      (∀ item ∈ front, item.isObject = true) → item.isObject = false →
      template.render (.list items) = .error (.unsupportedData item.typeName) ∧
      ∀ {m : Type → Type} [Monad m] (sink : Bytes → m Unit),
        template.renderTo (.list items) sink =
          return .error (.unsupportedData item.typeName) := by
  constructor
  · intro objects
    have rendered := render_list_of_objects template objects
    rw [output_enterAll template objects] at rendered
    refine ⟨rendered, ?_, ?_⟩
    · intro m _ sink
      rw [Template.renderTo, rendered]
      cases items.mapM template.render <;> rfl
    · intro key named lookup held source options empty
      rw [render_section_of_list template named held, rendered, output_enterAll template objects]
  · rintro front item behind rfl objects unfit
    have refused := render_list_of_unfit template objects unfit behind
    refine ⟨refused, ?_⟩
    intro m _ sink
    rw [Template.renderTo, refused]

theorem render_objects_rows :
    let template : Template := ⟨Bytes.ofText "- " ++ valueSource "name" true,
      [.literal 0 (Bytes.ofText "- "), .value "name" true], {}⟩
    let row (name : Value) : Value := .object (.fields false fun _ => name)
    let silent : Value := .object (.mute false (.ok ()))
    let broken : Value := .object (.mute false (.error (.unsupportedData "custom")))
    template.render (.list [row (.text "<a>"), silent, row (.int 7)]) =
        .ok (Bytes.ofText "- &lt;a&gt;- 7") ∧
      template.render (.list [silent, row (.list []), broken]) =
        .error (.unsupportedType "name" "list") ∧
      template.render (.list [broken, .bool true]) = .error (.unsupportedData "bool") := by
  intro template row silent broken
  have whole : ∀ item ∈ [row (.text "<a>"), silent, row (.int 7)], item.isObject = true := by
    simp [row, silent, Value.isObject]
  have failing : ∀ item ∈ [silent, row (.list []), broken], item.isObject = true := by
    simp [row, silent, broken, Value.isObject]
  refine ⟨?_, ?_, ?_⟩
  · rw [((render_objects template _).1 whole).1]
    decide +kernel
  · rw [((render_objects template _).1 failing).1]
    decide +kernel
  · have object : ∀ item ∈ [broken], item.isObject = true := by simp [broken, Value.isObject]
    exact ((render_objects template _).2 [broken] (.bool true) [] rfl object rfl).1

end Mustache.Proofs.Output
