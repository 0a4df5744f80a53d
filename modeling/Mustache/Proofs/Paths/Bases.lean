import Mustache.Loader
import Mustache.Proofs.Grammar.Compilation
import Mustache.Proofs.Paths.Components
import Mustache.Template.Printer

/-!
# Partials below a base

The file of a partial is computed from texts, but where it lies shows in its components: it lies
below the base where they begin with those of the base and nothing behind these leads up.

* `below_join`: joined to a base, a path without a slash in front and without a step up lies below
  it, and a compiled template includes no other paths (`isInside_of_mem_paths`).
* `components_resolve`: resolving joins, and adds an extension where the last component is a name
  without one.
* `below_resolve_iff`: so the file of a partial lies below the base, unless its path means nothing
  and the extension goes to the name of the base itself, as in `resolve_beside_base`.
-/

namespace Mustache

namespace Path

def Below (base file : Path) : Prop :=
  ∃ more, components file = components base ++ more ∧
    ∀ component ∈ more, component ≠ .root ∧ component ≠ .parent

theorem named_eq_nil_iff {path : Path} :
    named path = [] ↔ ∀ segment ∈ segments path, isIdle segment = true := by
  simp only [named, List.filterMap_eq_nil_iff, ofSegment_eq_none_iff]

theorem isInside_iff {path : Path} :
    isInside path = true ↔ isAbsolute path = false ∧ above ∉ segments path := by
  simp [isInside]

theorem named_of_isInside {path : Path} (inside : isInside path = true) {component : Component}
    (member : component ∈ named path) : component ≠ .root ∧ component ≠ .parent := by
  obtain ⟨segment, listed, meant⟩ := List.mem_filterMap.mp member
  have other : segment ≠ above := by
    rintro rfl
    exact (isInside_iff.mp inside).2 listed
  unfold Component.ofSegment? at meant
  rw [if_neg other] at meant
  split at meant
  · cases meant
  · cases meant
    exact ⟨nofun, nofun⟩

theorem nil_join (path : Path) : join [] path = path := by
  unfold join
  split
  · rfl
  · exact if_pos (.inl rfl)

theorem below_join (base : Path) {path : Path} (inside : isInside path = true) :
    Below base (base.join path) := by
  have relative := (isInside_iff.mp inside).1
  by_cases filled : base = []
  · subst filled
    refine ⟨components path, congrArg components (nil_join path), fun component member => ?_⟩
    rcases List.mem_append.mp member with lead | later
    · unfold leading at lead
      rw [relative] at lead
      split at lead <;> simp_all
    · exact named_of_isInside inside later
  · exact ⟨named path, components_join filled relative, fun _ => named_of_isInside inside⟩

open Proofs.Grammar in
theorem isInside_of_mem_paths {loader : Loader} {options : Options} {source : Bytes}
    {template : Template} (compiled : Template.compile loader options source = .ok template)
    {partialPath : String} (listed : partialPath ∈ template.paths) :
    isInside partialPath.toList = true := by
  obtain ⟨inner, within, body, member⟩ := Template.mem_paths_iff.mp listed
  have tree := (compileAt_eq_ok_iff.mp compiled).1.inner within
  obtain ⟨items, -, compiled⟩ := tree.compiled
  obtain ⟨item, -, made⟩ := exists_mem_of_forall₂ compiled member
  cases item with
  | literal | value => cases made
  | block =>
    obtain ⟨inner, -, same⟩ := compileItem_block_iff.mp made
    cases same
  | inclusion path =>
    obtain ⟨inside, _, _, _, _, same⟩ := compileItem_inclusion_iff.mp made
    cases same
    exact inside

theorem fileName_congr {path other : Path} (same : components path = components other) :
    path.fileName? = other.fileName? := by
  rw [fileName?, fileName?, same]

end Path

namespace FileBase
open Mustache.Path

variable {place : FileBase} {path : Path}

theorem resolve_cases (place : FileBase) (path : Path) :
    place.resolve path = place.base.join path ∧
        (∀ name, (place.base.join path).fileName? = some name → (splitName name).2 = none →
          place.extension = none) ∨
      ∃ extension ∈ place.extension, ∃ name, (place.base.join path).fileName? = some name ∧
        (splitName name).2 = none ∧
        place.resolve path = (place.base.join path).withExtension extension := by
  unfold resolve
  cases given : place.extension with
  | none => exact .inl ⟨rfl, fun _ _ _ => rfl⟩
  | some extension =>
    cases found : (place.base.join path).fileName? with
    | none =>
      refine .inl ⟨by simp [withExtension, found], fun name named => ?_⟩
      exact absurd named.symm (Option.some_ne_none name)
    | some name =>
      have split : (place.base.join path).extension? = (splitName name).2 := by
        rw [extension?, found, Option.bind_some]
      cases bare : (splitName name).2 with
      | none => exact .inr ⟨extension, rfl, name, rfl, bare, if_pos (split.trans bare)⟩
      | some old =>
        refine .inl ⟨if_neg (by simp [split, bare]), fun name' named none => ?_⟩
        rw [← Option.some.inj named, bare] at none
        exact absurd none (Option.some_ne_none old)

def PlainExtension (place : FileBase) : Prop :=
  ∀ extension ∈ place.extension, extension ≠ [] ∧ '/' ∉ extension

/-- Where the extension goes to the name of the base: the path means nothing, and the base ends in
a name that has no extension. -/
def Renames (place : FileBase) (path : Path) : Prop :=
  place.extension ≠ none ∧ (∀ segment ∈ segments path, isIdle segment = true) ∧
    ∃ name, place.base.fileName? = some name ∧ (splitName name).2 = none

theorem renames_iff (inside : isInside path = true) :
    Renames place path ↔ place.extension ≠ none ∧
      components (place.base.join path) = components place.base ∧
      ∃ name, (place.base.join path).fileName? = some name ∧ (splitName name).2 = none := by
  have joined {name : Path} (found : place.base.fileName? = some name) :
      components (place.base.join path) = components place.base ++ named path := by
    refine components_join (fun empty => ?_) (isInside_iff.mp inside).1
    rw [empty] at found
    exact nomatch found
  refine and_congr_right fun _ => ⟨?_, ?_⟩
  · rintro ⟨idle, name, found, bare⟩
    have same := joined found
    rw [named_eq_nil_iff.mpr idle, List.append_nil] at same
    exact ⟨same, name, (fileName_congr same).trans found, bare⟩
  · rintro ⟨same, name, found, bare⟩
    have found := (fileName_congr same).symm.trans found
    have := (joined found).symm.trans same
    exact ⟨named_eq_nil_iff.mp (List.append_right_eq_self.mp this), name, found, bare⟩

theorem components_resolve (plain : place.PlainExtension) (path : Path) :
    components (place.resolve path) = components (place.base.join path) ∧
        (∀ name, (place.base.join path).fileName? = some name → (splitName name).2 = none →
          place.extension = none) ∨
      ∃ front name, ∃ extension ∈ place.extension,
        (place.base.join path).fileName? = some name ∧ (splitName name).2 = none ∧
        components (place.base.join path) = front ++ [.entry name] ∧
        components (place.resolve path) = front ++ [.entry (name ++ '.' :: extension)] := by
  rcases resolve_cases place path with ⟨same, kept⟩ | ⟨extension, given, name, found, bare, same⟩
  · exact .inl ⟨congrArg components same, kept⟩
  · obtain ⟨filled, noSlash⟩ := plain extension given
    obtain ⟨front, before, after⟩ := components_withExtension found bare filled noSlash
    exact .inr ⟨front, name, extension, given, found, bare, before, same ▸ after⟩

theorem components_of_renames (plain : place.PlainExtension) (inside : isInside path = true)
    (renames : Renames place path) :
    ∃ front name, ∃ extension ∈ place.extension, components place.base = front ++ [.entry name] ∧
      components (place.resolve path) = front ++ [.entry (name ++ '.' :: extension)] := by
  obtain ⟨given, joined, name, found, bare⟩ := (renames_iff inside).mp renames
  rcases components_resolve plain path with ⟨-, kept⟩ | ⟨front, name, extension, added, -, -, rest⟩
  · exact absurd (kept name found bare) given
  · rw [joined] at rest
    exact ⟨front, name, extension, added, rest⟩

theorem below_resolve (plain : place.PlainExtension) (inside : isInside path = true)
    (other : ¬ Renames place path) :
    Below place.base (place.resolve path) := by
  obtain ⟨more, joined, down⟩ := below_join place.base inside
  rcases components_resolve plain path with
    ⟨same, -⟩ | ⟨front, name, extension, given, found, bare, before, after⟩
  · exact ⟨more, same.trans joined, down⟩
  · cases more using List.reverseRecOn with
    | nil =>
      rw [List.append_nil] at joined
      refine absurd ?_ other
      exact (renames_iff inside).mpr ⟨by simp [Option.mem_def.mp given], joined, name, found, bare⟩
    | append_singleton init last =>
      rw [before, ← List.append_assoc] at joined
      refine ⟨init ++ [.entry (name ++ '.' :: extension)], ?_, fun component member => ?_⟩
      · rw [after, List.append_inj_left' joined rfl, List.append_assoc]
      · rcases List.mem_append.mp member with earlier | added
        · exact down component (List.mem_append_left _ earlier)
        · rw [List.mem_singleton.mp added]
          exact ⟨nofun, nofun⟩

/-- A partial comes from below the base exactly if its path does not rename the base. -/
theorem below_resolve_iff (plain : place.PlainExtension) (inside : isInside path = true) :
    Below place.base (place.resolve path) ↔ ¬ Renames place path := by
  refine ⟨fun below renames => ?_, below_resolve plain inside⟩
  obtain ⟨front, name, extension, -, base, file⟩ := components_of_renames plain inside renames
  obtain ⟨more, same, -⟩ := below
  rw [file, base, List.append_assoc, List.append_cancel_left_eq] at same
  simpa using Component.entry.inj (List.cons.inj same).1

theorem below_resolve_idle_segments :
    Below "parts".toList
      (FileBase.resolve ⟨"parts".toList, some "mustache".toList⟩ "./cards//wide/.".toList) := by
  refine (@below_resolve_iff ⟨_, _⟩ _ ?_ (by decide)).mpr ?_
  · rintro _ ⟨⟩
    decide
  · rintro ⟨-, idle, -⟩
    exact absurd (idle "wide".toList (by decide)) (by decide)

/-- The template of a file beside the base is compiled as a partial. -/
theorem resolve_beside_base :
    let place : FileBase := ⟨"templates".toList, some "mustache".toList⟩
    let files := FileTree.empty.add "templates.mustache".toList (Bytes.ofText "beside")
    Path.isInside ".".toList = true ∧
      Template.compile (place.load files) {} (inclusionSource ".") =
        .ok ⟨inclusionSource ".",
          [.inclusion "." ⟨Bytes.ofText "beside", [.literal 0 (Bytes.ofText "beside")], {}⟩], {}⟩ ∧
      ¬ components place.base <+: components (place.resolve ".".toList) := by
  decide +kernel

end FileBase

end Mustache
