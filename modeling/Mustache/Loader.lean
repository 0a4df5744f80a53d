import Mustache.Compile
import Mustache.FileTree

namespace Mustache

structure Registry where
  entries : List (String × Bytes) := []

namespace Registry

def insert (registry : Registry) (path : String) (source : Bytes) : Registry :=
  ⟨(path, source) :: registry.entries.filter fun entry => entry.1 != path⟩

def load (registry : Registry) : Loader := fun path =>
  match registry.entries.lookup path with
  | some source => .ok source
  | none => .error (.unregistered path)

theorem lookup_filter {α : Type} {path other : String} (different : other ≠ path)
    (entries : List (String × α)) :
    (entries.filter fun entry => entry.1 != path).lookup other = entries.lookup other := by
  induction entries with
  | nil => rfl
  | cons entry entries ih =>
    obtain ⟨name, content⟩ := entry
    by_cases same : name = path
    · subst same
      simpa [List.lookup_cons, beq_false_of_ne different] using ih
    · simp [same, List.lookup_cons, ih]

end Registry

structure FileBase where
  base : Path
  extension : Option Path := none

namespace FileBase

def resolve (place : FileBase) (path : Path) : Path :=
  let file := place.base.join path
  match place.extension with
  | some extension => if file.extension? = none then file.withExtension extension else file
  | none => file

def load (place : FileBase) (files : FileTree) : Loader := fun path =>
  files.read (place.resolve path.toList)

end FileBase

end Mustache
