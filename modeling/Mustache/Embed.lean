import Mustache.Embed.AccessorName
import Mustache.Loader
import Mustache.Text.Quoted

/-!
# Embedding templates

Templates can be checked when a program is built and carried inside it: of all files below a
directory, of one file, or of a text in the program itself. Each becomes an accessor, which knows
where its source is and which files its partials were read from. It compiles the same source again
from those files alone, so it needs no directory any more.

Compiling for an accessor keeps account of the partials that were loaded; the accounts are kept in
the order of the partials' paths, each once.

Main statement: the templates of a directory are its readable files with the extension of templates
(`mem_templateFiles`).
-/

namespace Mustache

structure Account where
  entries : List (String × Path) := []
  deriving DecidableEq

namespace Account

def insertInto (path : String) (file : Path) : List (String × Path) → List (String × Path)
  | [] => [(path, file)]
  | (other, known) :: entries =>
    if path = other then (path, file) :: entries
    else if Text.precedes path.toList other.toList then (path, file) :: (other, known) :: entries
    else (other, known) :: insertInto path file entries

def insert (account : Account) (path : String) (file : Path) : Account :=
  ⟨insertInto path file account.entries⟩

end Account

abbrev Recording := StateT Account (Except SyntaxError)

def FileBase.record (place : FileBase) (files : FileTree) (path : String) :
    Recording (Except LoadError Bytes) := do
  let answer := place.load files path
  match answer with
  | .ok _ => modify (·.insert path (place.resolve path.toList))
  | .error _ => pure ()
  return answer

def FileBase.compile (place : FileBase) (files : FileTree) (options : Options) (source : Bytes) :
    Except SyntaxError (Template × Account) :=
  (Template.compileAt (place.record files) options (options.maxDepth + 1) source).run {}

inductive Origin where
  | file (path : Path)
  | inline (content : String)
  deriving DecidableEq, Repr

structure Accessor where
  name : String
  origin : Origin
  partials : Account

inductive EmbedError where
  | noDirectory (path : Path)
  | noFile (path : Path)
  | sameName (name : String) (path : Path)
  | inTemplate (name : String) (cause : SyntaxError)

def EmbedError.message : EmbedError → String
  | .noDirectory path => "Directory not found: " ++ quotedPath path
  | .noFile path => "File not found: " ++ quotedPath path
  | .sameName name path =>
    "more than one template is named `" ++ name ++ "` (at " ++ quotedPath path ++ ")"
  | .inTemplate name cause => "template `" ++ name ++ "`: " ++ cause.message
where
  quotedPath (path : Path) : String := Text.quoted (String.ofList path)

def templateExtension : Path := "mustache".toList

namespace Accessor

def source? (accessor : Accessor) (files : FileTree) : Option Bytes :=
  match accessor.origin with
  | .file path => (files.read path).toOption
  | .inline content => some (Bytes.ofText content)

def carry (files : FileTree) (registry : Registry) (entry : String × Path) : Registry :=
  match files.read entry.2 with
  | .ok source => registry.insert entry.1 source
  | .error _ => registry

def registry (accessor : Accessor) (files : FileTree) : Registry :=
  accessor.partials.entries.foldl (carry files) {}

/-- The template that an accessor gives: its source, compiled with the partials it carries. There is
one as long as the files are those that it was made from. -/
def template? (accessor : Accessor) (files : FileTree) : Option Template := do
  let source ← accessor.source? files
  (Template.compile (accessor.registry files).load {} source).toOption

end Accessor

def embedSource (files : FileTree) (base : Path) (name : String) (origin : Origin)
    (source : Bytes) : Except EmbedError Accessor :=
  match FileBase.compile ⟨base, some templateExtension⟩ files {} source with
  | .ok (_, partials) => .ok ⟨accessorName name, origin, partials⟩
  | .error cause => .error (.inTemplate name cause)

def embedContent (files : FileTree) (base path : Path) (content : Bytes) :
    Except EmbedError Accessor :=
  embedSource files base (String.ofList (path.stem?.getD [])) (.file path) content

def embedFiles (files : FileTree) (base : Path) (seen : List String) :
    List (Path × Bytes) → Except EmbedError (List Accessor)
  | [] => .ok []
  | (path, content) :: others =>
    let name := accessorName (String.ofList (path.stem?.getD []))
    if seen.contains name then .error (.sameName name path)
    else do
      let first ← embedContent files base path content
      return first :: (← embedFiles files base (name :: seen) others)

/-- The template files below a directory with their contents, depth first and by name. A file that
cannot be read, because its path is too long, does not count. -/
def templateFiles (files : FileTree) (root : Path) (tree : FileTree) : List (Path × Bytes) :=
  ((tree.files root).filter fun path => path.extension? = some templateExtension).filterMap
    fun path => (files.read path).toOption.map fun content => (path, content)

theorem mem_templateFiles {files tree : FileTree} {root path : Path} {content : Bytes} :
    (path, content) ∈ templateFiles files root tree ↔
      path ∈ tree.files root ∧ path.extension? = some templateExtension ∧
        files.read path = .ok content := by
  simp only [templateFiles, List.mem_filterMap, List.mem_filter, decide_eq_true_eq]
  constructor
  · rintro ⟨other, ⟨listed, extension⟩, read⟩
    cases answer : files.read other with
    | error reason => simp [answer, Except.toOption] at read
    | ok found =>
      simp only [answer, Except.toOption, Option.map_some, Option.some.injEq, Prod.mk.injEq] at read
      obtain ⟨rfl, rfl⟩ := read
      exact ⟨listed, extension, answer⟩
  · rintro ⟨listed, extension, read⟩
    exact ⟨path, ⟨listed, extension⟩, by simp [read, Except.toOption]⟩

def embedDirectory (files : FileTree) (project directory : Path) :
    Except EmbedError (List Accessor) :=
  let root := project.join directory
  match files.find root with
  | .ok (.directory entries) =>
    embedFiles files root [] (templateFiles files root (.directory entries))
  | _ => .error (.noDirectory root)

def embedFile (files : FileTree) (project file : Path) : Except EmbedError Accessor :=
  let path := project.join file
  match files.read path with
  | .ok content => embedContent files (path.parent?.getD []) path content
  | .error _ => .error (.noFile path)

def embedText (files : FileTree) (project : Path) (name content : String) :
    Except EmbedError Accessor :=
  embedSource files project name (.inline content) (Bytes.ofText content)

end Mustache
