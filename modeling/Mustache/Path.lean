/-!
# Paths

A path is a text whose parts are separated by slashes. Two ways to look at it are kept apart: its
segments are the texts between the slashes, and its components are what the segments mean, where an
empty segment and a dot mean nothing, unless a dot leads. Joining, extensions and parents change the
text as little as they can, so a path keeps the spelling it was given.

Main statement: a text is its segments joined again (`ofSegments_segments`).
-/

namespace Mustache

abbrev Path := List Char

namespace Path

def size (path : Path) : Nat := (String.ofList path).utf8ByteSize

def segments : Path → List Path
  | [] => [[]]
  | '/' :: rest => [] :: segments rest
  | c :: rest =>
    match segments rest with
    | [] => [[c]]
    | segment :: others => (c :: segment) :: others

def ofSegments : List Path → Path
  | [] => []
  | [segment] => segment
  | segment :: others => segment ++ '/' :: ofSegments others

theorem segments_ne_nil (path : Path) : segments path ≠ [] := by
  fun_cases segments path <;> simp_all

theorem ofSegments_segments (path : Path) : ofSegments (segments path) = path := by
  fun_induction segments path with
  | case1 => rfl
  | case2 rest ih =>
    cases parts : segments rest with
    | nil => exact absurd parts (segments_ne_nil rest)
    | cons segment others => rw [← ih, parts]; rfl
  | case3 c rest _ parts ih => exact absurd parts (segments_ne_nil rest)
  | case4 c rest _ segment others parts ih =>
    rw [← ih, parts]
    cases others <;> rfl

def here : Path := ['.']

def above : Path := ['.', '.']

def isIdle (segment : Path) : Bool := segment == [] || segment == here

def isAbsolute (path : Path) : Bool := path.head? == some '/'

def isInside (path : Path) : Bool := !isAbsolute path && !(segments path).contains above

inductive Component where
  | root
  | current
  | parent
  | entry (name : Path)
  deriving DecidableEq, Repr

def Component.ofSegment? (segment : Path) : Option Component :=
  if isIdle segment then none
  else if segment = above then some .parent
  else some (.entry segment)

def leading (path : Path) : List Component :=
  if isAbsolute path then [.root]
  else if (segments path).head? = some here then [.current]
  else []

def components (path : Path) : List Component :=
  leading path ++ (segments path).filterMap Component.ofSegment?

def fileName? (path : Path) : Option Path :=
  match (components path).getLast? with
  | some (.entry name) => some name
  | _ => none

def join (base path : Path) : Path :=
  if isAbsolute path then path
  else if base = [] ∨ base.getLast? = some '/' then base ++ path
  else base ++ '/' :: path

def trimIdle : List Path → List Path
  | [] => []
  | first :: others => first :: (others.reverse.dropWhile isIdle).reverse

def trimmed (path : Path) : Path := ofSegments (trimIdle (segments path))

def parent? (path : Path) : Option Path :=
  match (components path).getLast? with
  | none | some .root => none
  | some .current => some []
  | some _ =>
    let kept := ofSegments (trimIdle (trimIdle (segments path)).dropLast)
    some (if kept = [] ∧ isAbsolute path then ['/'] else kept)

def splitName (name : Path) : Path × Option Path :=
  let extension := (name.reverse.takeWhile (· != '.')).reverse
  let stem := name.take (name.length - extension.length - 1)
  if stem = [] then (name, none) else (stem, some extension)

def stem? (path : Path) : Option Path := (fileName? path).map fun name => (splitName name).1

def extension? (path : Path) : Option Path := (fileName? path).bind fun name => (splitName name).2

def withExtension (path extension : Path) : Path :=
  match fileName? path with
  | none => path
  | some name =>
    let dropped := name.length - (splitName name).1.length
    let text := trimmed path
    text.take (text.length - dropped) ++ (if extension = [] then [] else '.' :: extension)

end Path

end Mustache
