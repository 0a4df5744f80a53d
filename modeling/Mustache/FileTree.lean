import Mustache.Error
import Mustache.Path
import Mustache.Text.Order

namespace Mustache

inductive FileTree where
  | file (content : Bytes)
  | directory (entries : List (Path × FileTree))

namespace FileTree

def empty : FileTree := .directory []

def putEntry (name : Path) (change : Option FileTree → FileTree) :
    List (Path × FileTree) → List (Path × FileTree)
  | [] => [(name, change none)]
  | (other, tree) :: entries =>
    if name = other then (name, change (some tree)) :: entries
    else if Text.precedes name other then (name, change none) :: (other, tree) :: entries
    else (other, tree) :: putEntry name change entries

def graft (leaf : FileTree) : List Path → FileTree → FileTree
  | [], _ => leaf
  | _ :: _, .file content => .file content
  | name :: names, .directory entries =>
    .directory (putEntry name (fun old => graft leaf names (old.getD empty)) entries)

def graftDirectory : List Path → FileTree → FileTree
  | _, .file content => .file content
  | [], tree => tree
  | name :: names, .directory entries =>
    .directory (putEntry name (fun old => graftDirectory names (old.getD empty)) entries)

def add (tree : FileTree) (path : Path) (content : Bytes) : FileTree :=
  let names := path.segments.filter fun segment => !Path.isIdle segment
  if path.getLast? = some '/' then graftDirectory names tree
  else graft (.file content) names tree

def maxNameSize : Nat := 255

def maxPathSize : Nat := 4095

/-- Follows segments from a place, of which `above` are the directories around it, nearest first. -/
def follow (above : List FileTree) (place : FileTree) : List Path → Except LoadError FileTree
  | [] => .ok place
  | segment :: segments =>
    match place with
    | .file _ => .error .notADirectory
    | .directory entries =>
      if Path.isIdle segment then follow above place segments
      else if segment = Path.above then
        match above with
        -- The root is above itself.
        | [] => follow [] place segments
        | parent :: others => follow others parent segments
      else if maxNameSize < Path.size segment then .error .nameTooLong
      else
        match entries.lookup segment with
        | none => .error .notFound
        | some next => follow (place :: above) next segments

def find (tree : FileTree) (path : Path) : Except LoadError FileTree :=
  if path.contains '\x00' then .error .zeroByte
  else if maxPathSize < path.size then .error .nameTooLong
  else if path = [] then .error .notFound
  else follow [] tree path.segments

def read (tree : FileTree) (path : Path) : Except LoadError Bytes :=
  match tree.find path with
  | .ok (.file content) => .ok content
  | .ok (.directory _) => .error .isADirectory
  | .error reason => .error reason

mutual

def files (path : Path) : FileTree → List Path
  | .file _ => [path]
  | .directory entries => filesOf path entries

def filesOf (path : Path) : List (Path × FileTree) → List Path
  | [] => []
  | (name, tree) :: entries => files (path.join name) tree ++ filesOf path entries

end

end FileTree

end Mustache
