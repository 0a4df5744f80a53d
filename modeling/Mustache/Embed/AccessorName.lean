import Mustache.Text.LetterCase

namespace Mustache

structure CaseTables where
  isUpper : Char → Bool
  isLower : Char → Bool
  lowerChars : Char → List Char

def CaseTables.unicode : CaseTables := ⟨Text.isUpper, Text.isLower, Text.lowerChars⟩

def isDigitChar (c : Char) : Bool := 0x30 ≤ c.toNat && c.toNat ≤ 0x39

def isNameChar (c : Char) : Bool :=
  (0x41 ≤ c.toNat && c.toNat ≤ 0x5a) || (0x61 ≤ c.toNat && c.toNat ≤ 0x7a) || isDigitChar c ||
    c == '_'

/-- The characters in snake case, where `afterLower` says whether the character before them is a
small letter or a digit. An upper-case character starts a new word after one of those. -/
def CaseTables.snakeFrom (tables : CaseTables) (afterLower : Bool) : List Char → List Char
  | [] => []
  | c :: rest =>
    if tables.isUpper c then
      (if afterLower then ['_'] else []) ++ tables.lowerChars c ++ tables.snakeFrom false rest
    else c :: tables.snakeFrom (tables.isLower c || isDigitChar c) rest

def snakeCase (text : String) : String :=
  String.ofList (CaseTables.unicode.snakeFrom false text.toList)

/-- Puts one underscore for each run of characters that cannot stand in a name, where `inRun` says
whether the underscore for the current run has been put. -/
def collapseFrom (inRun : Bool) : List Char → List Char
  | [] => []
  | c :: rest =>
    if isNameChar c then c :: collapseFrom false rest
    else if inRun then collapseFrom true rest
    else '_' :: collapseFrom true rest

def standardName : List Char := ['t', 'e', 'm', 'p', 'l', 'a', 't', 'e']

def nameOfChars : List Char → List Char
  | [] => standardName
  | ['_'] => standardName
  | c :: rest => if isDigitChar c then '_' :: c :: rest else c :: rest

def CaseTables.accessorName (tables : CaseTables) (name : String) : String :=
  String.ofList (nameOfChars (collapseFrom false (tables.snakeFrom false name.toList)))

def accessorName (name : String) : String := CaseTables.unicode.accessorName name

theorem isNameChar_of_mem_collapseFrom {inRun : Bool} {chars : List Char} {c : Char}
    (member : c ∈ collapseFrom inRun chars) : isNameChar c = true := by
  fun_induction collapseFrom inRun chars with
  | case1 => cases member
  | case2 inRun d rest valid ih =>
    rcases List.mem_cons.mp member with rfl | later
    · exact valid
    · exact ih later
  | case3 d rest invalid ih => exact ih member
  | case4 inRun d rest invalid first ih =>
    rcases List.mem_cons.mp member with rfl | later
    · decide
    · exact ih later

end Mustache
