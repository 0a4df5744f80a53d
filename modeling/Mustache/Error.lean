import Mustache.Bytes
import Mustache.Text.Utf8

namespace Mustache

inductive LoadError where
  | notFound
  | notADirectory
  | isADirectory
  | nameTooLong
  | zeroByte
  | unregistered (path : String)
  deriving DecidableEq, Repr

def LoadError.message : LoadError → String
  | .notFound => "No such file or directory (os error 2)"
  | .notADirectory => "Not a directory (os error 20)"
  | .isADirectory => "Is a directory (os error 21)"
  | .nameTooLong => "File name too long (os error 36)"
  | .zeroByte => "file name contained an unexpected NUL byte"
  | .unregistered path => "no partial named " ++ path

inductive SyntaxError where
  | malformedTag (near : String)
  | unterminatedTag (near : String)
  | unterminatedBlock (key : String)
  | mismatchedClose (opened closed : String)
  | unexpectedClose (key : String)
  | refusedPath (path : String)
  | unreadablePartial (path : String) (reason : LoadError)
  | inPartial (path : String) (cause : SyntaxError)
  | tooDeep (limit : Nat)
  deriving DecidableEq, Repr

namespace SyntaxError

def snippet (consumed : Bytes) : String := Utf8.decodeLossy (consumed.lastPart 32)

/-- An error met in the partial at `path`. The depth limit is a property of the whole compilation,
so that error passes through as it is. -/
def within (path : String) : SyntaxError → SyntaxError
  | .tooDeep limit => .tooDeep limit
  | cause => .inPartial path cause

def ofPartial (path reason : String) : String := "partial \"" ++ path ++ "\": " ++ reason

def refusal : String := "partial paths must be relative"

def message : SyntaxError → String
  | .malformedTag near => "malformed tag near \"" ++ near ++ "\""
  | .unterminatedTag near => "unterminated tag near \"" ++ near ++ "\""
  | .unterminatedBlock key => "unterminated section \"" ++ key ++ "\""
  | .mismatchedClose opened closed => "section \"" ++ opened ++ "\" closed by \"" ++ closed ++ "\""
  | .unexpectedClose key => "unexpected closing tag \"" ++ key ++ "\""
  | .refusedPath path => ofPartial path refusal
  | .unreadablePartial path reason => ofPartial path reason.message
  | .inPartial path cause => ofPartial path cause.message
  | .tooDeep limit => "nesting exceeds the limit of " ++ toString limit

def causes : SyntaxError → List String
  | .refusedPath _ => [refusal]
  | .unreadablePartial _ reason => [reason.message]
  | .inPartial _ cause => cause.message :: cause.causes
  | _ => []

def isOfPartial : SyntaxError → Bool
  | .refusedPath _ | .unreadablePartial _ _ | .inPartial _ _ => true
  | _ => false

end SyntaxError

inductive RenderError where
  | unsupportedType (key found : String)
  | unsupportedData (found : String)
  deriving DecidableEq, Repr

def RenderError.message : RenderError → String
  | .unsupportedType key found => "unsupported type " ++ found ++ " for \"" ++ key ++ "\""
  | .unsupportedData found => "unsupported data of type " ++ found

end Mustache
