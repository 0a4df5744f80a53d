import Mustache.Error
import Mustache.Template
import Mustache.Text.Quoted

namespace Mustache

def describeRecord (name : String) (fields : List (String × String)) : String :=
  let shown := fields.map fun (field, content) => field ++ ": " ++ content
  name ++ " \x7b " ++ ", ".intercalate shown ++ " \x7d"

mutual

def Template.describe : Template → String
  | ⟨source, tokens, _⟩ =>
    describeRecord "Template"
      [("source", Text.quoted (Utf8.decodeLossy source)),
       ("tokens", "[" ++ ", ".intercalate (Token.describeAll tokens) ++ "]")]

def Token.describe : Token → String
  | .literal start text =>
    describeRecord "Literal"
      [("start", toString start), ("end", toString (start + text.length))]
  | .value key escaped =>
    describeRecord "Value" [("key", Text.quoted key), ("escape", toString escaped)]
  | .block .positive key body =>
    describeRecord "Section" [("key", Text.quoted key), ("body", body.describe)]
  | .block .inverted key body =>
    describeRecord "InvertedSection" [("key", Text.quoted key), ("body", body.describe)]
  | .inclusion path body =>
    describeRecord "Partial" [("path", Text.quoted path), ("body", body.describe)]

def Token.describeAll : List Token → List String
  | [] => []
  | token :: tokens => token.describe :: Token.describeAll tokens

end

def LoadError.describe : LoadError → String
  | .notFound => ofSystem 2 "NotFound" "No such file or directory"
  | .notADirectory => ofSystem 20 "NotADirectory" "Not a directory"
  | .isADirectory => ofSystem 21 "IsADirectory" "Is a directory"
  | .nameTooLong => ofSystem 36 "InvalidFilename" "File name too long"
  | .zeroByte =>
    describeRecord "Error"
      [("kind", "InvalidInput"), ("message", Text.quoted LoadError.zeroByte.message)]
  | .unregistered path =>
    describeRecord "Custom"
      [("kind", "NotFound"), ("error", Text.quoted (LoadError.unregistered path).message)]
where
  ofSystem (code : Nat) (kind message : String) : String :=
    describeRecord "Os"
      [("code", toString code), ("kind", kind), ("message", Text.quoted message)]

def SyntaxError.describe : SyntaxError → String
  | .malformedTag near => describeRecord "MalformedTag" [("near", Text.quoted near)]
  | .unterminatedTag near => describeRecord "UnterminatedTag" [("near", Text.quoted near)]
  | .unterminatedBlock key => describeRecord "UnterminatedSection" [("key", Text.quoted key)]
  | .mismatchedClose opened closed =>
    describeRecord "MismatchedClose" [("open", Text.quoted opened), ("close", Text.quoted closed)]
  | .unexpectedClose key => describeRecord "UnexpectedClose" [("key", Text.quoted key)]
  | .refusedPath path => ofPartial path (Text.quoted SyntaxError.refusal)
  | .unreadablePartial path reason => ofPartial path reason.describe
  | .inPartial path cause => ofPartial path cause.describe
  | .tooDeep limit => describeRecord "TooDeep" [("limit", toString limit)]
where
  ofPartial (path source : String) : String :=
    describeRecord "Partial" [("path", Text.quoted path), ("source", source)]

end Mustache
