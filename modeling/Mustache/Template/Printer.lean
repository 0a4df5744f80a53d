import Mustache.Template

namespace Mustache

def tagSource (content : Bytes) : Bytes :=
  openBrace :: openBrace :: content ++ [closeBrace, closeBrace]

def valueSource (key : String) (escaped : Bool) : Bytes :=
  tagSource (if escaped then Bytes.ofText key else openBrace :: Bytes.ofText key ++ [closeBrace])

def openingSource (polarity : Polarity) (key : String) : Bytes :=
  tagSource ((match polarity with
    | .positive => hashMark
    | .inverted => caretMark) :: Bytes.ofText key)

def closingSource (key : String) : Bytes := tagSource (slashMark :: Bytes.ofText key)

def inclusionSource (path : String) : Bytes := tagSource (angleMark :: Bytes.ofText path)

def blockSource (polarity : Polarity) (key : String) (body : Bytes) : Bytes :=
  openingSource polarity key ++ body ++ closingSource key

mutual

def Template.print : Template → Bytes
  | ⟨_, tokens, _⟩ => Token.printAll tokens

def Token.print : Token → Bytes
  | .literal _ text => text
  | .value key escaped => valueSource key escaped
  | .block polarity key body => blockSource polarity key body.print
  | .inclusion path _ => inclusionSource path

def Token.printAll : List Token → Bytes
  | [] => []
  | token :: tokens => token.print ++ Token.printAll tokens

end

end Mustache
