import Mustache.Gallery
import Mustache.Host
import Mustache.Render

namespace Mustache.Gallery

def pageData : Json :=
  .map
    [("title", .text "Todos"),
      ("head", .text "<link rel=\"stylesheet\" href=\"todo.css\">"),
      ("links", .list [link "/" "Home", link "/about" "About & Contact"]),
      ("todos", .list [todo 42 "My Todo" false, todo 43 "Feed <cat>" true])]
where
  link (href text : String) : Json := .map [("href", .text href), ("text", .text text)]
  todo (id : Int64) (label : String) (done : Bool) : Json :=
    .map [("id", .int id), ("label", .text label), ("done", .bool done)]

def buttonData : Json := .map [("id", .int 43), ("label", .text "Single File Todo")]

def nameData : Json := .map [("firstname", .text "King"), ("lastname", .text "Tubby")]

def exhibits : List (String × Json) :=
  [("page", pageData), ("button", buttonData), ("hello_first_last", nameData)]

def show? (name : String) (data : Json) : Option String := do
  let template ← template? name
  let output ← (template.render data.toValue).toOption
  return Utf8.decodeLossy output

end Mustache.Gallery

def main : IO Unit := do
  for (name, data) in Mustache.Gallery.exhibits do
    match Mustache.Gallery.show? name data with
    | some text => IO.println text
    | none => throw (IO.userError ("cannot show " ++ name))
