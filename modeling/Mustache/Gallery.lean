import Mustache.Embed

namespace Mustache.Gallery

def tag (content : String) : String := "\x7b\x7b" ++ content ++ "\x7d\x7d"

def page : String :=
  "<html><head><title>" ++ tag "title" ++ "</title>" ++ tag "\x7bhead\x7d" ++ "</head><body>" ++
    tag ">partials/nav" ++ "\n" ++ tag "#todos" ++ "<div class=\"todo" ++ tag "#done" ++ " done" ++
    tag "/done" ++ "\">" ++ tag "id" ++ ": " ++ tag "label" ++ "</div>\n" ++ tag "/todos" ++
    tag "^todos" ++ "<p>Nothing to do</p>\n" ++ tag "/todos" ++ "</body></html>\n"

def nav : String :=
  "<nav>" ++ tag "#links" ++ "<a href=\"" ++ tag "href" ++ "\">" ++ tag "text" ++ "</a>" ++
    tag "/links" ++ "</nav>"

def button : String := "<button id=\"" ++ tag "id" ++ "\">" ++ tag "label" ++ "</button>"

def greeting : String := tag ">parts/header" ++ "<p>Hello " ++ tag "name" ++ "!</p>\n"

def list : String :=
  "<ul>" ++ tag "#items" ++ "<li>" ++ tag "." ++ "</li>" ++ tag "/items" ++ tag "^items" ++
    "<li>none</li>" ++ tag "/items" ++ "</ul>"

def header : String := "<h1>" ++ tag "title" ++ "</h1>"

def files : FileTree :=
  [("site/page.mustache", page), ("site/partials/nav.mustache", nav),
    ("widgets/button.mustache", button), ("letters/greeting.mustache", greeting),
    ("letters/list.mustache", list), ("letters/parts/header.mustache", header)].foldl
    (fun tree (path, text) => tree.add path.toList (Bytes.ofText text)) .empty

def fullName : String := tag "firstname" ++ " " ++ tag "lastname"

def texts : List (String × String) :=
  [("hello_first_last", "\n        <p>Hello " ++ fullName ++ "</p>\n    "),
    ("test", "<p>" ++ fullName ++ "</p>"),
    ("person", tag "#person" ++ fullName ++ tag "/person"),
    ("author", "<div>" ++ tag "#author" ++ "<h1>" ++ tag "name" ++ "</h1>" ++ tag "/author" ++
      tag "^author" ++ "<h1>Unknown</h1>" ++ tag "/author" ++ "</div>"),
    ("escaped_and_raw", tag "html" ++ " " ++ tag "\x7bhtml\x7d")]

def accessors : Except EmbedError (List Accessor) := do
  let site ← embedDirectory files [] "site".toList
  let letters ← embedDirectory files [] "letters".toList
  let button ← embedFile files [] "widgets/button.mustache".toList
  let inline ← texts.mapM fun (name, text) => embedText files [] name text
  return site ++ letters ++ [button] ++ inline

def template? (name : String) : Option Template := do
  let all ← accessors.toOption
  let accessor ← all.find? (·.name == name)
  accessor.template? files

end Mustache.Gallery
