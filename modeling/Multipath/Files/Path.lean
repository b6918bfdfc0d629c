import Multipath.Text.Pieces
/-!
# Paths

A path is a text with names between slashes. A name that is empty or a point stands for nothing, but
for the first one: an empty first name is the root, and a point there is kept.

The parent of a path is a piece of its text, so it reads the way it was typed.
-/

namespace Multipath.Path

def names (path : String) : List String := Text.split '/' path

/-- The names that come last and stand for nothing are passed over; names here are last to first. -/
def trim : List String → List String
  | [] => []
  | [first] => [first]
  | name :: rest => if name = "" || name = "." then trim rest else name :: rest

/-- The text of names given last to first. -/
def unsplit (backwards : List String) : String :=
  match backwards with
  | [""] => "/"
  | _ => String.intercalate "/" backwards.reverse

/-- The parent of names given last to first; the root and the empty path have none. -/
def up (backwards : List String) : Option (List String) :=
  match trim backwards with
  | [] | [""] => none
  | _ :: rest => some (trim rest)

/-- What the last name of a path is looked for in. -/
def parent (path : String) : Option String := (up (names path).reverse).map unsplit

/-- The path of something below a folder. A path from the root stays as it is. -/
def join (folder path : String) : String :=
  if path.startsWith "/" then path
  else if folder.endsWith "/" then folder ++ path
  else folder ++ "/" ++ path

end Multipath.Path
