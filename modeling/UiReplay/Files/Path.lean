import UiReplay.Text.Parts

/-!
# File paths

A path is a text whose parts stand between slashes.  Empty parts and single points
do not count, except that a leading point or slash keeps its place when a path is
cut.  Two points name the folder above.

The name of a path is its last part that counts.  The extension is what stands after
the last point of the name, the stem what stands before it.  A name that begins with
its only point has no extension and is its own stem.
-/

namespace UiReplay.FilePath

/-- Whether a part counts. -/
def counts (part : List Char) : Bool := part != [] && part != ['.']

/-- The parts that count. -/
def parts (path : String) : List (List Char) :=
  (Text.splitOn '/' path.toList).filter counts

/-- The name, empty when the path ends in two points or has no part that counts. -/
def name (path : String) : List Char :=
  match (parts path).getLast? with
  | some name => if name = ['.', '.'] then [] else name
  | none => []

/-- The extension. -/
def extension? (path : String) : Option String :=
  let name := name path
  match Text.beforeLast? '.' name with
  | some (_ :: _) => some (String.ofList (Text.afterLast '.' name))
  | _ => none

/-- The stem. -/
def stem? (path : String) : Option String :=
  let name := name path
  match Text.beforeLast? '.' name with
  | some (c :: cs) => some (String.ofList (c :: cs))
  | _ => if name.isEmpty then none else some (String.ofList name)

/-- Cuts parts that do not count from the end, but never the first part. -/
def dropIdle (parts : List (List Char)) : List (List Char) :=
  match parts with
  | [] => []
  | first :: rest => first :: (rest.reverse.dropWhile fun part => !counts part).reverse

/-- The path without its last part, `none` when nothing is left. -/
def parent? (path : String) : Option String :=
  match dropIdle (dropIdle (Text.splitOn '/' path.toList)).dropLast with
  | [] => none
  | [[]] => some "/"
  | parts => some (String.ofList (['/'].intercalate parts))

/-- Whether the last part of a path can only be a folder. -/
def endsInFolder (path : String) : Bool :=
  match (Text.splitOn '/' path.toList).getLast? with
  | some part => !counts part || part = ['.', '.']
  | none => true

/-! ## Tests -/

example : ["a.json", "d/.json", "c.yaml/", "..", "a.tar.gz", "a."].map extension?
    = [some "json", none, some "yaml", none, some "gz", some ""] := by decide +kernel
example : ["a.json", "d/.json", "c.yaml/", "..", "a.tar.gz"].map stem?
    = [some "a", some ".json", some "c", none, some "a.tar"] := by decide +kernel
example : ["a.json", "d/e/x", "d//x", "./x", "/x", "a/./x/"].map parent?
    = [none, some "d/e", some "d", some ".", some "/", some "a"] := by decide +kernel

end UiReplay.FilePath
