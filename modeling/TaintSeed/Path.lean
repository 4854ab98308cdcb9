/-!
# Paths

Paths of files as text, with slashes between their parts. A path is cleaned by
dropping empty parts and those that name the directory itself, and by letting
each step up take away the part before it.

## Main definitions

* `Path.clean`: The shortest path that means the same.
* `Path.join`: One path behind another.
* `Path.directory`: A path without its last part.
-/

namespace TaintSeed.Path

/-- The parts of a path. -/
def parts (path : String) : List String := path.splitOn "/"

/-- Whether a path begins at the root. -/
def isAbsolute (path : String) : Bool := path.toList.head? == some '/'

/-- Adds a part behind others, which are given the last one first. A step up at the root stays
    there. -/
def step (absolute : Bool) (before : List String) (part : String) : List String :=
  if part = "" || part = "." then before
  else if part = ".." then
    match before with
    | [] => if absolute then [] else [".."]
    | last :: rest => if last = ".." then ".." :: before else rest
  else part :: before

/-- The shortest path that means the same. -/
def clean (path : String) : String :=
  let absolute := isAbsolute path
  let text := "/".intercalate ((parts path).foldl (step absolute) []).reverse
  if absolute then "/" ++ text else if text = "" then "." else text

/-- One path behind another, cleaned. -/
def join (first second : String) : String :=
  if first = "" then (if second = "" then "" else clean second) else clean (first ++ "/" ++ second)

/-- A path without its last part, cleaned. -/
def directory (path : String) : String :=
  clean (String.ofList (path.toList.reverse.dropWhile (· != '/')).reverse)

end TaintSeed.Path
