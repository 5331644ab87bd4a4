import CulpritFinding.Text.Lines

namespace CulpritFinding

namespace Path

def endsBelow (long short : List Char) : Bool := ('/' :: short).isSuffixOf long

def correspond (a b : List Char) : Bool := a = b || endsBelow a b || endsBelow b a

def relatedSuffixes : List String :=
  ["_browsertest", "_unittest", "_perftest", "_test", "_android", "_linux", "_mac", "_posix",
   "_win"]

/-- The stem of the name of a file: up to the first dot, and without one ending that marks a file
as belonging to another. -/
def stem (path : List Char) : List Char :=
  let base := (afterLast '/' path).takeWhile (· != '.')
  (relatedSuffixes.findSome? fun suffix => withoutBack? suffix.toList base).getD base

def isRelated (a b : List Char) : Bool := !(stem a).isEmpty && stem a = stem b

end Path

end CulpritFinding
