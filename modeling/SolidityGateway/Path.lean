import SolidityGateway.Text.CodePoint

/-!
The normal form of a file path: repeated slashes and the components `.` are dropped, `..` is kept. Of
the slashes at the beginning exactly two stay two, any other number becomes one. A path of which
nothing is left is `.`.
-/

namespace SolidityGateway.Path

/-- The components of a path that are kept. -/
def components (t : Text) : List Text :=
  (Text.splitOn "/" t).filter fun part => part ≠ [] ∧ part ≠ "."

/-- The slashes that a normal form begins with. -/
def root (t : Text) : Text :=
  match (t.takeWhile (· = CodePoint.ofChar '/')).length with
  | 0 => ""
  | 2 => "//"
  | _ => "/"

def normal (t : Text) : Text :=
  let path := root t ++ Text.join "/" (components t)
  if path = [] then "." else path

end SolidityGateway.Path
