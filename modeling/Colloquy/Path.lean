/-
Paths. A path has one text: repeated slashes and single dots are dropped, two
dots stay, and the path of the working directory is a dot. Two slashes in front
are kept apart from one. A tilde stands for a home only where it is asked to.
-/
import Colloquy.Text.Search

namespace Colloquy

/-- A path: its root, which is empty for a relative path, and the names that
lead on from there. -/
structure Path where
  root : String
  names : List String
deriving DecidableEq, Repr

namespace Path

/-- The root of a path in writing. -/
def rootOf (text : List Char) : String :=
  match (text.takeWhile (· == '/')).length with
  | 0 => ""
  | 2 => "//"
  | _ => "/"

/-- The path that a text spells. -/
def ofText (text : String) : Path where
  root := rootOf text.toList
  names :=
    ((Text.splitAt '/' text.toList).filter fun name =>
      name ≠ [] && name ≠ ['.']).map .ofList

/-- The path with its first name replaced by a home, if that name is a tilde,
perhaps with the name of a user behind it; none if there is no such home.
`homeOf` tells the home of a user, and the own one for the empty name. -/
def withHome? (homeOf : String → Option String) (p : Path) : Option Path :=
  match p.root.isEmpty, p.names with
  | true, name :: rest =>
    match name.toList with
    | '~' :: user =>
      (homeOf (.ofList user)).bind fun home =>
        let home := (home.toList.reverse.dropWhile (· = '/')).reverse
        if home.head? = some '~' then none
        else
          let home := ofText (if home.isEmpty then "/" else .ofList home)
          some { home with names := home.names ++ rest }
    | _ => some p
  | _, _ => some p

/-- The path of a name in a directory. -/
def child (p : Path) (name : String) : Path :=
  { p with names := p.names ++ [name] }

/-- The text of a path. -/
def text (p : Path) : String :=
  let whole := p.root ++ String.intercalate "/" p.names
  if whole.isEmpty then "." else whole

end Path

end Colloquy
