import Gamebook.Text.Split

/-!
Paths as written with slashes. Empty parts and single points mean nothing, two points are kept; a
path may start at the root, which two slashes, but not more, write in their own way.
-/
namespace Gamebook

structure Path where
  root : String
  parts : List String
  deriving DecidableEq

namespace Path

def isPart (part : String) : Bool := part != "" && part != "."

def rootOf : List Char → String
  | '/' :: '/' :: '/' :: _ => "/"
  | '/' :: '/' :: _ => "//"
  | '/' :: _ => "/"
  | _ => ""

def ofText (text : String) : Path where
  root := rootOf text.toList
  parts := ((Text.splitAt '/' text.toList).map String.ofList).filter isPart

def text (path : Path) : String :=
  if path.root = "" && path.parts.isEmpty then "."
  else path.root ++ "/".intercalate path.parts

def child (path : Path) (name : String) : Path := { path with parts := path.parts ++ [name] }

end Path
end Gamebook
