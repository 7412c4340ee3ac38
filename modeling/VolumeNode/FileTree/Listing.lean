import VolumeNode.FileTree.Basic

/-!
# Listing a file tree

`listing` shows what stands below a location, one line for each entry. Paths are shown as text, with
replacements for bytes that are no UTF-8, and the lines are in the order of these texts (`/` counts
as any other character). Directories show their permission bits in base 8, links the path they hold.
-/

namespace VolumeNode.FileTree

/-- The path of a location, seen from the directory it is relative to. -/
def relativePath : Location → List UInt8
  | [] => []
  | [name] => name
  | name :: names => name ++ 0x2F :: relativePath names

/-- The line of an entry under its path. -/
def line (path : String) : Entry → String
  | .directory mode => "dir " ++ path ++ " " ++ String.ofList (Nat.toDigits 8 mode)
  | .file => "file " ++ path
  | .link target => "link " ++ path ++ " -> " ++ Text.ofBytes target
  | .device _ => "other " ++ path
  | .socket => "other " ++ path

/-- The entries below a location, as the texts of their relative paths with their lines. -/
def linesBelow (t : FileTree) (root : Location) : List (String × String) :=
  t.entries.filterMap fun p =>
    if root.isPrefixOf p.1 && p.1 != root then
      let path := Text.ofBytes (relativePath (p.1.drop root.length))
      some (path, line path p.2)
    else none

/-- Whether a line may stand in front of another one: by the paths, and for paths that look the same
    by the lines. -/
def inOrder (a b : String × String) : Bool :=
  a.1 < b.1 || a.1 == b.1 && a.2 ≤ b.2

/-- Shows what stands below a location. -/
def listing (t : FileTree) (root : Location) : List String :=
  ((t.linesBelow root).mergeSort inOrder).map (·.2)

end VolumeNode.FileTree
