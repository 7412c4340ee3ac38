import VolumeNode.FileTree.Basic
import VolumeNode.SystemError
import VolumeNode.Text.Split

/-!
# Walking along a path

A path is looked up name by name, from the root if it starts with a slash and from the workplace of
the tree otherwise. A link on the way is followed, at most `linkBudget` times in one walk; whether a
link at the very end is followed is up to the caller.

* `Location.steps` cuts a path into names. A slash at the end asks for a directory, as a last `.`
  does.
* `advance` goes on to the end or to the next link to follow; `follow` links such stretches within
  the budget. `land` comes to an entry, or to a free place where only the last name is missing
  (`Landing`); `walk` is for those who need an entry.
* `locate` looks up a path as it is written, `stat` and `lstat` say what stands there. A path that
  may be no text is asked about by its bytes (`locateBytes`, `lstatBytes`, `readDirectory`).
* `canonical` gives the path without links that leads to the same place (`realPlace`). It looks up
  every place on the way by that place's own path, so `pathLimit` binds those, and not the path it
  is asked about. What stands at the end is asked by the bytes of that path (`statBytes`).
-/

namespace VolumeNode

/-! ## 1. Paths -/

namespace Location

/-- The byte between two names of a path. -/
def slash : UInt8 := 0x2F

/-- The name of a directory itself. -/
def here : Name := [0x2E]

/-- The name of the directory above. -/
def above : Name := [0x2E, 0x2E]

/-- The names of a path. -/
def namesOf (path : List UInt8) : List Name :=
  (Text.splitOn (· == slash) path).filter (! ·.isEmpty)

/-- The steps along a path; one that ends in a slash must end at a directory. -/
def steps (path : List UInt8) : List Name :=
  namesOf path ++ if path.getLast? = some slash then [here] else []

/-- Whether a path starts at the root. -/
def isAbsolute (path : List UInt8) : Bool :=
  path.head? = some slash

/-- The path of a location. -/
def path (l : Location) : List UInt8 :=
  if l = [] then [slash] else l.flatMap (slash :: ·)

/-- The path of some names, from the root or from the workplace. -/
def pathOf (absolute : Bool) (names : List Name) : String :=
  Text.ofBytes ((if absolute then [slash] else []) ++ Text.joinWith slash names)

/-- The path of a location, as text. -/
def text (l : Location) : String :=
  Text.ofBytes l.path

end Location

namespace FileTree

open Location

/-! ## 2. Walks -/

/-- The length that a name must not exceed. -/
def longestName : Nat := 255

/-- The length that a path must stay below. -/
def pathLimit : Nat := 4096

/-- How many links one walk may follow. -/
def linkBudget : Nat := 40

/-- Where a walk ends. -/
inductive Landing where
  /-- Something stands there. -/
  | entry (l : Location)
  /-- Nothing does, but in the directory above is a place for it. -/
  | vacant (l : Location)
deriving DecidableEq, Repr

/-- The location of an entry that had to be there. -/
def Landing.toEntry : Landing → Except SystemError Location
  | entry l => .ok l
  | vacant _ => .error .noEntry

/-- How far a walk comes without following a link. -/
inductive Reach where
  | landed (x : Landing)
  | refused (e : SystemError)
  /-- A link in the directory `l` holds `target`, and `rest` is still to go. -/
  | detour (l : Location) (target : List UInt8) (rest : List Name)
deriving DecidableEq, Repr

/-- Goes on from a location until the end, an error, or a link that is to be followed. -/
def advance (t : FileTree) (followLast : Bool) : Location → List Name → Reach
  | l, [] => .landed (.entry l)
  | l, name :: rest =>
    if ! t.isDirectory l then .refused .notDirectory
    else if name = here then advance t followLast l rest
    else if name = above then advance t followLast l.dropLast rest
    else if name.length > longestName then .refused .nameTooLong
    else
      match t.get? (l ++ [name]) with
      | none => if rest.isEmpty then .landed (.vacant (l ++ [name])) else .refused .noEntry
      | some (.link target) =>
        if rest.isEmpty && ! followLast then .landed (.entry (l ++ [name]))
        else .detour l target rest
      | some _ => advance t followLast (l ++ [name]) rest

/-- Goes on from a location in stretches between links, with so many links left to follow. -/
def follow (stretch : Location → List Name → Reach) : Nat → Location → List Name →
    Except SystemError Landing
  | 0, l, todo =>
    match stretch l todo with
    | .landed x => .ok x
    | .refused e => .error e
    | .detour .. => .error .tooManyLinks
  | budget + 1, l, todo =>
    match stretch l todo with
    | .landed x => .ok x
    | .refused e => .error e
    | .detour l target rest =>
      follow stretch budget (if isAbsolute target then [] else l) (steps target ++ rest)

/-- Walks from a location to an entry or to a free place. -/
def land (t : FileTree) (followLast : Bool) (l : Location) (todo : List Name) :
    Except SystemError Landing :=
  follow (t.advance followLast) linkBudget l todo

/-- Walks from a location to an entry. -/
def walk (t : FileTree) (followLast : Bool) (l : Location) (todo : List Name) :
    Except SystemError Location := do
  (← t.land followLast l todo).toEntry

/-- Bytes that are a path of any length: there are some, and none is NUL. -/
def anyPath (bytes : List UInt8) : Except SystemError (List UInt8) :=
  if 0 ∈ bytes then .error .nulInPath
  else if bytes = [] then .error .noEntry
  else .ok bytes

/-- Bytes that may be walked as a path, or may be what a link holds. -/
def shortPath (bytes : List UInt8) : Except SystemError (List UInt8) := do
  let bytes ← anyPath bytes
  if bytes.length ≥ pathLimit then throw .nameTooLong else return bytes

/-- The bytes of a text that may be walked as a path, or may be what a link holds. -/
def pathBytes (text : String) : Except SystemError (List UInt8) :=
  shortPath (Text.bytesOf text)

/-- Where a path starts. -/
def startOf (t : FileTree) (path : List UInt8) : Location :=
  if isAbsolute path then [] else t.workplace

/-- The location that the bytes of a path lead to. Something stands there. -/
def locateBytes (t : FileTree) (followLast : Bool) (path : List UInt8) :
    Except SystemError Location := do
  let bytes ← shortPath path
  t.walk followLast (t.startOf bytes) (steps bytes)

/-- The location that a path leads to. Something stands there. -/
def locate (t : FileTree) (followLast : Bool) (path : String) : Except SystemError Location :=
  t.locateBytes followLast (Text.bytesOf path)

/-! ## 3. Canonical paths -/

/-- Whether the steps left ask for a directory where they start: the next one that is no `.` is
    `..`, or there are only `.` left, at least one. -/
def asksForDirectory : List Name → Bool
  | [] => false
  | name :: rest => if name = here then rest.isEmpty || asksForDirectory rest else name = above

/-- What stands under a name in a directory, looked up by the path of that place. -/
def entryUnder (t : FileTree) (l : Location) (name : Name) : Except SystemError Entry :=
  if (Location.path (l ++ [name])).length ≥ pathLimit then .error .nameTooLong
  else if ! t.isDirectory l then .error .notDirectory
  else if name.length > longestName then .error .nameTooLong
  else
    match t.get? (l ++ [name]) with
    | some e => .ok e
    | none => .error .noEntry

/-- Spells out the places on the way until the end, an error, or a link. A `.` and a `..` only
    change the spelling: whether they start at a directory is settled at the name before them, by
    the path of that place with a slash behind it. -/
def spellOut (t : FileTree) : Location → List Name → Reach
  | l, [] => .landed (.entry l)
  | l, name :: rest =>
    if name = here then spellOut t l rest
    else if name = above then spellOut t l.dropLast rest
    else
      match t.entryUnder l name with
      | .error e => .refused e
      | .ok (.link target) => .detour l target rest
      | .ok e =>
        if ! asksForDirectory rest then spellOut t (l ++ [name]) rest
        else if (Location.path (l ++ [name])).length + 1 ≥ pathLimit then .refused .nameTooLong
        else if ! e.isDirectory then .refused .notDirectory
        else spellOut t (l ++ [name]) rest

/-- The place that the bytes of a path lead to, found by spelling out the places on the way. -/
def realPlace (t : FileTree) (path : List UInt8) : Except SystemError Location := do
  let bytes ← anyPath path
  (← follow t.spellOut linkBudget (t.startOf bytes) (steps bytes)).toEntry

/-- The path without links that leads to the same place. -/
def canonical (t : FileTree) (path : String) : Except SystemError String := do
  return (← t.realPlace (Text.bytesOf path)).text

/-! ## 4. Questions about a path -/

/-- What stands at a location that a walk arrived at. -/
def entryAt (t : FileTree) (l : Location) : Except SystemError Entry :=
  match t.get? l with
  | some e => .ok e
  | none => .error .noEntry

/-- What a path leads to, links followed. -/
def stat (t : FileTree) (path : String) : Except SystemError Entry := do
  t.entryAt (← t.locate true path)

/-- What the bytes of a path lead to, links followed. The system gave this path, so it is not empty
    and holds no NUL. -/
def statBytes (t : FileTree) (bytes : List UInt8) : Except SystemError Entry := do
  if bytes.length ≥ pathLimit then throw .nameTooLong
  else t.entryAt (← t.walk true (t.startOf bytes) (steps bytes))

/-- What the bytes of a path lead to, a link at its end not followed. -/
def lstatBytes (t : FileTree) (path : List UInt8) : Except SystemError Entry := do
  t.entryAt (← t.locateBytes false path)

/-- What a path leads to, a link at its end not followed. -/
def lstat (t : FileTree) (path : String) : Except SystemError Entry :=
  t.lstatBytes (Text.bytesOf path)

/-- The names in the directory that the bytes of a path lead to. -/
def readDirectory (t : FileTree) (path : List UInt8) : Except SystemError (List Name) := do
  let l ← t.locateBytes true path
  if t.isDirectory l then return t.names l else throw .notDirectory

/-- Whether two paths lead to the same entry. -/
def sameEntry (t : FileTree) (p q : String) : Bool :=
  match t.locate true p, t.locate true q with
  | .ok l, .ok k => l == k
  | _, _ => false

/-- Whether a path leads to a directory. -/
def leadsToDirectory (t : FileTree) (path : String) : Bool :=
  match t.stat path with
  | .ok e => e.isDirectory
  | .error _ => false

end FileTree

end VolumeNode
