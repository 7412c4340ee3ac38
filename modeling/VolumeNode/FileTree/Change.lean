import VolumeNode.FileTree.Walk

/-!
# Changing a file tree

The system calls that add or remove one entry. Each names its place by a path whose last name is
not followed: `slotOf` gives the directory and that name.

* `makeDirectory` and `removeDirectory` add and remove one directory; `unlink` removes what is no
  directory; `bindSocket` adds a socket.
* `addFile` and `addLink` add a file or a link, `removeBranch` removes an entry with all below it.
* `makeDirectories` adds a directory with all that miss above it.
-/

namespace VolumeNode.FileTree

open Location

/-! ## 1. The place that a path names -/

/-- The place named by the last step of a path. -/
inductive Slot where
  /-- The path has no name. -/
  | root
  /-- The last name is `.`. -/
  | here
  /-- The last name is `..`. -/
  | above
  /-- A name in a directory. -/
  | named (directory : Location) (name : Name)
deriving DecidableEq, Repr

/-- Reads the last name of a path in the directory that the names before it lead to. -/
def slotOf (t : FileTree) (path : String) : Except SystemError Slot := do
  let bytes ← pathBytes path
  let names := namesOf bytes
  match names.getLast? with
  | none => return .root
  | some name =>
    let l ← t.walk true (t.startOf bytes) names.dropLast
    if ! t.isDirectory l then throw .notDirectory
    else if name = Location.here then return .here
    else if name = Location.above then return .above
    else if name.length > longestName then throw .nameTooLong
    else return .named l name

/-- Whether a path ends in a slash. -/
def endsInSlash (path : String) : Bool :=
  (Text.bytesOf path).getLast? = some slash

/-! ## 2. One entry -/

/-- Adds a directory at a free place. -/
def makeDirectory (t : FileTree) (path : String) (mode : Nat) : Except SystemError FileTree := do
  match ← t.slotOf path with
  | .named l name =>
    match t.get? (l ++ [name]) with
    | some _ => throw .alreadyExists
    | none => return t.insert (l ++ [name]) (.directory mode)
  | _ => throw .alreadyExists

/-- Removes an empty directory. -/
def removeDirectory (t : FileTree) (path : String) : Except SystemError FileTree := do
  match ← t.slotOf path with
  | .root => throw .busy
  | .here => throw .invalid
  | .above => throw .notEmpty
  | .named l name =>
    match t.get? (l ++ [name]) with
    | none => throw .noEntry
    | some (.directory _) =>
      if t.names (l ++ [name]) = [] then return t.erase (l ++ [name]) else throw .notEmpty
    | some _ => throw .notDirectory

/-- Removes what is no directory; a link is removed itself. -/
def unlink (t : FileTree) (path : String) : Except SystemError FileTree := do
  match ← t.slotOf path with
  | .named l name =>
    match t.get? (l ++ [name]) with
    | none => throw .noEntry
    | some (.directory _) => throw .isDirectory
    | some _ => if endsInSlash path then throw .notDirectory else return t.erase (l ++ [name])
  | _ => throw .isDirectory

/-- The length that the path of a socket must stay below. -/
def socketPathLimit : Nat := 108

/-- Adds a socket at a free place. -/
def bindSocket (t : FileTree) (path : String) : Except SystemError FileTree := do
  let bytes := Text.bytesOf path
  if bytes.length ≥ socketPathLimit then throw .socketPathTooLong
  match ← t.slotOf path with
  | .named l name =>
    match t.get? (l ++ [name]) with
    | some _ => throw .addressInUse
    | none => if endsInSlash path then throw .noEntry else return t.insert (l ++ [name]) .socket
  | _ => throw .addressInUse

/-- Adds an entry at a free place. -/
def addEntry (t : FileTree) (path : String) (e : Entry) : Except SystemError FileTree := do
  match ← t.slotOf path with
  | .named l name =>
    match t.get? (l ++ [name]) with
    | some _ => throw .alreadyExists
    | none => if endsInSlash path then throw .noEntry else return t.insert (l ++ [name]) e
  | _ => throw .alreadyExists

/-- Writes a file, which is new unless something is there already. Through a link that leads to a
    free place, the file comes to stand there. -/
def addFile (t : FileTree) (path : String) : Except SystemError FileTree := do
  let bytes ← pathBytes path
  match ← t.land true (t.startOf bytes) (steps bytes) with
  | .entry l => if t.isDirectory l then throw .isDirectory else return t
  | .vacant l => return t.insert l .file

/-- Adds a link that holds a path. -/
def addLink (t : FileTree) (path target : String) : Except SystemError FileTree := do
  t.addEntry path (.link (← pathBytes target))

/-- Adds a link under a name that may be no text. -/
def addLinkIn (t : FileTree) (directory : String) (name : Name) (target : String) :
    Except SystemError FileTree := do
  let held ← pathBytes target
  let l ← t.locate true directory
  if ! t.isDirectory l then throw .notDirectory
  if name.length > longestName then throw .nameTooLong
  match t.get? (l ++ [name]) with
  | some _ => throw .alreadyExists
  | none => return t.insert (l ++ [name]) (.link held)

/-- Removes an entry with all below it. -/
def removeBranch (t : FileTree) (path : String) : Except SystemError FileTree := do
  match ← t.slotOf path with
  | .named l name =>
    match t.get? (l ++ [name]) with
    | none => throw .noEntry
    | some _ => return t.eraseBelow (l ++ [name])
  | _ => throw .busy

/-! ## 3. Several directories -/

/-- Adds a directory if nothing is in its place; a directory that is there is as good. -/
def ensureDirectory (t : FileTree) (path : String) : Except SystemError Unit × FileTree :=
  match t.makeDirectory path commonMode with
  | .ok t' => (.ok (), t')
  | .error e => if t.leadsToDirectory path then (.ok (), t) else (.error e, t)

/-- Adds the directory that some names lead to, given last name first, and those missing above it.
    The directory itself is tried before any above it. After an error, those made before it stay. -/
def makeBranch (t : FileTree) (absolute : Bool) : List Name → Except SystemError Unit × FileTree
  | [] => (.ok (), t)
  | name :: names =>
    let path := pathOf absolute (name :: names).reverse
    match t.makeDirectory path commonMode with
    | .ok t' => (.ok (), t')
    | .error e =>
      if e = .noEntry then
        match t.makeBranch absolute names with
        | (.ok (), t') => t'.ensureDirectory path
        | (.error e', t') => (.error e', t')
      else if t.leadsToDirectory path then (.ok (), t)
      else (.error e, t)

/-- Adds a directory, with all that miss above it. The empty path stands for the workplace, which
    needs none. -/
def makeDirectories (t : FileTree) (path : String) : Except SystemError Unit × FileTree :=
  if path.isEmpty then (.ok (), t)
  else
    match pathBytes path with
    | .error e => (.error e, t)
    | .ok bytes =>
      t.makeBranch (isAbsolute bytes) ((namesOf bytes).filter (· ≠ Location.here)).reverse

/-- The path of the directory that holds the last name of a path. -/
def parentPath (path : String) : String :=
  let bytes := Text.bytesOf path
  pathOf (isAbsolute bytes) ((namesOf bytes).filter (· ≠ Location.here)).dropLast

end VolumeNode.FileTree
