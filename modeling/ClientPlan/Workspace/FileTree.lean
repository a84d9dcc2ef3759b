import ClientPlan.Failure
import ClientPlan.OrderedMap
import ClientPlan.Text.Utf8
import ClientPlan.Workspace.Path

/-!
# File trees

A file tree maps places to files and directories.  A place is the list of names from the root; the
root itself is always a directory.

A `FileAction` changes a tree and may fail, and what it has changed before it fails stays changed.
It fails where the tree is in its way, and wherever the `Device` on which the tree is kept refuses a
call.  `replaceFile` writes a file by way of a temporary file beside it: either the file has its new
content, or it is as it was before.
-/

set_option autoImplicit false

namespace ClientPlan

/-- Where a file or a directory is: the names from the root. -/
abbrev Place := List String

/-- What is at a place. -/
inductive FileNode where
  | directory
  | file (octets : List Nat)
deriving DecidableEq, Repr

/-- The files and directories below the root. -/
structure FileTree where
  /-- What is at which place. -/
  nodes : OrderedMap Place FileNode := OrderedMap.empty
deriving DecidableEq

instance : Inhabited FileTree := ⟨{}⟩

namespace FileTree

/-- What is at a place. -/
def node? (t : FileTree) (l : Place) : Option FileNode :=
  if l.isEmpty then some .directory else t.nodes.get? l

/-- The tree with a node at a place. -/
def put (t : FileTree) (l : Place) (n : FileNode) : FileTree := ⟨t.nodes.insert l n⟩

/-- The tree without the node at a place. -/
def remove (t : FileTree) (l : Place) : FileTree := ⟨t.nodes.erase l⟩

/-- The tree with a node at a place and with the directories on the way to it. -/
def add (t : FileTree) (l : Place) (n : FileNode) : FileTree :=
  let above := (List.range l.length).filterMap fun k => if k == 0 then none else some (l.take k)
  (above.foldl (fun t d => if (t.node? d).isSome then t else t.put d .directory) t).put l n

/-- The greatest number of octets of a name. -/
def maxNameLength : Nat := 255

/-- The number of octets at which a path is too long. -/
def pathLimit : Nat := 4096

/-- Goes on from a place by names, each step starting at a directory. -/
def walk (t : FileTree) (l : Place) : List String → Except FileError Place
  | [] => .ok l
  | name :: rest =>
    match t.node? l with
    | some .directory =>
      if maxNameLength < name.utf8ByteSize then .error .nameTooLong
      else t.walk (if name == ".." then l.dropLast else l ++ [name]) rest
    | some (.file _) => .error .notADirectory
    | none => .error .notFound

/-- Where a path leads, seen from a directory.  A path with a null character is not even tried. -/
def locate (t : FileTree) (directory p : Path) : Except FileError Place :=
  if p.holdsNull then .error .nullCharacter
  else if pathLimit ≤ p.text.utf8ByteSize then .error .nameTooLong
  else t.walk [] (directory.join p).names

/-- What is at a path. -/
def find? (t : FileTree) (directory p : Path) : Option FileNode :=
  match t.locate directory p with
  | .ok l => t.node? l
  | .error _ => none

/-- Whether there is a directory at a path. -/
def isDirectory (t : FileTree) (directory p : Path) : Bool :=
  t.find? directory p == some .directory

/-- What is at a path.  It is no failure that the path leads nowhere, unless it is too long. -/
def look (t : FileTree) (directory p : Path) : Except FileError (Option FileNode) :=
  match t.locate directory p with
  | .ok l => .ok (t.node? l)
  | .error .nameTooLong => .error .nameTooLong
  | .error _ => .ok none

/-- The content of the file at a path, if there is one; the path must not be too long. -/
def readFile (t : FileTree) (directory p : Path) : Except FileError (Option (List Nat)) := do
  match ← t.look directory p with
  | some (.file octets) => return some octets
  | _ => return none

theorem node?_put {t : FileTree} {l : Place} (h : l ≠ []) (n : FileNode) (j : Place) :
    (t.put l n).node? j = if l = j then some n else t.node? j := by
  simp only [node?, put, OrderedMap.get?_insert]
  by_cases hj : j = []
  · subst hj; simp [h]
  · simp [hj]

theorem node?_remove {t : FileTree} {l : Place} (h : l ≠ []) (j : Place) :
    (t.remove l).node? j = if l = j then none else t.node? j := by
  simp only [node?, remove, OrderedMap.get?_erase]
  by_cases hj : j = []
  · subst hj; simp [h]
  · simp [hj]

end FileTree

/-! ## The device -/

/-- A call to the operating system that changes files. -/
inductive FileCall where
  /-- A directory is made. -/
  | makeDirectory (p : Path)
  /-- An empty file is made. -/
  | create
  /-- Octets are written to the file. -/
  | write
  /-- What has been written is handed on. -/
  | flush
  /-- What has been handed on is kept for good. -/
  | synchronize
  /-- The file is closed. -/
  | close
  /-- The file takes the place of another one. -/
  | replace
deriving DecidableEq, Repr

/-- What holds a file tree.  It may refuse a call for reasons that the tree does not show: it is full or
broken, or the user must not change it. -/
structure Device where
  /-- Whether a call is refused, given the tree at that time. -/
  refuses : FileCall → FileTree → Bool := fun _ _ => false
  /-- The number of octets that have been written when writing is refused. -/
  reach : List Nat → Nat := fun _ => 0

instance : Inhabited Device := ⟨{}⟩

/-- A change of a file tree, which may fail. -/
abbrev FileAction (α : Type) := ExceptT FileError (StateM FileTree) α

namespace FileAction

/-- Fails if the operating system cannot be told a path. -/
def spell (p : Path) : FileAction Unit := if p.holdsNull then throw .nullCharacter else pure ()

/-- Fails if the device refuses a call. -/
def attempt (device : Device) (call : FileCall) : FileAction Unit := do
  if device.refuses call (← get) then throw .refused else pure ()

section

variable (device : Device)

/-- Makes a directory where there is nothing. -/
def makeDirectory (directory p : Path) : FileAction Unit := do
  spell p
  attempt device (.makeDirectory p)
  let t ← get
  match t.locate directory p with
  | .error e => throw e
  | .ok l =>
    match t.node? l with
    | some _ => throw .taken
    | none => set (t.put l .directory)

/-- Runs an action whose failure does not matter if there is a directory at the path in the end. -/
def unlessDirectory (directory p : Path) (action : FileAction Unit) : FileAction Unit :=
  tryCatch action fun e => do
    if (← get).isDirectory directory p then return else throw e

/-- Makes a directory and those above it, as far as they are missing; `depth` bounds how many. -/
def makeDirectoriesTo (directory p : Path) : Nat → FileAction Unit
  | 0 => unlessDirectory directory p (makeDirectory device directory p)
  | depth + 1 =>
    tryCatch (unlessDirectory directory p (makeDirectory device directory p)) fun e =>
      if e == .notFound && !p.names.isEmpty then do
        makeDirectoriesTo directory p.parent depth
        unlessDirectory directory p (makeDirectory device directory p)
      else throw e

/-- Makes a directory and those above it, as far as they are missing. -/
def makeDirectories (directory p : Path) : FileAction Unit :=
  makeDirectoriesTo device directory p p.names.length

/-- The number of octets that the name of a temporary file has more than that of the file. -/
def temporaryExcess : Nat := 14

/-- A name for a temporary file that is to replace the file `name`. -/
def temporaryName (name : String) (n : Nat) : String := "." ++ name ++ "." ++ toString n ++ ".tmp"

/-- The place of a temporary file in the directory `l` at which there is nothing.  One of the first names is
free, since there are more of them than there are nodes. -/
def freePlace (t : FileTree) (l : Place) (name : String) : Place :=
  let candidate (n : Nat) : Place := l ++ [temporaryName name n]
  let numbers := List.range (t.nodes.size + 1)
  candidate ((numbers.find? fun n => (t.node? (candidate n)).isNone).getD 0)

/-- Makes an empty temporary file that is to replace the file at `p`. -/
def makeTemporary (directory p : Path) : FileAction Place := do
  spell p
  attempt device .create
  let t ← get
  match t.locate directory p.parent with
  | .error e => throw e
  | .ok l =>
    match t.node? l with
    | some .directory =>
      if FileTree.maxNameLength < p.name.utf8ByteSize + temporaryExcess then throw .nameTooLong
      let temporary := freePlace t l p.name
      set (t.put temporary (.file []))
      return temporary
    | some (.file _) => throw .notADirectory
    | none => throw .notFound

/-- Writes octets to a new file and closes it.  If writing is refused, a part of them may have been
written. -/
def writeOut (place : Place) (octets : List Nat) : FileAction Unit := do
  modify fun t => t.put place (.file (octets.take (device.reach octets)))
  attempt device .write
  modify fun t => t.put place (.file octets)
  attempt device .flush
  attempt device .synchronize
  attempt device .close

/-- Puts the file at `source` in place of what is at `p`, unless that is a directory; the path has to end
with a name. -/
def moveTo (source : Place) (directory p : Path) : FileAction Unit := do
  attempt device .replace
  let t ← get
  if p.names.isEmpty || p.name == ".." then throw .busy
  match t.locate directory p with
  | .error e => throw e
  | .ok target =>
    match t.node? target, t.node? source with
    | some .directory, _ => throw .isADirectory
    | _, some n => set ((t.remove source).put target n)
    | _, none => throw .notFound

/-- Writes a file by way of a temporary file, which is removed if anything fails. -/
def replaceFile (directory p : Path) (octets : List Nat) : FileAction Unit := do
  makeDirectories device directory p.parent
  let temporary ← makeTemporary device directory p
  tryCatch
    (do
      writeOut device temporary octets
      moveTo device temporary directory p)
    fun e => do
      modify fun t => t.remove temporary
      throw e

end

end FileAction

end ClientPlan
