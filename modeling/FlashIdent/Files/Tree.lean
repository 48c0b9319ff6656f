import FlashIdent.Action
import FlashIdent.Files.Error
import FlashIdent.Files.Path

/-!
# The file tree

Directories are numbered; a directory knows the one around it and what it contains.  Directory zero is the
root, which is around itself.  Only what exists and what is a directory counts here, not what a file holds.

A path is walked from the outside to the inside, so the first step that cannot be made decides the error.
`makeAll` makes a directory and what is missing around it; `write` puts a file into a directory that is there.
-/

namespace FlashIdent.Files

/-- What a name in a directory stands for. -/
inductive Node where
  | file
  | directory (number : Nat)
deriving DecidableEq

/-- The number of the directory around, and the names inside. -/
structure Directory where
  around : Nat := 0
  entries : List (String × Node) := []

/-- All directories by number, and the one from which relative paths begin. -/
structure Tree where
  directories : Array Directory := #[{}]
  working : Nat := 0

def nameMax : Nat := 255

def pathMax : Nat := 4095

namespace Tree

def node? (t : Tree) (directory : Nat) (name : String) : Option Node :=
  t.directories[directory]?.bind fun d => d.entries.lookup name

def around (t : Tree) (directory : Nat) : Nat := (t.directories[directory]?.map Directory.around).getD 0

def names (t : Tree) (directory : Nat) : List String :=
  ((t.directories[directory]?.map Directory.entries).getD []).map Prod.fst |>.mergeSort
    fun a b => decide (a ≤ b)

def put (t : Tree) (directory : Nat) (name : String) (node : Node) : Tree :=
  { t with directories := t.directories.modify directory fun d =>
      { d with entries := (name, node) :: d.entries } }

/-- Puts a new directory in, which gets the next number. -/
def putDirectory (t : Tree) (directory : Nat) (name : String) : Tree :=
  let named := t.put directory name (.directory t.directories.size)
  { named with directories := named.directories.push { around := directory } }

/-! ### Walking -/

def enter (t : Tree) (place : Node) (step : Step) : Except Error Node :=
  match place, step with
  | .file, _ => .error .notDirectory
  | .directory d, .here => .ok (.directory d)
  | .directory d, .up => .ok (.directory (t.around d))
  | .directory d, .name name =>
    if nameMax < name.utf8ByteSize then .error .nameTooLong
    else match t.node? d name with
      | none => .error .notFound
      | some node => .ok node

def walk (t : Tree) : Node → List Step → Except Error Node
  | place, [] => .ok place
  | place, step :: rest =>
    match t.enter place step with
    | .error e => .error e
    | .ok next => t.walk next rest

/-- Where a path begins. -/
def origin (t : Tree) (p : Path) : Node := .directory (if p.absolute then 0 else t.working)

def find (t : Tree) (p : Path) : Except Error Node := t.walk (t.origin p) p.steps

def hasDirectory (t : Tree) (p : Path) : Bool :=
  match t.find p with
  | .ok (.directory _) => true
  | _ => false

/-- The names in the directory at the end of a path; none if there is no directory. -/
def namesAt (t : Tree) (path : String) : List String :=
  if pathMax < path.utf8ByteSize then []
  else match t.find (Path.ofString path) with
    | .ok (.directory d) => t.names d
    | _ => []

/-- Why what is at the end of a path cannot be opened to be read and written.  A slash at the end asks for a
directory, and no directory can be written. -/
def openError? (t : Tree) (path : String) : Option Error :=
  if path.isEmpty then some .notFound
  else if pathMax < path.utf8ByteSize then some .nameTooLong
  else match t.find (Path.ofString path) with
    | .error e => some e
    | .ok (.directory _) => some .isDirectory
    | .ok .file => if path.toList.getLast? = some '/' then some .notDirectory else none

end Tree

/-! ### Changing the tree -/

/-- The directory in which the last name of a path stands, and that name; `none` for a path that ends in no
name of its own. -/
def Tree.slot (t : Tree) (p : Path) : Except Error (Option (Nat × String)) :=
  match t.walk (t.origin p) p.steps.dropLast with
  | .error e => .error e
  | .ok .file => .error .notDirectory
  | .ok (.directory d) =>
    match p.steps.getLast? with
    | some (.name name) => if nameMax < name.utf8ByteSize then .error .nameTooLong else .ok (some (d, name))
    | _ => .ok none

def make (p : Path) : Action Tree (Except Error Unit) := do
  let t ← Action.get
  match t.slot p with
  | .error e => return .error e
  | .ok none => return .error .taken
  | .ok (some (d, name)) =>
    match t.node? d name with
    | some _ => return .error .taken
    | none =>
      Action.modify fun t => t.putDirectory d name
      return .ok ()

/-- Lets it pass that a directory is already there. -/
def settle (p : Path) (result : Except Error Unit) : Action Tree (Except Error Unit) := do
  match result with
  | .error .taken => if (← Action.get).hasDirectory p then return .ok () else return .error .taken
  | other => return other

/-- Makes the first path of a chain, and those after it only if they are missing. -/
def makeChain : List Path → Action Tree (Except Error Unit)
  | [] => return .ok ()
  | p :: around => do
    match ← make p with
    | .error .notFound =>
      match ← makeChain around with
      | .error e => return .error e
      | .ok () => settle p (← make p)
    | result => settle p result

/-- Makes a directory and the directories around it.  For the empty path there is nothing to do. -/
def makeAll (path : String) : Action Tree (Except Error Unit) :=
  if path.isEmpty then return .ok ()
  else if pathMax < path.utf8ByteSize then return .error .nameTooLong
  else makeChain (Path.ofString path).chain

/-- Writes a file; one that is there already is replaced. -/
def write (path : String) : Action Tree (Except Error Unit) := do
  if pathMax < path.utf8ByteSize then return .error .nameTooLong
  else
    let t ← Action.get
    match t.slot (Path.ofString path) with
    | .error e => return .error e
    | .ok none => return .error .isDirectory
    | .ok (some (d, name)) =>
      match t.node? d name with
      | some (.directory _) => return .error .isDirectory
      | some .file => return .ok ()
      | none =>
        Action.modify fun t => t.put d name .file
        return .ok ()

/-- Writes files one after the other, up to the first that cannot be written. -/
def writeAll : List String → Action Tree (Except Error Unit)
  | [] => return .ok ()
  | path :: rest => do
    match ← write path with
    | .error e => return .error e
    | .ok () => writeAll rest

end FlashIdent.Files
