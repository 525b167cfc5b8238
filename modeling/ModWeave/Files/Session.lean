import ModWeave.Files.Tree
import ModWeave.Log
import ModWeave.Path

/-!
# Sessions

A session has a working directory, a file tree and the messages so far.  A path leads to a place of the tree from
the root or from the working directory on.  The operations make directories and put files at paths; one that fails
leaves what was done before it.
-/

namespace ModWeave

/-- The state of work on files. -/
structure Session where
  /-- The working directory. -/
  current : Path
  tree : FileTree
  log : List Log.Entry

namespace Session

/-- The session with more messages. -/
def say (s : Session) (entries : List Log.Entry) : Session := { s with log := s.log ++ entries }

/-- The absolute form of a path, with every step back resolved. -/
def resolve (s : Session) (p : Path) : Path := (s.current.join p).normal

/-- The number of bytes that is too large for a path. -/
def pathBytesEnd : Nat := 4096

/-- The place that a path leads to. -/
def locate (s : Session) (p : Path) : Except Obstacle Place :=
  if p.holdsNull then .error .nullCharacter
  else if pathBytesEnd ≤ p.toString.utf8ByteSize then .error .nameTooLong
  else s.tree.walk (if p.isAbsolute then [] else s.current.parts) p.parts

/-- The place that a path leads to, if it leads to one. -/
def place? (s : Session) (p : Path) : Option Place := (s.locate p).toOption

/-- What keeps a path from leading to a place. -/
def obstacle? (s : Session) (p : Path) : Option Obstacle :=
  match s.locate p with
  | .error obstacle => some obstacle
  | .ok _ => none

/-- What stands at the place that a path leads to, if it leads to one. -/
def node? (s : Session) (p : Path) : Option Node := (s.place? p).bind s.tree.node?

/-- Looks what stands at a path.  A path that leads nowhere is no fault, but one that is too long is. -/
def look (s : Session) (p : Path) : Except FileFault (Option Node) :=
  if s.obstacle? p = some .nameTooLong then .error (.blocked .nameTooLong p.toString) else .ok (s.node? p)

/-- Whether a path leads to a directory. -/
def isDirectory (s : Session) (p : Path) : Except FileFault Bool := (s.look p).map (· = some .directory)

/-- Makes a directory in one that exists. -/
def addDirectory (s : Session) (p : Path) : Except Obstacle Session := do
  let place ← s.locate p
  if s.tree.contains place then throw .occupied
  return { s with tree := s.tree.put place .directory }

/-- Makes a directory in one that exists, unless it is there already. -/
def ensureDirectory (s : Session) (p : Path) : Session × Except FileFault Unit :=
  match s.addDirectory p with
  | .ok s => (s, .ok ())
  | .error obstacle =>
    match s.isDirectory p with
    | .error e => (s, .error e)
    | .ok there => (s, if there then .ok () else .error (.blocked obstacle p.toString))

/-- Makes a directory and those above it, as far as they are missing. -/
def makeDirectory (s : Session) (p : Path) : Session × Except FileFault Unit :=
  if _ : p.parts ≠ [] ∧ s.obstacle? p = some .missing then
    match makeDirectory s p.parent with
    | (s, .error e) => (s, .error e)
    | (s, .ok ()) => s.ensureDirectory p
  else s.ensureDirectory p
termination_by p.parts.length
decreasing_by
  rename_i h
  have := List.length_pos_iff.2 h.1
  simp only [Path.parent, List.length_dropLast]
  omega

/-- Writes a file into a directory that exists. -/
def write (s : Session) (p : Path) (n : Node) : Session × Except FileFault Unit :=
  match s.locate p with
  | .error obstacle => (s, .error (.blocked obstacle p.toString))
  | .ok place =>
    if s.tree.isDirectory place then (s, .error (.blocked .isADirectory p.toString))
    else ({ s with tree := s.tree.put place n }, .ok ())

/-- Puts a file at a path and makes the directories above it. -/
def store (s : Session) (p : Path) (n : Node) : Session × Except FileFault Unit :=
  match s.makeDirectory p.parent with
  | (s, .error e) => (s, .error e)
  | (s, .ok ()) => s.write p n

end Session

end ModWeave
