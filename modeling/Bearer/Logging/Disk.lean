import Bearer.Text.Pieces
import Bearer.Text.Quoted

/-!
# Places of log files

A disk knows which paths are directories and which are files, and where nothing can be written. Opening
a file for appending makes it and the directories above it, unless something else is in the way or a lock
keeps it; then nothing changes.
-/

namespace Bearer.Logging

/-- The names from the top down to a place. -/
abbrev Path := List String

namespace Path

/-- A path that a text writes: blank names and `.` are left out, `..` goes one up. -/
def ofText (s : String) : Path :=
  let step (above : Path) (name : String) : Path :=
    if name = "" ∨ name = "." then above else if name = ".." then above.dropLast else above ++ [name]
  match (Text.pieces (· == '/') s.toList).map String.ofList with
  | [] => []
  | top :: below => below.foldl step [top]

def text (p : Path) : String := "/".intercalate p

end Path

/-- Why nothing can be written in a place. -/
inductive Lock where
  | permission
  | readOnly
  deriving DecidableEq, Repr

def Lock.text : Lock → String
  | permission => "[Errno 13] Permission denied: "
  | readOnly => "[Errno 30] Read-only file system: "

structure Disk where
  directories : List Path := []
  files : List Path := []
  /-- Places at and below which nothing can be made or written. -/
  locks : List (Path × Lock) := []
  deriving DecidableEq, Repr, Inhabited

inductive OpenError where
  | fileAsDirectory (p : Path)
  | belowFile (p : Path)
  | directory (p : Path)
  | locked (lock : Lock) (p : Path)
  deriving DecidableEq, Repr

def OpenError.text : OpenError → String
  | fileAsDirectory p => "[Errno 17] File exists: " ++ Text.quoted p.text
  | belowFile p => "[Errno 20] Not a directory: " ++ Text.quoted p.text
  | directory p => "[Errno 21] Is a directory: " ++ Text.quoted p.text
  | locked lock p => lock.text ++ Text.quoted p.text

namespace Disk

/-- Makes the directories with the names below `above`, one in the other. -/
def makeDirectories (disk : Disk) (above : Path) : List String → Except OpenError Disk
  | [] => .ok disk
  | name :: below =>
    let p := above ++ [name]
    if disk.files.contains p then
      match below with
      | [] => .error (.fileAsDirectory p)
      | next :: _ => .error (.belowFile (p ++ [next]))
    else if disk.directories.contains p then disk.makeDirectories p below
    else { disk with directories := p :: disk.directories }.makeDirectories p below

def lock? (disk : Disk) (p : Path) : Option Lock :=
  (disk.locks.find? fun (place, _) => place.isPrefixOf p).map (·.2)

/-- What has to be made first for a file: the highest directory that is missing, or else the file. -/
def first (disk : Disk) (p : Path) : Path :=
  let above := (List.range p.length).map p.take
  (above.find? fun d => d.any (· ≠ "") && !disk.directories.contains d).getD p

def openFile (disk : Disk) (p : Path) : Except OpenError Disk := do
  let made ← disk.makeDirectories [] p.dropLast
  if made.directories.contains p then throw (.directory p)
  if let some lock := disk.lock? p then throw (.locked lock (disk.first p))
  return if made.files.contains p then made else { made with files := p :: made.files }

end Disk

end Bearer.Logging
