import MemoAssist.Setting.Environment
import MemoAssist.Text.Encoding

/-! The files and folders that a command meets. A path is followed step by step, and every step but
the last has to lead into a folder. -/
namespace MemoAssist

namespace FilePath

/-- The place that one more step leads to. Above the root there is nothing but the root; above a
place that nothing is known of, another such place. -/
def step (here : FilePath) (part : String) : FilePath :=
  if part = ".." then
    match here.parts.getLast? with
    | none => if here.root = "" then here.append [part] else here
    | some last =>
      if last = ".." then here.append [part] else { here with parts := here.parts.dropLast }
  else here.append [part]

/-- Where the steps of a path begin. Two slashes in front mean the same as one. -/
def origin (p : FilePath) : FilePath := ⟨if p.root = "" then "" else "/", []⟩

/-- The place of a path whose steps all lead somewhere. -/
def place (p : FilePath) : FilePath := p.parts.foldl step p.origin

/-- The longest name of a place, in bytes. -/
def longestPart : Nat := 255

/-- The longest path, in bytes. -/
def longestPath : Nat := 4095

end FilePath

namespace Cli

/-- What stands at a path. -/
inductive Found where
  | nothing
  | file (bytes : Text.Bytes)
  | folder
deriving DecidableEq, Repr

/-- What is known to stand at some places. Where nothing is known, nothing is. -/
abbrev Files := List (FilePath × Found)

namespace Files

/-- Every path begins at a folder. -/
def lookUp (files : Files) (place : FilePath) : Found :=
  if place.parts.isEmpty then .folder
  else ((files.find? fun entry => entry.1 = place).map Prod.snd).getD .nothing

/-- Refuses a name that is longer than names can be. -/
def stepTo (here : FilePath) (part : String) : Except Fault FilePath :=
  if part.utf8ByteSize ≤ FilePath.longestPart then .ok (here.step part) else .error (.of .badPath)

def follow (files : Files) (here : FilePath) : List String → Except Fault (Option FilePath)
  | [] => .ok (some here)
  | part :: rest =>
    if files.lookUp here = .folder then do files.follow (← stepTo here part) rest else .ok none

def refuseLong (path : FilePath) : Except Fault Unit :=
  if path.text.utf8ByteSize ≤ FilePath.longestPath then .ok () else .error (.of .badPath)

/-- What stands at the end of a path. -/
def foundAt (files : Files) (path : FilePath) : Except Fault Found := do
  refuseLong path
  match ← files.follow path.origin path.parts with
  | some place => return files.lookUp place
  | none => return .nothing

/-- Make a place a folder unless it is one. -/
def makeFolder (files : Files) (place : FilePath) : Except Fault Files :=
  match files.lookUp place with
  | .folder => .ok files
  | .nothing => .ok ((place, .folder) :: files)
  | .file _ => .error (.of .notFolder)

/-- Make the folders that are missing on the way through some steps. -/
def makeFolders (files : Files) (here : FilePath) : List String → Except Fault Files
  | [] => files.makeFolder here
  | part :: rest => do makeFolders (← files.makeFolder here) (← stepTo here part) rest

/-- Make the folder of a file, and the file too unless it is there. -/
def makeFile (files : Files) (folder : FilePath) (name : String) : Except Fault Files := do
  refuseLong folder
  let files ← files.makeFolders folder.origin folder.parts
  let place := folder.place.append [name]
  match files.lookUp place with
  | .nothing => return (place, .file []) :: files
  | .file _ => return files
  | .folder => throw (.of .folder)

end Files

end Cli

end MemoAssist
