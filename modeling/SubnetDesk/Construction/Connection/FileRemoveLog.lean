/-
This file defines which removals of files and directories a connection reports.
-/

import SubnetDesk.Foundation.Machine

namespace SubnetDesk.FileRemoveLog

abbrev Text := List Char

/-- A path is compared by its components behind its root or its drive. -/
structure PathBuf where
  anchor : Text
  components : List Text
deriving DecidableEq

def PathBuf.parent (path : PathBuf) : Option PathBuf :=
  if path.components = [] then none
  else some { path with components := path.components.dropLast }

/-- Empty segments and dots are left out behind the first segment. -/
def unixPath (path : Text) : PathBuf where
  anchor := if path.head? = some '/' then ['/'] else []
  components :=
    match path.splitOn '/' with
    | [] => []
    | first :: rest =>
        [first].filter (fun segment => segment ≠ []) ++
          rest.filter fun segment => segment ≠ [] ∧ segment ≠ ['.']

/-- The message that removes a file or a directory. -/
structure FileRemove where
  id : Int
  path : Text
deriving DecidableEq

structure FileActionLog where
  id : Int
  connId : Int
  path : Text
  dir : Bool
deriving DecidableEq

/-- The instant is in nanoseconds. -/
structure FileRemoveLogControl where
  connId : Int
  instant : Nat
  removedFiles : List FileRemove
  removedDirs : List FileRemove
deriving DecidableEq

inductive Event where
  | removeFile (now : Nat) (file : FileRemove)
  | removeDir (now : Nat) (dir : FileRemove)
  | timer (now : Nat)
deriving DecidableEq

inductive Output where
  | removed (log : FileActionLog)
  | reported (logs : List FileActionLog)
deriving DecidableEq

namespace FileRemoveLogControl

def new (connId : Int) (now : Nat) : FileRemoveLogControl where
  connId := connId
  instant := now
  removedFiles := []
  removedDirs := []

def log (control : FileRemoveLogControl) (dir : Bool) (removal : FileRemove) : FileActionLog where
  id := removal.id
  connId := control.connId
  path := removal.path
  dir := dir

def onRemoveFile (control : FileRemoveLogControl) (now : Nat) (file : FileRemove) :
    FileRemoveLogControl × FileActionLog :=
  ({ control with
      instant := now
      removedFiles := control.removedFiles ++ [file] }, control.log false file)

section Paths

variable (parse : Text → PathBuf)

def directChild (parent child : Text) : Bool :=
  (parse child).parent == some (parse parent)

def onRemoveDir (control : FileRemoveLogControl) (now : Nat) (dir : FileRemove) :
    FileRemoveLogControl × FileActionLog :=
  let removedFiles := control.removedFiles.filter fun file => !directChild parse file.path dir.path
  let removedDirs := control.removedDirs.filter fun other => !directChild parse dir.path other.path
  ({ control with
      instant := now
      removedFiles := removedFiles
      removedDirs :=
        if removedDirs.any fun other => directChild parse other.path dir.path then removedDirs
        else removedDirs ++ [dir] }, control.log true dir)

end Paths

/-- A report waits until nothing has been removed for a second. -/
def due (control : FileRemoveLogControl) (now : Nat) : Bool :=
  decide (1 ≤ (now - control.instant) / 1000000000)

def onTimer (control : FileRemoveLogControl) (now : Nat) :
    FileRemoveLogControl × List FileActionLog :=
  if control.due now then
    ({ control with
        removedFiles := []
        removedDirs := [] },
      control.removedFiles.map (control.log false) ++ control.removedDirs.map (control.log true))
  else (control, [])

end FileRemoveLogControl

/-- The calls of one connection. -/
def machine (parse : Text → PathBuf) : Machine FileRemoveLogControl Event Output where
  step control
    | .removeFile now file =>
        let (control, log) := control.onRemoveFile now file
        (control, [.removed log])
    | .removeDir now dir =>
        let (control, log) := control.onRemoveDir parse now dir
        (control, [.removed log])
    | .timer now =>
        ((control.onTimer now).1,
          if control.due now then [.reported (control.onTimer now).2] else [])

end SubnetDesk.FileRemoveLog
