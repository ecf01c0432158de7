/-
This file validates the file names that a peer lists and joins them to the base path.
-/

import SubnetDesk.Construction.FileTransfer.Job

namespace SubnetDesk.FileTransfer

open FileTree

/-- This is `PathBuf::push`. An absolute name replaces the path. -/
def push (path name : Path) : Path :=
  if name.head? = some '/' then name
  else if path = [] ∨ path.getLast? = some '/' then path ++ name
  else path ++ '/' :: name

/-- This is `TransferJob::join`. -/
def join (base name : Path) : Path :=
  if name = [] then base else push base name

inductive Component where
  | rootDir
  | curDir
  | parentDir
  | normal (segment : Segment)
deriving DecidableEq

def component (segment : Segment) : Component :=
  if segment = dotdot then .parentDir else .normal segment

/-- A dot component is kept only at the start of a relative path. -/
def components (path : Path) : List Component :=
  (if path.head? = some '/' then [.rootDir]
    else if (path.splitOn '/').head? = some dot then [.curDir] else []) ++
  (((path.splitOn '/').filter fun segment => segment ≠ [] ∧ segment ≠ dot).map component)

/-- This is `Path::file_name`. -/
def fileName (path : Path) : Path :=
  match (components path).getLast? with
  | some (.normal segment) => segment
  | _ => []

def validateFileNameNoTraversal (name : Path) : Except JobError Unit :=
  if name.any fun c => c = Char.ofNat 0 then .error .nullBytes
  else if ((name.splitOn '/').filter fun s => s ≠ []).any fun s => s = dotdot then
    .error .pathTraversal
  else if name.head? = some '/' then .error .absolutePath
  else .ok ()

def validateEach : List FileEntry → Except JobError Unit
  | [] => .ok ()
  | file :: rest =>
      if file.name = [] then .error .emptyFileName
      else
        match validateFileNameNoTraversal file.name with
        | .error err => .error err
        | .ok _ => validateEach rest

/-- A single file may use the empty name, because the base path then names the file. -/
def validateTransferFileNames (files : List FileEntry) : Except JobError Unit :=
  if files.length = 1 ∧ (files.head?.map FileEntry.name) = some [] then .ok ()
  else validateEach files

/-- The loop pushes each normal component and rejects an existing link. -/
def validateComponents (tree : Tree) (io : Io) (current : Path) :
    List Component → Except JobError Unit
  | [] => .ok ()
  | .normal segment :: rest =>
      match orFault ((io.lstat (push current segment)).map .other)
          (tree.symlinkMetadata (push current segment)) with
      | .ok node =>
          if node.isSymlink then .error .symlinkComponent
          else validateComponents tree io (push current segment) rest
      | .error .notFound => validateComponents tree io (push current segment) rest
      | .error fault => .error (.validateComponent (push current segment) fault)
  | .curDir :: rest => validateComponents tree io current rest
  | .rootDir :: _ => .error .invalidComponent
  | .parentDir :: _ => .error .invalidComponent

def validateNoSymlinkComponents (tree : Tree) (io : Io) (base name : Path) :
    Except JobError Unit :=
  if name = [] then .ok () else validateComponents tree io base (components name)

def joinValidatedPath (tree : Tree) (io : Io) (base name : Path) : Except JobError Path :=
  match validateFileNameNoTraversal name with
  | .error err => .error err
  | .ok _ =>
      match validateNoSymlinkComponents tree io base name with
      | .error err => .error err
      | .ok _ => .ok (join base name)

def validateFiles (tree : Tree) (io : Io) (base : Path) : List FileEntry → Except JobError Unit
  | [] => .ok ()
  | file :: rest =>
      match validateNoSymlinkComponents tree io base file.name with
      | .error err => .error err
      | .ok _ => validateFiles tree io base rest

/-- A rejected list leaves the job unchanged. -/
def TransferJob.setFiles (tree : Tree) (io : Io) (files : List FileEntry) (job : TransferJob) :
    Except JobError TransferJob :=
  let accepted := { job with totalSize := (files.map FileEntry.size).sum, files := files }
  match validateTransferFileNames files with
  | .error err => .error err
  | .ok _ =>
      match job.dataSource with
      | .memoryCursor _ => .ok accepted
      | .filePath base =>
          match validateFiles tree io base files with
          | .error err => .error err
          | .ok _ => .ok accepted

/-- A generic job validates its entry again before it uses the path. -/
def TransferJob.resolveEntryPath (tree : Tree) (io : Io) (job : TransferJob) (base name : Path) :
    Option Path :=
  match job.type with
  | .generic =>
      match joinValidatedPath tree io base name with
      | .ok path => some path
      | .error _ => none
  | .printer => some (join base name)

def downloadSuffix : Path := ".download".toList

def digestSuffix : Path := ".digest".toList

def downloadPath (path : Path) : Path := path ++ downloadSuffix

def digestPath (path : Path) : Path := path ++ digestSuffix

end SubnetDesk.FileTransfer
