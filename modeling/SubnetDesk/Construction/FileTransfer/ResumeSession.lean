/-
This file joins a reading and a writing job by their messages.
-/

import SubnetDesk.Construction.FileTransfer.ReadDriver
import SubnetDesk.Construction.FileTransfer.Write

namespace SubnetDesk.FileTransfer

open FileTree

/-- A confirmed offset is recorded with the source file and the download of that moment, and then
with the bytes that the reader has sent and the writer has taken. -/
structure Resumption where
  file : Int
  offset : Nat
  download : Path
  content : Bytes
  kept : Bytes
  sent : Bytes
  stored : Bytes
deriving DecidableEq

/-- Messages and requests arrive in the order in which they were sent. -/
structure ResumeState where
  reader : TransferJob
  flight : List Message := []
  requests : List FileTransferSendConfirmRequest := []
  writer : Writer
  resumption : Option Resumption := none

/-- The parties step in any order. The writer answers a digest by a request to both jobs. -/
inductive ResumeStep where
  | start (io : Io)
  | read (io : Io)
  | store (io : Io)
  | answer (io : Io) (union : ConfirmUnion)
  | receive (io : Io)
  | finish (io : Io)

/-- The download of a file and the file itself are recorded when both are there. -/
def ResumeState.resume (source : Tree) (state : ResumeState) (file : Int) (offset : Nat) :
    Option Resumption :=
  match entryAt state.reader.files file, state.reader.dataSource,
      entryAt state.writer.job.files file, state.writer.job.dataSource with
  | some entry, .filePath base, some target, .filePath targetBase =>
      match source.fileBytes (join base entry.name),
          state.writer.tree.fileBytes (downloadPath (join targetBase target.name)) with
      | some content, some kept =>
          some ⟨file, offset, downloadPath (join targetBase target.name), content, kept, [], []⟩
      | _, _ => none
  | _, _, _, _ => none

def Resumption.send (codec : Codec) (block : FileTransferBlock) (resumption : Resumption) :
    Resumption :=
  if block.fileNum = resumption.file then
    { resumption with sent := resumption.sent ++ block.decoded codec }
  else resumption

/-- The resumed file is over when the writer takes a block of another file. -/
def Resumption.store (codec : Codec) (block : FileTransferBlock) (resumption : Resumption) :
    Option Resumption :=
  if block.fileNum = resumption.file then
    some { resumption with stored := resumption.stored ++ block.decoded codec }
  else none

/-- A request with an offset starts a resumption, and another request for the file ends it. -/
def ResumeState.answered (source : Tree) (state : ResumeState) (file : Int)
    (union : ConfirmUnion) : Option Resumption :=
  match union with
  | .offsetBlk (offset + 1) => state.resume source file (offset + 1)
  | _ => state.resumption.filter fun resumption => resumption.file ≠ file

def resumeSession (codec : Codec) (source : Tree) :
    Machine ResumeState ResumeStep FileTransferBlock where
  step state
    | .start io =>
        match state.reader.initDataStream source io with
        | (reader, .ok sent) =>
            ({ state with reader := reader, flight := state.flight ++ sent }, [])
        | (reader, .error _) => ({ state with reader := reader }, [])
    | .read io =>
        match state.reader.read codec source io with
        | (reader, .ok (some block)) =>
            ({ state with
                reader := reader
                flight := state.flight ++ [.block block]
                resumption := state.resumption.map (Resumption.send codec block) }, [block])
        | (reader, _) => ({ state with reader := reader }, [])
    | .store io =>
        match state.flight with
        | .block block :: rest =>
            let (job, tree, _) := state.writer.job.write codec state.writer.tree io block
            ({ state with
                flight := rest
                writer := ⟨job, tree⟩
                resumption := state.resumption.bind (Resumption.store codec block) }, [])
        | _ => (state, [])
    | .answer io union =>
        match state.flight with
        | .digest digest :: rest =>
            let noted := state.writer.job.setDigest digest.fileSize digest.lastModified
            let request : FileTransferSendConfirmRequest :=
              ⟨digest.id, digest.fileNum, some union⟩
            let (job, tree) := noted.confirm state.writer.tree io request
            ({ state with
                flight := rest
                requests := state.requests ++ [request]
                writer := ⟨job, tree⟩
                resumption := state.answered source digest.fileNum union }, [])
        | _ => (state, [])
    | .receive io =>
        match state.requests with
        | request :: rest =>
            ({ state with
                reader := (state.reader.confirm source io request).1
                requests := rest }, [])
        | [] => (state, [])
    | .finish io =>
        ({ state with
            writer := ⟨state.writer.job, state.writer.job.modifyTime state.writer.tree io⟩
            resumption := none }, [])

end SubnetDesk.FileTransfer
