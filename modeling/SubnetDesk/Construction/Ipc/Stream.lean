/-
This file defines the stream between a connection and the connection manager, and its two tasks.
-/

import SubnetDesk.Foundation.Machine

namespace SubnetDesk.Ipc

abbrev Bytes := List UInt8

inductive FS (α : Type) where
  | writeBlock (id fileNum : Int) (data : Bytes) (compressed : Bool)
  | other (fs : α)
deriving DecidableEq

inductive ClipboardFile (α : Type) where
  | monitorReady
  | other (file : α)
deriving DecidableEq

structure ClipboardNonFile where
  compress : Bool
  content : Bytes
  contentLen : Nat
  nextRaw : Bool
  width : Int
  height : Int
  format : Int
  specialName : List Char
deriving DecidableEq

/-- The tasks of the stream do not look into the values of the other kinds. -/
inductive Data (α : Type) where
  | login (login : α)
  | clickTime (ms : Int)
  | close
  | disconnected
  | fs (fs : FS α)
  | clipboardFile (file : ClipboardFile α)
  | clipboardNonFile (reply : Option (List Char × List ClipboardNonFile))
  | fileBlockFromCM (id fileNum : Int) (data : Bytes) (compressed : Bool) (connId : Int)
  | other (data : α)
deriving DecidableEq

variable {α : Type}

/-- The serialization skips the data of a block that the connection manager has read. -/
def Data.skipped : Data α → Data α
  | .fileBlockFromCM id fileNum _ compressed connId =>
      .fileBlockFromCM id fileNum [] compressed connId
  | data => data

/-- Any frame may be one that can be decoded. -/
structure Json (α : Type) where
  encode : Data α → Bytes
  decode : Bytes → Option (Data α)
  decode_encode : ∀ data, decode (encode data) = some data.skipped

/-- The frames that have been sent in each direction and not been read. -/
structure Stream where
  toCm : List Bytes
  fromCm : List Bytes
deriving DecidableEq

/-- A task starts, waits for its next value, waits for the payload of a value, owes the payload of a
value, or has ended. -/
inductive Phase (α : Type) where
  | starting
  | idle
  | attach (header : Data α)
  | block (payload : Bytes)
  | ended
deriving DecidableEq

/-- The values that are queued for a task, and what it does. -/
structure Task (α : Type) where
  rx : List (Data α)
  phase : Phase α
deriving DecidableEq

/-- An item of the clipboard. -/
structure Clipboard where
  compress : Bool
  content : Bytes
  width : Int
  height : Int
  format : Int
  specialName : List Char
deriving DecidableEq

inductive Party where
  | connection
  | cm
deriving DecidableEq

/-- A task sends the values that are queued for it, and some of its own. -/
inductive Event (α : Type) where
  | queued (party : Party) (data : Data α)
  | sent (party : Party) (own : Bool) (data : Data α)
  | passed (party : Party) (data : Data α)
  | answered (data : Data α)
  | ignored (party : Party) (frame : Bytes)
  | checked (outcome : Except (List Char) (List Clipboard))

def Data.withPayload (payload : Bytes) : Data α → Data α
  | .fs (.writeBlock id fileNum _ compressed) => .fs (.writeBlock id fileNum payload compressed)
  | .fileBlockFromCM id fileNum _ compressed connId =>
      .fileBlockFromCM id fileNum payload compressed connId
  | data => data

section StartIpc

variable (json : Json α)

/-- The connection answers a click time with its own, and reads the payload of a block. -/
def connectionReceive (clickTime : Int) (task : Task α) (stream : Stream) :
    Task α × Stream × List (Event α) :=
  match task.phase, stream.fromCm with
  | .idle, frame :: rest =>
      match json.decode frame with
      | none => (task, { stream with fromCm := rest }, [.ignored .connection frame])
      | some (.clickTime ms) =>
          (task, { toCm := stream.toCm ++ [json.encode (.clickTime clickTime)], fromCm := rest },
            [.answered (.clickTime ms), .sent .connection true (.clickTime clickTime)])
      | some (.fileBlockFromCM id fileNum data compressed connId) =>
          ({ task with phase := .attach (.fileBlockFromCM id fileNum data compressed connId) },
            { stream with fromCm := rest }, [])
      | some data => (task, { stream with fromCm := rest }, [.passed .connection data])
  | .attach header, payload :: rest =>
      ({ task with phase := .idle }, { stream with fromCm := rest },
        [.passed .connection (header.withPayload payload)])
  | _, _ => (task, stream, [])

def connectionSend (task : Task α) (stream : Stream) : Task α × Stream × List (Event α) :=
  match task.phase, task.rx with
  | .idle, .fs (.writeBlock id fileNum data compressed) :: rest =>
      ({ rx := rest, phase := .block data },
        { stream with
          toCm := stream.toCm ++ [json.encode (.fs (.writeBlock id fileNum [] compressed))] },
        [.sent .connection false (.fs (.writeBlock id fileNum data compressed))])
  | .idle, data :: rest =>
      ({ task with rx := rest }, { stream with toCm := stream.toCm ++ [json.encode data] },
        [.sent .connection false data])
  | .block payload, _ =>
      ({ task with phase := .idle }, { stream with toCm := stream.toCm ++ [payload] }, [])
  | _, _ => (task, stream, [])

end StartIpc

section IpcTaskRunner

variable (json : Json α)

/-- The items that are larger travel together in a frame of their own. -/
def rawThreshold : Nat := 1024 * 3

def mainData (clipboards : List Clipboard) : List ClipboardNonFile :=
  clipboards.map fun clipboard =>
    { compress := clipboard.compress
      content := if rawThreshold < clipboard.content.length then [] else clipboard.content
      contentLen := clipboard.content.length
      nextRaw := decide (rawThreshold < clipboard.content.length)
      width := clipboard.width
      height := clipboard.height
      format := clipboard.format
      specialName := clipboard.specialName }

def rawContents (clipboards : List Clipboard) : Bytes :=
  clipboards.flatMap fun clipboard =>
    if rawThreshold < clipboard.content.length then clipboard.content else []

def clipboardReply : Except (List Char) (List Clipboard) → Data α × Option Bytes
  | .ok clipboards =>
      (.clipboardNonFile (some ([], mainData clipboards)),
        if rawContents clipboards = [] then none else some (rawContents clipboards))
  | .error err => (.clipboardNonFile (some (err, [])), none)

/-- A task that starts on Windows announces the clipboard where it is enabled. -/
def cmStart (windows enabled : Bool) (task : Task α) (stream : Stream) :
    Task α × Stream × List (Event α) :=
  match task.phase with
  | .starting =>
      if windows && enabled then
        ({ task with phase := .idle },
          { stream with fromCm := stream.fromCm ++ [json.encode (.clipboardFile .monitorReady)] },
          [.sent .cm true (.clipboardFile .monitorReady)])
      else ({ task with phase := .idle }, stream, [])
  | _ => (task, stream, [])

/-- The connection manager starts again after a login, ends after a close, reads the payload of a
block, and answers a clipboard request with what it reads from the clipboard. -/
def cmReceive (windows : Bool) (outcome : Except (List Char) (List Clipboard)) (task : Task α)
    (stream : Stream) : Task α × Stream × List (Event α) :=
  match task.phase, stream.toCm with
  | .idle, frame :: rest =>
      match json.decode frame with
      | none => (task, { stream with toCm := rest }, [.ignored .cm frame])
      | some (.login login) =>
          ({ task with phase := .starting }, { stream with toCm := rest }, [.passed .cm (.login login)])
      | some .close =>
          ({ task with phase := .ended }, { stream with toCm := rest }, [.passed .cm .close])
      | some .disconnected =>
          ({ task with phase := .ended }, { stream with toCm := rest }, [.passed .cm .disconnected])
      | some (.fs (.writeBlock id fileNum data compressed)) =>
          ({ task with phase := .attach (.fs (.writeBlock id fileNum data compressed)) },
            { stream with toCm := rest }, [])
      | some (.clipboardNonFile request) =>
          if windows then
            let reply := clipboardReply outcome
            ({ task with phase := reply.2.elim .idle .block },
              { toCm := rest, fromCm := stream.fromCm ++ [json.encode reply.1] },
              [.passed .cm (.clipboardNonFile request), .checked outcome, .sent .cm true reply.1])
          else (task, { stream with toCm := rest }, [.passed .cm (.clipboardNonFile request)])
      | some data => (task, { stream with toCm := rest }, [.passed .cm data])
  | .attach header, payload :: rest =>
      ({ task with phase := .idle }, { stream with toCm := rest },
        [.passed .cm (header.withPayload payload)])
  | _, _ => (task, stream, [])

def cmSend (task : Task α) (stream : Stream) : Task α × Stream × List (Event α) :=
  match task.phase, task.rx with
  | .idle, .fileBlockFromCM id fileNum data compressed connId :: rest =>
      ({ rx := rest, phase := .block data },
        { stream with
          fromCm := stream.fromCm ++
            [json.encode (.fileBlockFromCM id fileNum [] compressed connId)] },
        [.sent .cm false (.fileBlockFromCM id fileNum data compressed connId)])
  | .idle, data :: rest =>
      ({ task with rx := rest }, { stream with fromCm := stream.fromCm ++ [json.encode data] },
        [.sent .cm false data])
  | .block payload, _ =>
      ({ task with phase := .idle }, { stream with fromCm := stream.fromCm ++ [payload] }, [])
  | _, _ => (task, stream, [])

end IpcTaskRunner

structure Link (α : Type) where
  connection : Task α
  cm : Task α
  stream : Stream
deriving DecidableEq

def Link.start : Link α where
  connection := { rx := [], phase := .idle }
  cm := { rx := [], phase := .starting }
  stream := { toCm := [], fromCm := [] }

/-- Values are queued at any time, and the steps of the two tasks come in any order. -/
inductive LinkInput (α : Type) where
  | queue (party : Party) (data : Data α)
  | connectionReceive (clickTime : Int)
  | connectionSend
  | cmStart (enabled : Bool)
  | cmReceive (outcome : Except (List Char) (List Clipboard))
  | cmSend

def Link.ofConnection (link : Link α) (moved : Task α × Stream × List (Event α)) :
    Link α × List (Event α) :=
  ({ link with connection := moved.1, stream := moved.2.1 }, moved.2.2)

def Link.ofCm (link : Link α) (moved : Task α × Stream × List (Event α)) :
    Link α × List (Event α) :=
  ({ link with cm := moved.1, stream := moved.2.1 }, moved.2.2)

def link (json : Json α) (windows : Bool) : Machine (Link α) (LinkInput α) (Event α) where
  step link
    | .queue .connection data =>
        ({ link with
          connection := { link.connection with rx := link.connection.rx ++ [data] } },
          [.queued .connection data])
    | .queue .cm data =>
        ({ link with cm := { link.cm with rx := link.cm.rx ++ [data] } }, [.queued .cm data])
    | .connectionReceive clickTime =>
        link.ofConnection (connectionReceive json clickTime link.connection link.stream)
    | .connectionSend => link.ofConnection (connectionSend json link.connection link.stream)
    | .cmStart enabled => link.ofCm (cmStart json windows enabled link.cm link.stream)
    | .cmReceive outcome => link.ofCm (cmReceive json windows outcome link.cm link.stream)
    | .cmSend => link.ofCm (cmSend json link.cm link.stream)

end SubnetDesk.Ipc
