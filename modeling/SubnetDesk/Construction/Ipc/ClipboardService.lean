/-
This file defines how the Windows service reads the clipboard through the connection manager.
-/

import SubnetDesk.Construction.Ipc.Stream

namespace SubnetDesk.Ipc

/-- The stream that the service keeps between its calls, with the task at the other end. The requests
are counted, and so are the answers that were read. -/
structure Kept (α : Type) where
  cm : Task α
  stream : Stream
  alive : Bool
  asked : Nat
  answered : Nat
  reads : List (Except (List Char) (List Clipboard))

/-- A call waits for a message, or for the raw frame behind it. -/
inductive Call where
  | idle
  | header
  | raw (contents : List ClipboardNonFile)

structure ClipboardService (α : Type) where
  stream : Option (Kept α)
  call : Call

def ClipboardService.start (α : Type) : ClipboardService α where
  stream := none
  call := .idle

/-- A contents that is returned comes from an answer to some request, and is returned by the call that
made some request. What was read for that request is noted beside them. -/
inductive CallOutcome where
  | ok (request answer : Nat) (own : Option (Except (List Char) (List Clipboard)))
      (contents : List ClipboardNonFile)
  | failed
  | panicked

inductive Connect where
  | refused
  | broken
  | ready

/-- A call begins, a frame arrives, the wait is over or the stream is reset. The other end starts,
answers and sends, and other messages are queued there. -/
inductive ServiceInput (α : Type) where
  | call (sent : Bool) (connect : Connect)
  | receive
  | timeout
  | reset
  | queue (data : Data α)
  | cmStart (enabled : Bool)
  | cmReceive (outcome : Except (List Char) (List Clipboard))
  | cmSend

variable {α : Type} (json : Json α)

def Kept.connected : Kept α where
  cm := { rx := [], phase := .starting }
  stream := { toCm := [], fromCm := [] }
  alive := true
  asked := 0
  answered := 0
  reads := []

def Kept.ask (kept : Kept α) : Kept α :=
  { kept with
    stream := { kept.stream with
      toCm := kept.stream.toCm ++ [json.encode (.clipboardNonFile none)] }
    asked := kept.asked + 1 }

def reconnect (service : ClipboardService α) : Connect → ClipboardService α × List CallOutcome
  | .ready => ({ stream := some (Kept.connected.ask json), call := .header }, [])
  | _ => (service, [.failed])

/-- The kept stream is used again, and another one is connected where it cannot be written to. -/
def beginCall (service : ClipboardService α) (sent : Bool) (connect : Connect) :
    ClipboardService α × List CallOutcome :=
  match service.call, service.stream with
  | .idle, some kept =>
      if sent then ({ stream := some (kept.ask json), call := .header }, [])
      else reconnect json service connect
  | .idle, none => reconnect json service connect
  | _, _ => (service, [])

/-- The raw frame is split into the contents that are marked, and the split panics where the frame is
too short. -/
def splitRaw : List ClipboardNonFile → Bytes → Option (List ClipboardNonFile)
  | [], _ => some []
  | item :: rest, data =>
      if item.nextRaw then
        if item.contentLen ≤ data.length then
          (splitRaw rest (data.drop item.contentLen)).map
            ({ item with content := data.take item.contentLen } :: ·)
        else none
      else (splitRaw rest data).map (item :: ·)

def Kept.ok (kept : Kept α) (contents : List ClipboardNonFile) : CallOutcome :=
  .ok kept.asked kept.answered kept.reads[kept.asked - 1]? contents

/-- A message is an answer, the announcement that is passed over, or one that ends the call. -/
def onMessage (kept : Kept α) : Option (Data α) → ClipboardService α × List CallOutcome
  | some (.clipboardNonFile (some (err, contents))) =>
      let kept := { kept with answered := kept.answered + 1 }
      if err ≠ [] then ({ stream := some kept, call := .idle }, [.failed])
      else if contents.any (·.nextRaw) then ({ stream := some kept, call := .raw contents }, [])
      else ({ stream := some kept, call := .idle }, [kept.ok contents])
  | some (.clipboardFile .monitorReady) => ({ stream := some kept, call := .header }, [])
  | _ => ({ stream := some kept, call := .idle }, [.failed])

def onRaw (kept : Kept α) (contents : List ClipboardNonFile) (data : Bytes) :
    ClipboardService α × List CallOutcome :=
  match splitRaw contents data with
  | some contents => ({ stream := some kept, call := .idle }, [kept.ok contents])
  | none => ({ stream := some kept, call := .idle }, [.panicked])

def receive (service : ClipboardService α) : ClipboardService α × List CallOutcome :=
  match service.stream with
  | some kept =>
      match service.call, kept.alive, kept.stream.fromCm with
      | .header, true, frame :: rest =>
          onMessage { kept with stream := { kept.stream with fromCm := rest } } (json.decode frame)
      | .raw contents, true, data :: rest =>
          onRaw { kept with stream := { kept.stream with fromCm := rest } } contents data
      | _, _, _ => (service, [])
  | none => (service, [])

/-- A call whose message does not come fails and keeps the stream. A call whose raw frame does not come
drops the stream, and returns the contents without it. -/
def timeout (service : ClipboardService α) : ClipboardService α × List CallOutcome :=
  match service.call, service.stream with
  | .header, _ => ({ service with call := .idle }, [.failed])
  | .raw contents, some kept => ({ stream := none, call := .idle }, [kept.ok contents])
  | _, _ => (service, [])

def reset (service : ClipboardService α) : ClipboardService α × List CallOutcome :=
  match service.call with
  | .header =>
      ({ stream := service.stream.map fun kept => { kept with alive := false }, call := .idle },
        [.failed])
  | .raw _ => ({ stream := none, call := .idle }, [.failed])
  | .idle => (service, [])

def checkedIn (events : List (Event α)) : List (Except (List Char) (List Clipboard)) :=
  events.filterMap fun
    | .checked outcome => some outcome
    | _ => none

def Kept.moved (kept : Kept α) (moved : Task α × Stream × List (Event α)) : Kept α :=
  { kept with
    cm := moved.1
    stream := moved.2.1
    reads := kept.reads ++ checkedIn moved.2.2 }

def onKept (service : ClipboardService α) (move : Kept α → Kept α) :
    ClipboardService α × List CallOutcome :=
  ({ service with stream := service.stream.map fun kept => if kept.alive then move kept else kept }, [])

def clipboardService : Machine (ClipboardService α) (ServiceInput α) CallOutcome where
  step service
    | .call sent connect => beginCall json service sent connect
    | .receive => receive json service
    | .timeout => timeout service
    | .reset => reset service
    | .queue data =>
        onKept service fun kept => { kept with cm := { kept.cm with rx := kept.cm.rx ++ [data] } }
    | .cmStart enabled => onKept service fun kept =>
        kept.moved (cmStart json true enabled kept.cm kept.stream)
    | .cmReceive outcome => onKept service fun kept =>
        kept.moved (cmReceive json true outcome kept.cm kept.stream)
    | .cmSend => onKept service fun kept => kept.moved (cmSend json kept.cm kept.stream)

end SubnetDesk.Ipc
