/-
This file defines the acknowledgements of video frames, without and with a video worker. A session
begins with the configuration of the decoder at the login.
-/

import SubnetDesk.Construction.Web.Video

namespace SubnetDesk.WebClient

structure DecoderRecoveryState where
  attempts : Nat
  maxAttempts : Nat
deriving DecidableEq

def initialDecoderRecoveryState : DecoderRecoveryState where
  attempts := 0
  maxAttempts := 1

def requestDecoderRecovery (previous : DecoderRecoveryState) : DecoderRecoveryState × Bool :=
  if previous.maxAttempts ≤ previous.attempts then (previous, false)
  else ({ previous with attempts := previous.attempts + 1 }, true)

/-- A batch of which a frame is dropped, or after which the client waits for a key frame, is
acknowledged at once. -/
def ackAtOnce (previous next : VideoDecodeState) : Bool :=
  next.awaitingKeyFrame || previous.droppedFrames < next.droppedFrames

/-- The chunks in the decoder after its calls. A reset clears them. -/
def queuedAfter (queued : Nat) (outputs : List DecodeOutput) : Nat :=
  outputs.foldl (fun queued output => match output with
    | .reset _ => 0
    | .decode .configured _ => queued + 1
    | _ => queued) queued

/-- What happens to a decoder outside the calls: a chunk leaves it, with or without an output, or it
fails and is closed. -/
inductive DecoderEvent where
  | chunk (shown : Bool)
  | error
deriving DecidableEq

/-- The client without a worker. `received` and `acked` count messages, and no code reads them. -/
structure MainClient where
  connected : Bool
  codecState : CodecState
  queued : Nat
  decodeState : VideoDecodeState
  videoAckPending : Bool
  recovery : DecoderRecoveryState
  received : Nat
  acked : Nat
deriving DecidableEq

namespace MainClient

def start (codec : ProtocolVideoCodec) : MainClient where
  connected := true
  codecState := .configured
  queued := 0
  decodeState := initialVideoDecodeState codec
  videoAckPending := false
  recovery := initialDecoderRecoveryState
  received := 0
  acked := 0

def close (client : MainClient) : MainClient :=
  { client with
    connected := false
    codecState := .closed
    queued := 0
    videoAckPending := false }

def sendVideoAck (client : MainClient) : MainClient := { client with acked := client.acked + 1 }

def configureDecoder (client : MainClient) : MainClient :=
  { client with
    codecState := .configured
    queued := 0
    decodeState := initialVideoDecodeState client.decodeState.codec
    videoAckPending := false }

def recoverDecoder (client : MainClient) : MainClient :=
  let (recovery, shouldRetry) := requestDecoderRecovery client.recovery
  if shouldRetry then ({ client with recovery := recovery }).configureDecoder.sendVideoAck
  else client.close

def videoFrame (client : MainClient) (batch : VideoBatch) : MainClient :=
  let (codecState, next, outputs) := decodeVideoBatch client.codecState batch client.decodeState
  let decoded := { client with
    codecState := codecState
    queued := queuedAfter client.queued outputs
    received := client.received + 1 }
  match next with
  | none => decoded.close
  | some next =>
      if ackAtOnce client.decodeState next then ({ decoded with decodeState := next }).sendVideoAck
      else { decoded with decodeState := next, videoAckPending := true }

def output (client : MainClient) : MainClient :=
  if client.videoAckPending then ({ client with videoAckPending := false }).sendVideoAck else client

def decoderEvent (client : MainClient) : DecoderEvent → MainClient
  | .chunk shown =>
      if client.queued = 0 then client
      else
        let left := { client with queued := client.queued - 1 }
        if shown then left.output else left
  | .error =>
      if client.codecState = .configured then
        ({ client with codecState := .closed, queued := 0 }).recoverDecoder
      else client

end MainClient

inductive MainEvent where
  | videoFrame (batch : VideoBatch)
  | decoder (event : DecoderEvent)
  | peerInfo
  | close

def mainPath : Machine MainClient MainEvent Empty where
  step client event :=
    if client.connected then
      match event with
      | .videoFrame batch => (client.videoFrame batch, [])
      | .decoder event => (client.decoderEvent event, [])
      | .peerInfo =>
          (({ client with recovery := initialDecoderRecoveryState }).configureDecoder, [])
      | .close => (client.close, [])
    else (client, [])

/-- A message to the worker. It does not see whether it is initialized for a recovery. -/
inductive WorkerInput where
  | initialize_ (protocol : ProtocolVideoCodec) (recovering : Bool)
  | frame (batch : VideoBatch)
  | reset

/-- The statistics of the worker are left out. -/
inductive WorkerOutput where
  | ack
  | error
deriving DecidableEq

/-- `lost` counts the frames since the initialization whose decoding threw, and no code reads it. -/
structure VideoWorker where
  decoder : Option CodecState
  queued : Nat
  decodeState : VideoDecodeState
  pendingAcks : Nat
  lost : Nat
deriving DecidableEq

namespace VideoWorker

def start (codec : ProtocolVideoCodec) : VideoWorker where
  decoder := none
  queued := 0
  decodeState := initialVideoDecodeState codec
  pendingAcks := 0
  lost := 0

def resetDecoder (worker : VideoWorker) : VideoWorker :=
  { worker with
    decoder := none
    queued := 0
    pendingAcks := 0
    lost := 0 }

def initialize_ (worker : VideoWorker) (protocol : ProtocolVideoCodec) : VideoWorker :=
  { worker.resetDecoder with
    decodeState := initialVideoDecodeState protocol
    decoder := some .configured }

def decode (worker : VideoWorker) (batch : VideoBatch) : VideoWorker × List WorkerOutput :=
  match worker.decoder with
  | none => (worker, [.ack])
  | some codecState =>
      let (codecState, next, outputs) := decodeVideoBatch codecState batch worker.decodeState
      let decoded := { worker with
        decoder := some codecState
        queued := queuedAfter worker.queued outputs }
      match next with
      | none => ({ decoded with lost := worker.lost + 1 }, [.error])
      | some next =>
          if ackAtOnce worker.decodeState next then ({ decoded with decodeState := next }, [.ack])
          else
            ({ decoded with
              decodeState := next
              pendingAcks := worker.pendingAcks + 1 }, [])

def onMessage (worker : VideoWorker) : WorkerInput → VideoWorker × List WorkerOutput
  | .initialize_ protocol _ => (worker.initialize_ protocol, [])
  | .frame batch => worker.decode batch
  | .reset => (worker.resetDecoder, [])

def output (worker : VideoWorker) : VideoWorker × List WorkerOutput :=
  if 0 < worker.pendingAcks then
    ({ worker with pendingAcks := worker.pendingAcks - 1 }, [.ack])
  else (worker, [])

def decoderEvent (worker : VideoWorker) : DecoderEvent → VideoWorker × List WorkerOutput
  | .chunk shown =>
      if worker.queued = 0 then (worker, [])
      else
        let left := { worker with queued := worker.queued - 1 }
        if shown then left.output else (left, [])
  | .error =>
      if worker.decoder = some .configured then
        ({ worker with decoder := some .closed, queued := 0 }, [.error])
      else (worker, [])

end VideoWorker

/-- The client with a worker, and the messages on their way between the two. -/
structure WorkerClient where
  connected : Bool
  codec : ProtocolVideoCodec
  recovery : DecoderRecoveryState
  toWorker : List WorkerInput
  worker : VideoWorker
  toMain : List WorkerOutput
  received : Nat
  acked : Nat

namespace WorkerClient

def start (codec : ProtocolVideoCodec) : WorkerClient where
  connected := true
  codec := codec
  recovery := initialDecoderRecoveryState
  toWorker := [.initialize_ codec false]
  worker := .start codec
  toMain := []
  received := 0
  acked := 0

def post (client : WorkerClient) (message : WorkerInput) : WorkerClient :=
  { client with toWorker := client.toWorker ++ [message] }

def close (client : WorkerClient) : WorkerClient :=
  ({ client with connected := false }).post .reset

def sendVideoAck (client : WorkerClient) : WorkerClient :=
  { client with acked := client.acked + 1 }

def recoverDecoder (client : WorkerClient) : WorkerClient :=
  let (recovery, shouldRetry) := requestDecoderRecovery client.recovery
  if shouldRetry then
    ((({ client with recovery := recovery }).post (.initialize_ client.codec true))).sendVideoAck
  else client.close

def onMessage (client : WorkerClient) : WorkerOutput → WorkerClient
  | .ack => client.sendVideoAck
  | .error => client.recoverDecoder

/-- The worker has made a step and posted messages. -/
def worked (client : WorkerClient) (step : VideoWorker × List WorkerOutput) : WorkerClient :=
  { client with
    worker := step.1
    toMain := client.toMain ++ step.2 }

end WorkerClient

inductive WorkerEvent where
  | videoFrame (batch : VideoBatch)
  | deliverToWorker
  | deliverToMain
  | decoder (event : DecoderEvent)
  | peerInfo
  | close

/-- Both sides take their messages in the order of the posts, at any time. -/
def workerPath : Machine WorkerClient WorkerEvent Empty where
  step client event :=
    if client.connected then
      match event with
      | .videoFrame batch =>
          (({ client with received := client.received + 1 }).post (.frame batch), [])
      | .deliverToWorker =>
          match client.toWorker with
          | [] => (client, [])
          | message :: rest =>
              (({ client with toWorker := rest }).worked (client.worker.onMessage message), [])
      | .deliverToMain =>
          match client.toMain with
          | [] => (client, [])
          | message :: rest => (({ client with toMain := rest }).onMessage message, [])
      | .decoder event => (client.worked (client.worker.decoderEvent event), [])
      | .peerInfo =>
          (({ client with recovery := initialDecoderRecoveryState }).post
            (.initialize_ client.codec false), [])
      | .close => (client.close, [])
    else (client, [])

end SubnetDesk.WebClient
