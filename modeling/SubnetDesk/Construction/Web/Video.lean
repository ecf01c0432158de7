/-
This file defines how the web client decodes the video batches that it receives.
-/

import SubnetDesk.Foundation.Machine

namespace SubnetDesk.WebClient

inductive ProtocolVideoCodec where
  | vp9
  | h264
  | av1
deriving DecidableEq

structure EncodedVideoFrame where
  data : List UInt8
  key : Bool
  pts : Int
deriving DecidableEq

/-- The members of the union of a video frame that the client reads. -/
structure ProtocolVideoFrame where
  vp9s : Option (List EncodedVideoFrame)
  h264s : Option (List EncodedVideoFrame)
  av1s : Option (List EncodedVideoFrame)
deriving DecidableEq

structure VideoDecodeState where
  timestamp : Nat
  awaitingKeyFrame : Bool
  droppedFrames : Nat
  codec : ProtocolVideoCodec
deriving DecidableEq

def maxDecodeQueueSize : Nat := 6

def initialVideoDecodeState (codec : ProtocolVideoCodec) : VideoDecodeState where
  timestamp := 0
  awaitingKeyFrame := false
  droppedFrames := 0
  codec := codec

def encodedFrames (frame : ProtocolVideoFrame) :
    ProtocolVideoCodec → Option (List EncodedVideoFrame)
  | .h264 => frame.h264s
  | .av1 => frame.av1s
  | .vp9 => frame.vp9s

def maxSafeInteger : Nat := 2 ^ 53 - 1

/-- The sum of one and a number past the safe ones is rounded back to the number. -/
def addOne (timestamp : Nat) : Nat :=
  if timestamp ≤ maxSafeInteger then timestamp + 1 else timestamp

def nextTimestamp (timestamp : Nat) (pts : Int) : Nat :=
  if pts.natAbs ≤ maxSafeInteger ∧ (timestamp : Int) < pts then pts.toNat else addOne timestamp

/-- The state of a `VideoDecoder`. Only a configured one decodes, and `reset` takes the
configuration away. -/
inductive CodecState where
  | unconfigured
  | configured
  | closed
deriving DecidableEq

structure EncodedVideoChunk where
  key : Bool
  timestamp : Nat
  data : List UInt8
deriving DecidableEq

/-- The calls to the decoder, with its state at the call, and the frames without one. -/
inductive DecodeOutput where
  | reset (state : CodecState)
  | decode (state : CodecState) (chunk : EncodedVideoChunk)
  | dropped
  | lost
deriving DecidableEq

structure DecodeLoop where
  timestamp : Nat
  awaitingKeyFrame : Bool
  droppedFrames : Nat
  resetForKeyFrame : Bool
  codecState : CodecState
  thrown : Bool
deriving DecidableEq

namespace DecodeLoop

def drop (loop : DecodeLoop) : DecodeLoop :=
  { loop with
    awaitingKeyFrame := true
    droppedFrames := loop.droppedFrames + 1 }

def throw (loop : DecodeLoop) : DecodeLoop := { loop with thrown := true }

/-- The call of `decode` at the end of the loop. It throws on a decoder without configuration. -/
def decode (loop : DecodeLoop) (encoded : EncodedVideoFrame) : DecodeLoop × List DecodeOutput :=
  (if loop.codecState = .configured then loop else loop.throw,
    [.decode loop.codecState ⟨encoded.key, loop.timestamp, encoded.data⟩])

/-- The loop goes on to the next key frame with a decoder that is reset. -/
def resetDecoder (loop : DecodeLoop) : DecodeLoop :=
  { loop with
    codecState := .unconfigured
    awaitingKeyFrame := false
    resetForKeyFrame := true }

/-- One iteration, on a frame and the size of the decode queue at that time. The frames after an
exception are lost. -/
def iterate (loop : DecodeLoop) (encoded : EncodedVideoFrame) (decodeQueueSize : Nat) :
    DecodeLoop × List DecodeOutput :=
  if loop.thrown then (loop, [.lost])
  else
    let loop := { loop with timestamp := nextTimestamp loop.timestamp encoded.pts }
    if loop.awaitingKeyFrame && !encoded.key then (loop.drop, [.dropped])
    else if loop.awaitingKeyFrame && encoded.key then
      if loop.codecState = .closed then (loop.throw, [.reset loop.codecState, .lost])
      else
        let (next, calls) := loop.resetDecoder.decode encoded
        (next, .reset loop.codecState :: calls)
    else if !loop.resetForKeyFrame && maxDecodeQueueSize < decodeQueueSize then
      (loop.drop, [.dropped])
    else loop.decode encoded

end DecodeLoop

/-- A batch, and the sizes of the decode queue at the tests before and in the loop. -/
structure VideoBatch where
  frame : ProtocolVideoFrame
  decodeQueueSize : Nat → Nat

def decodeLoop : Machine DecodeLoop (EncodedVideoFrame × Nat) DecodeOutput where
  step loop input := loop.iterate input.1 input.2

def VideoDecodeState.enter (previous : VideoDecodeState) (codecState : CodecState)
    (decodeQueueSize : Nat) : DecodeLoop where
  timestamp := previous.timestamp
  awaitingKeyFrame := previous.awaitingKeyFrame || maxDecodeQueueSize < decodeQueueSize
  droppedFrames := previous.droppedFrames
  resetForKeyFrame := false
  codecState := codecState
  thrown := false

/-- The frames with the sizes that their iterations find. -/
def VideoBatch.iterations (batch : VideoBatch) (frames : List EncodedVideoFrame) :
    List (EncodedVideoFrame × Nat) :=
  frames.mapIdx fun index encoded => (encoded, batch.decodeQueueSize (index + 1))

/-- There is no state where an exception leaves the loop. -/
def decodeVideoBatch (codecState : CodecState) (batch : VideoBatch)
    (previous : VideoDecodeState) : CodecState × Option VideoDecodeState × List DecodeOutput :=
  match encodedFrames batch.frame previous.codec with
  | none => (codecState, some previous, [])
  | some frames =>
      let (left, outputs) := decodeLoop.run (previous.enter codecState (batch.decodeQueueSize 0))
        (batch.iterations frames)
      (left.codecState,
        if left.thrown then none
        else some
          { timestamp := left.timestamp
            awaitingKeyFrame := left.awaitingKeyFrame
            droppedFrames := left.droppedFrames
            codec := previous.codec },
        outputs)

structure DecodeClient where
  codecState : CodecState
  decodeState : VideoDecodeState
deriving DecidableEq

def DecodeClient.start (codec : ProtocolVideoCodec) : DecodeClient where
  codecState := .configured
  decodeState := initialVideoDecodeState codec

/-- One batch after the other. The state before a batch stays where the batch throws. -/
def decoding : Machine DecodeClient VideoBatch DecodeOutput where
  step client batch :=
    let (codecState, next, outputs) := decodeVideoBatch client.codecState batch client.decodeState
    (⟨codecState, next.getD client.decodeState⟩, outputs)

end SubnetDesk.WebClient
