/-
This file defines the table of pending screenshots, the answers to them, and the conversion of captured
pixel buffers to RGBA.
-/

import SubnetDesk.Construction.Video.FrameNotifiers
import Mathlib.Tactic

namespace SubnetDesk.Screenshots
open SubnetDesk.FrameNotifiers

/-- Requests are numbered in the order in which they are accepted. -/
structure Screenshot where
  sid : String
  tx : Int
  restoreVram : Bool
  number : Nat
  deriving DecidableEq

structure Rgba where
  width : Nat
  height : Nat
  data : List UInt8

/-- A pixel buffer may fail to convert. One whose conversion panics ends its service, and gives no
frame. -/
inductive Frame where
  | pixelBuffer (converted : Except String Rgba)
  | texture

structure ScreenshotResponse where
  sid : String := ""
  msg : String := ""
  data : List UInt8 := []
  deriving DecidableEq

structure Request where
  key : ServiceKey
  sid : String
  tx : Int
  deriving DecidableEq

/-- A response goes to the sender of its screenshot. -/
structure Sent where
  tx : Int
  response : ScreenshotResponse
  number : Nat
  deriving DecidableEq

/-- A service holds a screenshot that it took out of the table, with the frame that it captured. -/
structure State where
  screenshots : ServiceKey → Option Screenshot := fun _ => none
  held : ServiceKey → Option (Screenshot × Frame) := fun _ => none
  accepted : List Request := []
  sent : List Sent := []

inductive Input where
  | setTakeScreenshot (key : ServiceKey) (sid : String) (tx : Int)
  | capture (key : ServiceKey) (frame : Frame)
  | finish (key : ServiceKey)

section Service

variable (encodePng : Nat → Nat → List UInt8 → Except String (List UInt8))

def handleScreenshot (screenshot : Screenshot) (msg : String) (w h : Nat) (data : List UInt8) :
    Sent :=
  let response : ScreenshotResponse := { sid := screenshot.sid }
  let response :=
    if msg = "" then
      if data = [] then
        { response with msg := "Failed to take screenshot, please try again later." }
      else
        match encodePng w h data with
        | .ok png => { response with data := png }
        | .error e => { response with msg := "Error encoding png: " ++ e }
    else { response with msg := msg }
  ⟨screenshot.tx, response, screenshot.number⟩

def State.setTakeScreenshot (state : State) (key : ServiceKey) (sid : String) (tx : Int) : State :=
  { state with
    screenshots := Function.update state.screenshots key
      (some ⟨sid, tx, false, state.accepted.length⟩)
    accepted := state.accepted ++ [⟨key, sid, tx⟩] }

/-- A valid frame takes the pending screenshot of its display out of the table. -/
def State.capture (state : State) (key : ServiceKey) (frame : Frame) : State :=
  match state.held key with
  | some _ => state
  | none =>
      { state with
        screenshots := Function.update state.screenshots key none
        held := Function.update state.held key
          ((state.screenshots key).map fun screenshot => (screenshot, frame)) }

/-- A texture puts the screenshot back once, for a new try after the restart. -/
def State.finish (state : State) (key : ServiceKey) : State :=
  match state.held key with
  | none => state
  | some (screenshot, frame) =>
      let next := { state with held := Function.update state.held key none }
      match frame with
      | .pixelBuffer (.ok rgba) =>
          { next with
            sent := next.sent ++
              [handleScreenshot encodePng screenshot "" rgba.width rgba.height rgba.data] }
      | .pixelBuffer (.error e) =>
          { next with
            sent := next.sent ++
              [handleScreenshot encodePng screenshot ("Convert pixfmt: " ++ e) 0 0 []] }
      | .texture =>
          if screenshot.restoreVram then
            { next with
              sent := next.sent ++
                [handleScreenshot encodePng screenshot "Please change codec and try again." 0 0 []] }
          else
            { next with
              screenshots := Function.update next.screenshots key
                (some { screenshot with restoreVram := true }) }

def State.step (state : State) : Input → State
  | .setTakeScreenshot key sid tx => state.setTakeScreenshot key sid tx
  | .capture key frame => state.capture key frame
  | .finish key => state.finish encodePng key

def screenshotService : Machine State Input Empty where
  step state input := (state.step encodePng input, [])

end Service

/-- The request waits in the table or in the hands of its service. -/
def State.Pending (state : State) (number : Nat) (request : Request) : Prop :=
  (∃ screenshot ∈ state.screenshots request.key, screenshot.number = number) ∨
    ∃ held ∈ state.held request.key, held.1.number = number

/-- The answers to a request. -/
def State.answers (state : State) (number : Nat) : List Sent :=
  state.sent.filter fun sent => sent.number = number

/-- The request is answered at most once, and then on its own connection and with its own sid. -/
def State.AnswersOwn (state : State) : Prop :=
  ∀ number, (state.answers number).length ≤ 1 ∧
    ∀ sent ∈ state.answers number, ∃ request ∈ state.accepted[number]?,
      sent.tx = request.tx ∧ sent.response.sid = request.sid

/-- A request waits until it is answered. -/
def State.KeepsAll (state : State) : Prop :=
  ∀ number, ∀ request ∈ state.accepted[number]?,
    state.Pending number request ∨ (state.answers number).length = 1

/-- The step is one of the service of the display. -/
def Input.Serves (key : ServiceKey) : Input → Prop
  | .setTakeScreenshot .. => False
  | .capture other _ | .finish other => other = key

end SubnetDesk.Screenshots

namespace SubnetDesk.PixelBuffers

inductive Pixfmt where
  | bgra
  | rgba
  | rgb565le
  | i420
  | nv12
  | i444
  deriving DecidableEq

def Pixfmt.bpp : Pixfmt → Nat
  | .bgra | .rgba => 32
  | .rgb565le => 16
  | .i420 | .nv12 => 12
  | .i444 => 24

def Pixfmt.bytesPerPixel (pixfmt : Pixfmt) : Nat := (pixfmt.bpp + 7) / 8

structure PixelBuffer where
  data : List UInt8
  pixfmt : Pixfmt
  width : Nat
  height : Nat

def PixelBuffer.stride0 (pixbuf : PixelBuffer) : Nat := pixbuf.data.length / pixbuf.height

def PixelBuffer.stride (pixbuf : PixelBuffer) : List Nat := [pixbuf.stride0]

inductive Failure where
  | invalidStride
  | unsupportedConversion (source destination : Pixfmt)
  | outOfBounds
  deriving DecidableEq

/-- The routine of libyuv takes the source, its stride, the width, the height and the destination. -/
abbrev AbgrToArgb := List UInt8 → Nat → Nat → Nat → List UInt8 → List UInt8

def convert (abgrToArgb : AbgrToArgb) (captured : PixelBuffer) (pixfmt : Pixfmt)
    (dst : List UInt8) : Except Failure (List UInt8) :=
  if captured.pixfmt = pixfmt then .ok (dst ++ captured.data)
  else
    match captured.pixfmt, pixfmt with
    | .bgra, .rgba | .rgba, .bgra =>
        .ok (abgrToArgb captured.data captured.stride0 captured.width captured.height
          (dst.rightpad captured.data.length 0 |>.take captured.data.length))
    | source, destination => .error (.unsupportedConversion source destination)

/-- Reading a slice past its end panics. -/
def byteAt (data : List UInt8) (index : Nat) : Except Failure UInt8 :=
  match data[index]? with
  | some byte => .ok byte
  | none => .error .outOfBounds

def flippedPixel (bgra : List UInt8) (index : Nat) : Except Failure (List UInt8) := do
  let third ← byteAt bgra (index + 2)
  let second ← byteAt bgra (index + 1)
  let first ← byteAt bgra index
  let fourth ← byteAt bgra (index + 3)
  return [third, second, first, fourth]

def getRgbaFromPixelbuf (abgrToArgb : AbgrToArgb) (pixbuf : PixelBuffer) :
    Except Failure (List UInt8) :=
  match pixbuf.stride[0]? with
  | none => .error .invalidStride
  | some stride =>
      if stride = pixbuf.width * 4 then convert abgrToArgb pixbuf .rgba []
      else
        (List.range pixbuf.height).foldlM (fun bitFlipped y =>
          (List.range pixbuf.width).foldlM (fun bitFlipped x => do
            return bitFlipped ++ (← flippedPixel pixbuf.data (stride * y + 4 * x))) bitFlipped) []

end SubnetDesk.PixelBuffers
