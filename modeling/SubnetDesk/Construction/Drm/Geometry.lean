/-
This file defines the match of DRM displays with compositor outputs, and the size and place of
their pictures on the advertising and the capturing side.
-/

import SubnetDesk.Foundation.Machine

namespace SubnetDesk.Drm

abbrev Name := List Char

abbrev Bytes := List UInt8

structure DrmDisplayInfo where
  name : Name
  crtcId : UInt32
  x : Int32
  y : Int32
  width : UInt32
  height : UInt32
  active : Bool
  renderNode : Name
  device : Name
deriving DecidableEq

structure WaylandDisplayInfo where
  name : Name
  x : Int32
  y : Int32
  width : Int32
  height : Int32
  logicalSize : Option (Int32 × Int32)
  transform : Int32
deriving DecidableEq

structure Displays where
  primary : Nat
  displays : List WaylandDisplayInfo

/-- The quotient of two sizes stands for the floating point scale. -/
structure Scale where
  physical : Int32
  logical : Int32
deriving DecidableEq

structure DisplayInfo where
  x : Int32
  y : Int32
  width : Int32
  height : Int32
  name : Name
  online : Bool
  originalResolution : Int32 × Int32
  scale : Scale
deriving DecidableEq

/-- A record of a changed resolution keeps the original one under the name of its display. -/
def getOriginalResolution (changed : Name → Option (Int32 × Int32)) (name : Name)
    (width height : Int32) : Int32 × Int32 :=
  (changed name).getD (width, height)

/-- Frame dimensions after undoing the rotation of the output. -/
def rotatedDims (transform : Int32) (width height : Nat) : Nat × Nat :=
  if transform = 90 ∨ transform = 270 then (height, width) else (width, height)

/-- DRM inserts a letter that the compositor drops, as in HDMI-A-1 and HDMI-1. -/
def normalizeConnector (name : Name) : Name :=
  match name.splitOn '-' with
  | [first, [letter], last] => if letter.isAlpha then first ++ '-' :: last else name
  | _ => name

/-- The loops of the assignment mark the taken outputs and note the output of each display. -/
structure Pairing where
  taken : List Bool
  matched : List (Option Nat)

def Pairing.pair (pairing : Pairing) (index output : Nat) : Pairing :=
  ⟨pairing.taken.set output true, pairing.matched.set index (some output)⟩

def isFree (taken : List Bool) (output : Nat) : Bool := taken[output]? = some false

/-- The first free output that passes the test. -/
def firstFree (outputs : List WaylandDisplayInfo) (taken : List Bool)
    (test : WaylandDisplayInfo → Bool) : Option Nat :=
  (List.range outputs.length).find? fun output =>
    isFree taken output && outputs[output]?.any test

def sameSize (display : DrmDisplayInfo) (output : WaylandDisplayInfo) : Bool :=
  output.width = display.width.toInt32 && output.height = display.height.toInt32

/-- The first loop reserves every exact name. -/
def matchName (outputs : List WaylandDisplayInfo) (pairing : Pairing)
    (entry : DrmDisplayInfo × Nat) : Pairing :=
  match firstFree outputs pairing.taken fun output =>
      normalizeConnector output.name = normalizeConnector entry.1.name with
  | some output => pairing.pair entry.2 output
  | none => pairing

def isMatched (matched : List (Option Nat)) (index : Nat) : Bool := (matched[index]?.join).isSome

/-- The second loop pairs by resolution when one output and one display are left for it. -/
def matchResolution (drm : List DrmDisplayInfo) (outputs : List WaylandDisplayInfo)
    (pairing : Pairing) (entry : DrmDisplayInfo × Nat) : Pairing :=
  if isMatched pairing.matched entry.2 then pairing
  else
    let freeSame := (List.range outputs.length).filter fun output =>
      isFree pairing.taken output && outputs[output]?.any (sameSize entry.1)
    let unmatchedSame := drm.zipIdx.countP fun other =>
      !isMatched pairing.matched other.2 && other.1.width = entry.1.width &&
        other.1.height = entry.1.height
    match freeSame with
    | [output] => if unmatchedSame = 1 then pairing.pair entry.2 output else pairing
    | _ => pairing

def identityMatches (drm : List DrmDisplayInfo) (outputs : List WaylandDisplayInfo) :
    List (Option Nat) :=
  let empty : Pairing := ⟨List.replicate outputs.length false, List.replicate drm.length none⟩
  let named := drm.zipIdx.foldl (matchName outputs) empty
  (drm.zipIdx.foldl (matchResolution drm outputs) named).matched

/-- An unmatched display takes a free output of its size, or the next free one. -/
def matchLayout (outputs : List WaylandDisplayInfo) (pairing : Pairing)
    (entry : DrmDisplayInfo × Nat) : Pairing :=
  if isMatched pairing.matched entry.2 then pairing
  else
    match (firstFree outputs pairing.taken (sameSize entry.1)).or
        (pairing.taken.findIdx? fun taken => !taken) with
    | some output => pairing.pair entry.2 output
    | none => pairing

def assignWaylandOutputs (drm : List DrmDisplayInfo) (outputs : List WaylandDisplayInfo) :
    List (Option Nat) :=
  let matched := identityMatches drm outputs
  let taken := matched.reduceOption.foldl (fun taken output => taken.set output true)
    (List.replicate outputs.length false)
  (drm.zipIdx.foldl (matchLayout outputs) ⟨taken, matched⟩).matched

section Advertised

variable (changed : Name → Option (Int32 × Int32))

def displayInfoFromDrm (display : DrmDisplayInfo) : DisplayInfo where
  x := display.x
  y := display.y
  width := display.width.toInt32
  height := display.height.toInt32
  name := display.name
  online := display.active
  originalResolution :=
    getOriginalResolution changed display.name display.width.toInt32 display.height.toInt32
  scale := ⟨1, 1⟩

/-- A rotation of an identity match swaps the advertised size. -/
def swapRotated (display : DrmDisplayInfo) (output : WaylandDisplayInfo) (isIdentity : Bool)
    (info : DisplayInfo) : DisplayInfo :=
  if isIdentity = true ∧ (output.transform = 90 ∨ output.transform = 270) then
    { info with
      width := info.height
      height := info.width
      originalResolution := getOriginalResolution changed display.name info.height info.width }
  else info

/-- Several outputs also give their logical size. -/
def adoptLogical (display : DrmDisplayInfo) (output : WaylandDisplayInfo) (info : DisplayInfo) :
    DisplayInfo :=
  match output.logicalSize with
  | some (width, height) =>
      if 0 < width ∧ 0 < height then
        { info with
          scale := ⟨info.width, width⟩
          originalResolution := getOriginalResolution changed display.name width height }
      else info
  | none => info

/-- One turn of the augmenting loop. -/
def augmentEntry (outputs : List WaylandDisplayInfo) (identity matched : List (Option Nat))
    (entry : DrmDisplayInfo × Nat) : DisplayInfo :=
  let info := displayInfoFromDrm changed entry.1
  match matched[entry.2]?.join with
  | none => info
  | some index =>
      match outputs[index]? with
      | none => info
      | some output =>
          let placed := { info with x := output.x, y := output.y }
          let isIdentity := identity[entry.2]?.join = some index
          let turned := swapRotated changed entry.1 output isIdentity placed
          if outputs.length = 1 then turned else adoptLogical changed entry.1 output turned

/-- A snapshot without outputs, or with one output for several displays, tells nothing. -/
def blindSnapshot (drm : List DrmDisplayInfo) (outputs : List WaylandDisplayInfo) : Prop :=
  outputs = [] ∨ (outputs.length = 1 ∧ 1 < drm.length)

instance (drm : List DrmDisplayInfo) (outputs : List WaylandDisplayInfo) :
    Decidable (blindSnapshot drm outputs) := inferInstanceAs (Decidable (_ ∨ _))

def augmentWithWaylandGeometryFrom (drm : List DrmDisplayInfo) (snapshot : Displays)
    (matched : List (Option Nat)) : List DisplayInfo :=
  if drm = [] ∨ blindSnapshot drm snapshot.displays then drm.map (displayInfoFromDrm changed)
  else
    drm.zipIdx.map
      (augmentEntry changed snapshot.displays (identityMatches drm snapshot.displays) matched)

/-- The list that the host advertises under one snapshot. -/
def advertisedDisplays (drm : List DrmDisplayInfo) (snapshot : Displays) : List DisplayInfo :=
  augmentWithWaylandGeometryFrom changed drm snapshot (assignWaylandOutputs drm snapshot.displays)

/-- Only a quarter turn is undone, and only for an identity match. -/
def undoneTransform (output : Option WaylandDisplayInfo) : Int32 :=
  match output with
  | some output => if output.transform = 90 ∨ output.transform = 270 then output.transform else 0
  | none => 0

def transformAndOrigin (drm : List DrmDisplayInfo) (wireIdx : Nat) (snapshot : Displays) :
    Int32 × Option (Int32 × Int32) :=
  if blindSnapshot drm snapshot.displays then (0, none)
  else
    let identity := (identityMatches drm snapshot.displays)[wireIdx]?.join
    (undoneTransform (identity.bind fun output => snapshot.displays[output]?),
      (advertisedDisplays changed drm snapshot)[wireIdx]?.map fun info => (info.x, info.y))

end Advertised

inductive Pixfmt where
  | bgra
  | rgba
  | rgb565le
  | i420
  | nv12
  | i444
deriving DecidableEq

structure Picture where
  width : Nat
  height : Nat
  format : Pixfmt
  pixels : Bytes
deriving DecidableEq

/-- The receive thread publishes into the slot and the encoder takes from it. -/
structure FrameSlot where
  latest : Option Picture := none
  free : Option Bytes × Option Bytes := (none, none)
  ended : Option Name := none

/-- A buffer goes into the first empty place, if there is one. -/
def FrameSlot.recycle (slot : FrameSlot) (buffer : Bytes) : FrameSlot :=
  match slot.free with
  | (none, second) => { slot with free := (some buffer, second) }
  | (some first, none) => { slot with free := (some first, some buffer) }
  | (some _, some _) => slot

def FrameSlot.publish (slot : FrameSlot) (picture : Picture) : FrameSlot :=
  match slot.latest with
  | some old => { slot.recycle old.pixels with latest := some picture }
  | none => { slot with latest := some picture }

/-- A session keeps the size and the rotation with which it was built. -/
structure IpcDrmCapturer where
  slot : FrameSlot := {}
  sessionSize : Option (Nat × Nat)
  transform : Int32
  snapshotGen : Nat
  cur : Picture := ⟨0, 0, .bgra, []⟩

/-- The rotation of pixels is outside this repository. It reads the source with its stride, width,
height, and transform and writes into the target. -/
abbrev Rotate := Bytes → Nat → Nat → Nat → Int32 → Bytes → Bytes

def resize (buffer : Bytes) (size : Nat) : Bytes :=
  buffer.take size ++ List.replicate (size - buffer.length) 0

/-- A size that overflows makes the target empty, and a bad geometry leaves it as it is. -/
def unrotateBgra (rotate : Rotate) (source : Bytes) (width height : Nat) (transform : Int32)
    (target : Bytes) : Bytes :=
  let stride := if 0 < height then source.length / height else 0
  let full := (rotatedDims transform width height).1 * (rotatedDims transform width height).2 * 4
  let size := if full < 2 ^ 64 then full else 0
  let resized := resize target size
  if size = 0 ∨ stride < width * 4 then resized
  else rotate source stride width height transform resized

inductive FrameError where
  | wouldBlock
  | layoutChanged
  | geometry (session frame : Nat × Nat)
  | format (format : Pixfmt)
  | ended (reason : Name)
deriving DecidableEq

/-- The picture of the slot is turned upright and becomes the current one. -/
def IpcDrmCapturer.deliver (rotate : Rotate) (capturer : IpcDrmCapturer) (picture : Picture) :
    IpcDrmCapturer × Except FrameError Picture :=
  let size := rotatedDims capturer.transform picture.width picture.height
  let returned := { capturer with slot := capturer.slot.recycle picture.pixels }
  if capturer.transform = 0 then
    let next : Picture := ⟨size.1, size.2, picture.format, picture.pixels⟩
    ({ capturer with slot := capturer.slot.recycle capturer.cur.pixels, cur := next }, .ok next)
  else if picture.format ≠ .bgra ∧ picture.format ≠ .rgba then
    (returned, .error (.format picture.format))
  else
    let next : Picture := ⟨size.1, size.2, picture.format,
      unrotateBgra rotate picture.pixels picture.width picture.height capturer.transform
        capturer.cur.pixels⟩
    ({ returned with cur := next }, .ok next)

/-- This is `frame` from the moment at which its wait ends. -/
def IpcDrmCapturer.frame (rotate : Rotate) (generation : Nat) (capturer : IpcDrmCapturer) :
    IpcDrmCapturer × Except FrameError Picture :=
  match capturer.slot.latest, capturer.slot.ended with
  | none, none => (capturer, .error .wouldBlock)
  | none, some reason => (capturer, .error (.ended reason))
  | some picture, _ =>
      let taken := { capturer with slot := { capturer.slot with latest := none } }
      let size := rotatedDims capturer.transform picture.width picture.height
      let returned := { taken with slot := taken.slot.recycle picture.pixels }
      if generation ≠ capturer.snapshotGen then (returned, .error .layoutChanged)
      else
        match capturer.sessionSize with
        | some session =>
            if size ≠ session then (returned, .error (.geometry session size))
            else taken.deliver rotate picture
        | none => taken.deliver rotate picture

/-- This is `IpcDrmCapturer::new` after the handshake gave the list and the index. -/
def IpcDrmCapturer.new (changed : Name → Option (Int32 × Int32)) (displays : List DrmDisplayInfo)
    (wireIdx : Nat) (snapshot : Displays) (snapshotGen : Nat) :
    IpcDrmCapturer × Option (Int32 × Int32) :=
  let (transform, origin) := transformAndOrigin changed displays wireIdx snapshot
  ({ sessionSize := displays[wireIdx]?.map fun display =>
        rotatedDims transform display.width.toNat display.height.toNat
     transform := transform
     snapshotGen := snapshotGen }, origin)

structure CapturerInfo where
  origin : Int32 × Int32
  width : Nat
  height : Nat
  ndisplay : Nat
  capturer : IpcDrmCapturer

/-- The health of the display does not change the size of its picture. -/
def getCapturerInfo (changed : Name → Option (Int32 × Int32)) (displays : List DrmDisplayInfo)
    (wireIdx : Nat) (snapshot : Displays) (snapshotGen : Nat) : Option CapturerInfo :=
  let (capturer, origin) := IpcDrmCapturer.new changed displays wireIdx snapshot snapshotGen
  displays[wireIdx]?.map fun display =>
    let size := rotatedDims capturer.transform display.width.toNat display.height.toNat
    ⟨origin.getD (display.x, display.y), size.1, size.2, displays.length, capturer⟩

/-- The receive thread publishes and ends, the layout changes, and the encoder asks for frames. -/
inductive CaptureStep where
  | publish (picture : Picture)
  | finish (reason : Name)
  | frame (generation : Nat)

def captureSession (rotate : Rotate) : Machine IpcDrmCapturer CaptureStep Picture where
  step capturer
    | .publish picture => ({ capturer with slot := capturer.slot.publish picture }, [])
    | .finish reason => ({ capturer with slot := { capturer.slot with ended := some reason } }, [])
    | .frame generation =>
        match capturer.frame rotate generation with
        | (next, .ok picture) => (next, [picture])
        | (next, .error _) => (next, [])

end SubnetDesk.Drm
