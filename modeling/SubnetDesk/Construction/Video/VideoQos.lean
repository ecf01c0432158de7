/-
This file defines how the video services choose the frame rate and the quality for the users.
-/

import Mathlib.Data.List.Sort
import SubnetDesk.Foundation.Machine

namespace SubnetDesk.Qos

def FPS : Nat := 60

def MIN_FPS : Nat := 1

def MAX_FPS : Nat := 120

def INIT_FPS : Nat := FPS

/-- A bitrate ratio is counted in hundredths. -/
abbrev Ratio := Nat

def BR_MAX : Ratio := 4000

def BR_MIN : Ratio := 20

def BR_BEST : Ratio := 150

def BR_BALANCED : Ratio := 67

def BR_SPEED : Ratio := 50

def LAN_DEFAULT_BITRATE_RATIO : Ratio := 200

def HISTORY_DELAY_LEN : Nat := 2

def ADJUST_RATIO_INTERVAL : Nat := 3

def DYNAMIC_SCREEN_THRESHOLD : Nat := 2

def DELAY_THRESHOLD_150MS : Nat := 150

inductive Quality where
  | best
  | balanced
  | low
  | custom (ratio : Ratio)
deriving DecidableEq

def Quality.ratio : Quality → Ratio
  | .best => BR_BEST
  | .balanced => BR_BALANCED
  | .low => BR_SPEED
  | .custom ratio => ratio

/-- The rounding of the floating point numbers is left open. -/
structure Floats where
  smooth : Nat → Nat → Nat
  adjusted : Nat → Bool → Quality → Ratio → Nat → Ratio

structure RttCalculator where
  minRtt : Option Nat
  windowMinRtt : Option Nat
  smoothedRtt : Option Nat
  samples : List Nat
deriving DecidableEq

def RttCalculator.default : RttCalculator where
  minRtt := none
  windowMinRtt := none
  smoothedRtt := none
  samples := []

def WINDOW_SAMPLES : Nat := 60

def MIN_SAMPLES : Nat := 10

section Calculators

variable (floats : Floats)

def RttCalculator.update (rtt : RttCalculator) (delay : Nat) : RttCalculator :=
  let minRtt := rtt.minRtt.elim delay (min · delay)
  let samples := rtt.samples.drop (rtt.samples.length + 1 - WINDOW_SAMPLES) ++ [delay]
  let windowMinRtt := samples.min?
  { minRtt := some minRtt
    windowMinRtt := windowMinRtt
    smoothedRtt :=
      match windowMinRtt with
      | some window =>
          if WINDOW_SAMPLES ≤ samples.length then some (floats.smooth minRtt window)
          else rtt.smoothedRtt
      | none => rtt.smoothedRtt
    samples := samples }

def RttCalculator.getRtt (rtt : RttCalculator) : Option Nat :=
  match rtt.smoothedRtt with
  | some smoothed => some smoothed
  | none => if MIN_SAMPLES ≤ rtt.samples.length then rtt.minRtt else none

structure UserDelay where
  delayHistory : List Nat
  fps : Option Nat
  rttCalculator : RttCalculator
deriving DecidableEq

def UserDelay.addDelay (user : UserDelay) (delay : Nat) : UserDelay :=
  { user with
    rttCalculator := user.rttCalculator.update floats delay
    delayHistory :=
      (if HISTORY_DELAY_LEN < user.delayHistory.length then user.delayHistory.drop 1
        else user.delayHistory) ++ [delay] }

def UserDelay.avgDelay (user : UserDelay) : Nat :=
  if user.delayHistory = [] then DELAY_THRESHOLD_150MS
  else
    let avg := user.delayHistory.sum % 2 ^ 32 / user.delayHistory.length
    match user.rttCalculator.getRtt with
    | some rtt => if rtt < avg then avg - rtt else avg
    | none => avg

end Calculators

/-- The quality stands with the time at which it was chosen. -/
structure UserData where
  autoAdjustFps : Option Nat
  customFps : Option Nat
  quality : Option (Int × Quality)
  delay : UserDelay
deriving DecidableEq

def UserData.default : UserData where
  autoAdjustFps := none
  customFps := none
  quality := none
  delay :=
    { delayHistory := []
      fps := none
      rttCalculator := .default }

structure DisplayData where
  sendCounter : Nat
  supportChangingQuality : Bool
deriving DecidableEq

abbrev Users := List (Int × UserData)

/-- The instants are counted in nanoseconds. -/
structure VideoQoS where
  fps : Nat
  ratio : Ratio
  users : Users
  displays : List (List Char × DisplayData)
  bitrateStore : Nat
  adjustRatioInstant : Nat
  abrConfig : Bool
  newUserInstant : Nat
deriving DecidableEq

def VideoQoS.default (now : Nat) : VideoQoS where
  fps := FPS
  ratio := LAN_DEFAULT_BITRATE_RATIO
  users := []
  displays := []
  bitrateStore := 0
  adjustRatioInstant := now
  abrConfig := false
  newUserInstant := now

/-- An insertion takes the place of an entry with the same key. -/
def insert {κ α : Type} [DecidableEq κ] (entries : List (κ × α)) (key : κ) (value : α) :
    List (κ × α) :=
  (key, value) :: entries.filter (·.1 ≠ key)

def remove {κ α : Type} [DecidableEq κ] (entries : List (κ × α)) (key : κ) : List (κ × α) :=
  entries.filter (·.1 ≠ key)

def modify {κ α : Type} [DecidableEq κ] (entries : List (κ × α)) (key : κ) (change : α → α) :
    List (κ × α) :=
  entries.map fun entry => if entry.1 = key then (entry.1, change entry.2) else entry

def clamp (value low high : Nat) : Nat := max low (min value high)

namespace VideoQoS

def getFps (qos : VideoQoS) : Nat :=
  if MIN_FPS ≤ qos.fps ∧ qos.fps ≤ MAX_FPS then qos.fps else FPS

def inVbrState (qos : VideoQoS) : Bool :=
  qos.abrConfig && qos.displays.all (·.2.supportChangingQuality)

end VideoQoS

def userFps (user : UserData) : Nat :=
  let fps := user.customFps.getD FPS
  match user.autoAdjustFps with
  | some autoAdjustFps => if fps = 0 ∨ autoAdjustFps < fps then autoAdjustFps else fps
  | none => fps

def highestFps (users : Users) : Nat :=
  clamp ((((users.map (userFps ·.2)).filter (MIN_FPS ≤ ·)).min?).getD FPS) MIN_FPS MAX_FPS

/-- The map of the users is read in some order. -/
def iterate (rank : Int → Nat) (users : Users) : Users :=
  users.insertionSort fun first second => rank first.1 ≤ rank second.1

/-- A later entry is kept over an earlier one with the same time. -/
def keepLatest (best : Option (Int × Quality)) (next : Int × Quality) : Option (Int × Quality) :=
  match best with
  | some kept => if kept.1 ≤ next.1 then some next else some kept
  | none => some next

def latestQuality (rank : Int → Nat) (users : Users) : Quality :=
  ((((iterate rank users).filterMap (·.2.quality)).foldl keepLatest none).getD
    (0, .custom LAN_DEFAULT_BITRATE_RATIO)).2

/-- The low, balanced and best quality have numbers, and others carry a percentage. -/
def convertQuality (q : Int32) : Quality :=
  if q = 3 then .balanced
  else if q = 2 then .low
  else if q = 4 then .best
  else .custom (clamp (((q >>> 8 &&& 0xFFF) * 2).toInt.toNat) BR_MIN BR_MAX)

def NANOS : Nat := 1000000000

namespace VideoQoS

def adjustFps (qos : VideoQoS) (now : Nat) : VideoQoS :=
  let fps := ((qos.users.map fun user => user.2.delay.fps.getD INIT_FPS).min?).getD INIT_FPS
  let fps := if (now - qos.newUserInstant) / NANOS < 1 ∧ INIT_FPS < fps then INIT_FPS else fps
  { qos with fps := clamp fps MIN_FPS (highestFps qos.users) }

def adjustRatio (floats : Floats) (rank : Int → Nat) (qos : VideoQoS) (now : Nat)
    (dynamicScreen : Bool) : VideoQoS :=
  if qos.inVbrState then
    match (qos.users.map (·.2.delay.avgDelay)).max? with
    | some maxDelay =>
        { qos with
          ratio := floats.adjusted maxDelay dynamicScreen (latestQuality rank qos.users) qos.ratio
            qos.bitrateStore
          adjustRatioInstant := now }
    | none => qos
  else qos

def updateDisplayData (floats : Floats) (rank : Int → Nat) (qos : VideoQoS) (now : Nat)
    (name : List Char) (sendCounter : Nat) : VideoQoS :=
  let qos :=
    { qos with
      displays := modify qos.displays name fun display =>
        { display with sendCounter := display.sendCounter + sendCounter } }
  let qos := qos.adjustFps now
  if qos.inVbrState then
    if ADJUST_RATIO_INTERVAL ≤ (now - qos.adjustRatioInstant) / NANOS then
      let dynamicScreen := qos.displays.any fun display =>
        ADJUST_RATIO_INTERVAL * DYNAMIC_SCREEN_THRESHOLD ≤ display.2.sendCounter
      adjustRatio floats rank
        { qos with
          displays := qos.displays.map fun display =>
            (display.1, { display.2 with sendCounter := 0 }) }
        now dynamicScreen
    else qos
  else { qos with ratio := (latestQuality rank qos.users).ratio }

end VideoQoS

/-- These are the operations of the controller. -/
inductive Op where
  | onConnectionOpen (id : Int)
  | onConnectionClose (id : Int)
  | userCustomFps (id : Int) (fps : Nat)
  | userAutoAdjustFps (id : Int) (fps : Nat)
  | userImageQuality (id : Int) (imageQuality : Int32)
  | userNetworkDelay (id : Int) (delay : Nat)
  | userDelayResponseElapsed (id : Int) (elapsed : Nat)
  | newDisplay (name : List Char)
  | removeDisplay (name : List Char)
  | setSupportChangingQuality (name : List Char) (support : Bool)
  | storeBitrate (bitrate : Nat)
  | updateDisplayData (name : List Char) (sendCounter : Nat)

/-- An operation reads the monotonic clock in nanoseconds and the wall clock in milliseconds, and the
map of the users in some order. -/
structure Input where
  op : Op
  now : Nat
  time : Int
  rank : Int → Nat

def validFps (fps : Nat) : Bool := MIN_FPS ≤ fps ∧ fps ≤ MAX_FPS

namespace VideoQoS

def step (floats : Floats) (qos : VideoQoS) (input : Input) : VideoQoS :=
  match input.op with
  | .onConnectionOpen id =>
      { qos with
        users := insert qos.users id .default
        abrConfig := false
        newUserInstant := input.now }
  | .onConnectionClose id =>
      let users := remove qos.users id
      if users = [] then .default input.now else { qos with users := users }
  | .userCustomFps id fps =>
      if validFps fps then
        { qos with users := modify qos.users id fun user => { user with customFps := some fps } }
      else qos
  | .userAutoAdjustFps id fps =>
      if validFps fps then
        { qos with users := modify qos.users id fun user => { user with autoAdjustFps := some fps } }
      else qos
  | .userImageQuality id imageQuality =>
      if id ∈ qos.users.map (·.1) then
        let users := modify qos.users id fun user =>
          { user with quality := some (input.time, convertQuality imageQuality) }
        { qos with
          users := users
          ratio := (latestQuality input.rank users).ratio }
      else qos
  | .userNetworkDelay id delay =>
      let highest := highestFps qos.users
      { qos with
        users := modify qos.users id fun user =>
          { user with
            delay := { user.delay.addDelay floats (max delay 10) with fps := some highest } } }.adjustFps
        input.now
  | .userDelayResponseElapsed id elapsed =>
      if 2000 < elapsed then
        { qos with
          users := modify qos.users id fun user =>
            { user with delay := user.delay.addDelay floats (elapsed % 2 ^ 32) } }
      else qos
  | .newDisplay name =>
      { qos with
        displays := insert qos.displays name
          { sendCounter := 0
            supportChangingQuality := false } }
  | .removeDisplay name => { qos with displays := remove qos.displays name }
  | .setSupportChangingQuality name support =>
      { qos with
        displays := modify qos.displays name fun display =>
          { display with supportChangingQuality := support } }
  | .storeBitrate bitrate => { qos with bitrateStore := bitrate }
  | .updateDisplayData name sendCounter =>
      qos.updateDisplayData floats input.rank input.now name sendCounter

end VideoQoS

def control (floats : Floats) : Machine VideoQoS Input Empty where
  step qos input := (qos.step floats input, [])

end SubnetDesk.Qos
