/-
This file defines the run loop of a video service with its encoders and its subscribers.
-/

import SubnetDesk.Construction.Server.Service

namespace SubnetDesk.Video
open SubnetDesk.Services

/-- A frame is known by its encoder and by its place in the stream of that encoder. -/
structure VideoFrame where
  encoder : Nat
  index : Nat
  key : Bool
  deriving DecidableEq

inductive Message where
  | videoFrame (frame : VideoFrame)
  | switchDisplay
  | privacyModeOnByOther
  deriving DecidableEq

structure ConnInner where
  id : Int
  sent : List Message := []

instance : Subscriber ConnInner := ⟨fun sub => sub.id⟩

def ConnInner.send (msg : Message) (inner : ConnInner) : ConnInner :=
  { inner with sent := inner.sent ++ [msg] }

def Message.frame? : Message → Option VideoFrame
  | .videoFrame frame => some frame
  | _ => none

def ConnInner.frames (inner : ConnInner) : List VideoFrame := inner.sent.filterMap Message.frame?

/-- The first frame of a new encoder is a key frame. -/
structure Encoder where
  number : Nat
  encoded : Nat := 0

def Encoder.frame (encoder : Encoder) (key : Bool) : VideoFrame :=
  ⟨encoder.number, encoder.encoded, encoder.encoded == 0 || key⟩

/-- The outcome of the checks that may restart the service. -/
inductive Check where
  | pass
  | switch
  | displayChanged
  | privacyModeChanged (owner : Option Int) (displayChanged : Bool)

/-- A run that fails may first tell the subscribers that the display changed. -/
inductive SetUp where
  | ready
  | failed (displayChanged : Bool)

/-- A frame that is encoded again counts as a captured one. -/
inductive Capture where
  | frame
  | wouldBlock
  | fallBack
  | failed (displayChanged : Bool)

inductive Encoding where
  | encoded (key : Bool)
  | failed (switch : Bool)

/-- What the thread finds outside the service at its next step. -/
structure Surroundings where
  active : Bool := true
  setUp : SetUp := .ready
  checked : Check := .pass
  captured : Capture := .frame
  encoding : Encoding := .encoded false
  waited : Check := .pass

/-- The place of the service thread between two locks of the service. -/
inductive Phase where
  | outside
  | checking
  | looping
  | notifying (owner : Int) (displayChanged : Bool)
  | broadcasting
  | broadcastSnapshot
  | broadcastGreeting
  | broadcastSwap
  | frameSnapshot
  | frameCallback
  | frameSwap (switch : Bool)
  | encoding
  | sending (key : Bool)
  | waiting
  deriving DecidableEq

/-- The encoder of the last start is kept for its number. -/
structure VideoService where
  service : ServiceInner ConnInner
  encoder : Encoder := ⟨0, 0⟩
  phase : Phase := .outside

inductive VideoInput where
  | onSubscribe (id : Int)
  | onUnsubscribe (id : Int)
  | tick (surroundings : Surroundings)

/-- Every restart leaves the encoder behind. -/
def VideoService.check (vs : VideoService) (check : Check) (pass : Phase) : VideoService :=
  match check with
  | .pass => { vs with phase := pass }
  | .switch => { vs with phase := .outside }
  | .displayChanged => { vs with phase := .broadcasting }
  | .privacyModeChanged (some owner) displayChanged =>
      { vs with phase := .notifying owner displayChanged }
  | .privacyModeChanged none displayChanged =>
      { vs with phase := if displayChanged then .broadcasting else .outside }

def VideoService.tick (vs : VideoService) (around : Surroundings) : VideoService :=
  match vs.phase with
  | .outside =>
      if around.active ∧ vs.service.hasSubscribes then
        match around.setUp with
        | .ready =>
            { vs with
              encoder := { number := vs.encoder.number + 1 }
              phase := .checking }
        | .failed displayChanged =>
            { vs with phase := if displayChanged then .broadcasting else .outside }
      else vs
  | .checking =>
      { vs with
        phase := if around.active ∧ vs.service.hasSubscribes then .looping else .outside }
  | .looping =>
      match around.checked with
      | .pass =>
          match around.captured with
          | .frame => { vs with phase := .frameSnapshot }
          | .wouldBlock => { vs with phase := .waiting }
          | .fallBack => { vs with phase := .checking }
          | .failed displayChanged =>
              { vs with phase := if displayChanged then .broadcasting else .outside }
      | check => vs.check check .looping
  | .notifying owner displayChanged =>
      { vs with
        service := vs.service.updateLive fun sub =>
          if sub.id = owner then sub else sub.send .privacyModeOnByOther
        phase := if displayChanged then .broadcasting else .outside }
  | .broadcasting =>
      { vs with
        service := vs.service.updateLive (ConnInner.send .switchDisplay)
        phase := .broadcastSnapshot }
  | .broadcastSnapshot =>
      { vs with
        phase := if vs.service.newSubscribes.entries.isEmpty then .outside
          else .broadcastGreeting }
  | .broadcastGreeting =>
      { vs with
        service := vs.service.updateNew (ConnInner.send .switchDisplay)
        phase := .broadcastSwap }
  | .broadcastSwap =>
      { vs with
        service := vs.service.swapNewSubscribes
        phase := .outside }
  | .frameSnapshot =>
      { vs with
        phase := if vs.service.newSubscribes.entries.isEmpty then .encoding else .frameCallback }
  | .frameCallback =>
      { vs with phase := .frameSwap (!vs.service.subscribes.entries.isEmpty) }
  | .frameSwap switch =>
      { vs with
        service := vs.service.swapNewSubscribes
        phase := if switch then .outside else .encoding }
  | .encoding =>
      match around.encoding with
      | .encoded key => { vs with phase := .sending key }
      | .failed switch => { vs with phase := if switch then .outside else .waiting }
  | .sending key =>
      { vs with
        service := vs.service.updateLive (ConnInner.send (.videoFrame (vs.encoder.frame key)))
        encoder := { vs.encoder with encoded := vs.encoder.encoded + 1 }
        phase := .waiting }
  | .waiting => vs.check around.waited .checking

def VideoService.step (vs : VideoService) : VideoInput → VideoService
  | .onSubscribe id => { vs with service := vs.service.onSubscribe { id } }
  | .onUnsubscribe id => { vs with service := vs.service.onUnsubscribe id }
  | .tick around => vs.tick around

def videoService : Machine VideoService VideoInput Empty where
  step vs input := (vs.step input, [])

def VideoService.new (name : String) : VideoService :=
  { service := { name := name, needSnapshot := true } }

/-- A stream goes on with the next frame of its encoder or with the key frame of a newer one. -/
def VideoFrame.Follows (previous next : VideoFrame) : Prop :=
  (next.encoder = previous.encoder ∧ next.index = previous.index + 1) ∨
    (previous.encoder < next.encoder ∧ next.index = 0 ∧ next.key = true)

instance (previous next : VideoFrame) : Decidable (previous.Follows next) :=
  inferInstanceAs (Decidable (_ ∨ _))

/-- A stream starts with the key frame of the encoder of the frames that come after it. -/
def Stream (frames : List VideoFrame) : Prop :=
  (∀ first ∈ frames.head?, first.index = 0 ∧ first.key = true) ∧
    frames.IsChain VideoFrame.Follows

end SubnetDesk.Video
