/-
This file defines how the video services wait until their frames are fetched.
-/

import Mathlib.Data.Finset.Card
import SubnetDesk.Foundation.Machine

namespace SubnetDesk.FrameNotifiers

inductive VideoSource where
  | monitor
  | camera
  deriving DecidableEq

structure ServiceKey where
  source : VideoSource
  idx : Nat
  deriving DecidableEq

structure Frame where
  service : ServiceKey
  number : Nat
  deriving DecidableEq

/-- A client that acknowledges nothing in particular may still send an acknowledgement. -/
inductive Origin where
  | fetched (frame : Frame)
  | acknowledged (frame : Option Frame)
  | closed
  deriving DecidableEq

/-- Only the id is sent through the channel, and the origin is what the sender means by it. -/
structure Notification where
  id : Int
  origin : Origin
  deriving DecidableEq

/-- The place of a service in its loop. -/
inductive Stage where
  | stopped
  | looping
  | sent (connIds : Finset Int)
  | waiting
  | unlisting
  deriving DecidableEq

/-- Every turn of the loop has a number of its own, and its frame has that number. -/
structure VideoService where
  subscribes : Finset Int := ∅
  stage : Stage := .stopped
  number : Nat := 0
  sendConnIds : Finset Int := ∅
  fetchedConnIds : Finset Int := ∅

/-- A connection remembers the frames of its queue, and at its end those that were queued before. -/
structure Connection where
  videoAckRequired : Bool := false
  sent : List Frame := []
  rxVideo : List Frame := []
  received : List Frame := []
  fetched : List Frame := []
  acknowledged : List Frame := []
  closed : Option (List Frame) := none

def Connection.queue (frame : Frame) (connection : Connection) : Connection :=
  { connection with
    sent := connection.sent ++ [frame]
    rxVideo := connection.rxVideo ++ [frame] }

/-- Native clients have fetched a frame as soon as it leaves the queue. -/
def Connection.recv (frame : Frame) (connection : Connection) : Connection :=
  { connection with
    rxVideo := connection.rxVideo.tail
    received := connection.received ++ [frame]
    fetched := if connection.videoAckRequired then connection.fetched
      else connection.fetched ++ [frame] }

/-- An acknowledgement is meant for the first frame that was not acknowledged yet. -/
def Connection.acknowledge (connection : Connection) : Connection :=
  { connection with
    received := connection.received.tail
    acknowledged := connection.acknowledged ++ connection.received.head?.toList }

def Connection.finish (connection : Connection) : Connection :=
  { connection with closed := some connection.sent }

/-- A display without an entry has no connections. -/
structure System where
  notifiers : Nat → Option (List Notification) := fun _ => none
  displayConnIds : Nat → Finset Int := fun _ => ∅
  services : ServiceKey → VideoService := fun _ => {}
  connections : Int → Connection := fun _ => {}

inductive Input where
  | newService (key : ServiceKey)
  | login (id : Int) (videoAckRequired : Bool)
  | subscribe (key : ServiceKey) (id : Int)
  | unsubscribe (key : ServiceKey) (id : Int)
  | run (key : ServiceKey)
  | stop (key : ServiceKey)
  | handleOneFrame (key : ServiceKey) (encoded : Bool)
  | setSend (key : ServiceKey)
  | tryWaitNext (key : ServiceKey)
  | timeout (key : ServiceKey)
  | unlist (key : ServiceKey)
  | recvVideo (id : Int)
  | videoReceived (id : Int)
  | close (id : Int)

namespace System

def modifyService (system : System) (key : ServiceKey) (f : VideoService → VideoService) : System :=
  { system with services := Function.update system.services key (f (system.services key)) }

def modifyConnection (system : System) (id : Int) (f : Connection → Connection) : System :=
  { system with connections := Function.update system.connections id (f (system.connections id)) }

def notifyVideoFrameFetched (system : System) (idx : Nat) (msg : Notification) : System :=
  { system with
    notifiers := Function.update system.notifiers idx ((system.notifiers idx).map (· ++ [msg])) }

def notifyVideoFrameFetchedByConnId (system : System) (msg : Notification) : System :=
  { system with
    notifiers := fun idx =>
      if msg.id ∈ system.displayConnIds idx then (system.notifiers idx).map (· ++ [msg])
      else system.notifiers idx }

/-- The frame of the turn that the service is in. -/
def frame (system : System) (key : ServiceKey) : Frame := ⟨key, (system.services key).number⟩

def sendVideoFrame (system : System) (key : ServiceKey) : System :=
  { system with
    connections := fun id =>
      if id ∈ (system.services key).subscribes then
        (system.connections id).queue (system.frame key)
      else system.connections id }

def handleOneFrame (system : System) (key : ServiceKey) (encoded : Bool) : System :=
  if (system.services key).stage = .looping then
    if encoded then
      (system.sendVideoFrame key).modifyService key fun service =>
        { service with
          stage := .sent service.subscribes
          sendConnIds := ∅ }
    else
      system.modifyService key fun service =>
        { service with
          stage := .sent ∅
          sendConnIds := ∅ }
  else system

/-- A frame without receivers leaves the table alone. -/
def setSend (system : System) (key : ServiceKey) : System :=
  match (system.services key).stage with
  | .sent connIds =>
      let next := system.modifyService key fun service =>
        { service with
          stage := .waiting
          sendConnIds := connIds
          fetchedConnIds := ∅ }
      if connIds.Nonempty then
        { next with displayConnIds := Function.update next.displayConnIds key.idx connIds }
      else next
  | _ => system

/-- Where nothing was sent, nothing is taken out of the channel. -/
def taken (system : System) (key : ServiceKey) : List Notification :=
  if (system.services key).stage = .waiting ∧ (system.services key).sendConnIds.Nonempty then
    (system.notifiers key.idx).getD []
  else []

/-- The wait goes on until as many connections have notified as the frame was sent to. -/
def tryWaitNext (system : System) (key : ServiceKey) : System :=
  if (system.services key).stage = .waiting then
    let fetchedConnIds := (system.services key).fetchedConnIds ∪
      ((system.taken key).map Notification.id).toFinset
    let next := system.modifyService key fun service =>
      { service with
        fetchedConnIds := fetchedConnIds
        stage := if service.sendConnIds.card ≤ fetchedConnIds.card then .unlisting else .waiting }
    if (system.services key).sendConnIds.Nonempty then
      { next with
        notifiers := Function.update next.notifiers key.idx
          ((system.notifiers key.idx).map fun _ => []) }
    else next
  else system

/-- A turn ends with its number used up. -/
def endTurn (system : System) (key : ServiceKey) (stage : Stage) : System :=
  let next := system.modifyService key fun service =>
    { service with
      stage := stage
      number := service.number + 1
      sendConnIds := ∅ }
  { next with displayConnIds := Function.update next.displayConnIds key.idx ∅ }

def recvVideo (system : System) (id : Int) : System :=
  let connection := system.connections id
  match connection.closed, connection.rxVideo.head? with
  | none, some frame =>
      let next := system.modifyConnection id (Connection.recv frame)
      if connection.videoAckRequired then next
      else next.notifyVideoFrameFetched frame.service.idx ⟨id, .fetched frame⟩
  | _, _ => system

def videoReceived (system : System) (id : Int) : System :=
  let connection := system.connections id
  if connection.closed.isSome then system
  else
    (system.modifyConnection id Connection.acknowledge).notifyVideoFrameFetchedByConnId
      ⟨id, .acknowledged connection.received.head?⟩

def close (system : System) (id : Int) : System :=
  if (system.connections id).closed.isSome then system
  else
    (system.modifyConnection id Connection.finish).notifyVideoFrameFetchedByConnId ⟨id, .closed⟩

def step (system : System) : Input → System
  | .newService key =>
      { system with
        notifiers := Function.update system.notifiers key.idx
          (some ((system.notifiers key.idx).getD [])) }
  | .login id videoAckRequired =>
      system.modifyConnection id fun connection =>
        { connection with videoAckRequired := videoAckRequired }
  | .subscribe key id =>
      system.modifyService key fun service =>
        { service with subscribes := insert id service.subscribes }
  | .unsubscribe key id =>
      system.modifyService key fun service =>
        { service with subscribes := service.subscribes.erase id }
  | .run key =>
      if (system.services key).stage = .stopped ∧ (system.notifiers key.idx).isSome then
        system.modifyService key fun service => { service with stage := .looping }
      else system
  | .stop key =>
      if (system.services key).stage = .stopped then system else system.endTurn key .stopped
  | .handleOneFrame key encoded => system.handleOneFrame key encoded
  | .setSend key => system.setSend key
  | .tryWaitNext key => system.tryWaitNext key
  | .timeout key =>
      if (system.services key).stage = .waiting then
        system.modifyService key fun service => { service with stage := .unlisting }
      else system
  | .unlist key =>
      if (system.services key).stage = .unlisting then system.endTurn key .looping else system
  | .recvVideo id => system.recvVideo id
  | .videoReceived id => system.videoReceived id
  | .close id => system.close id

end System

def notifiers : Machine System Input Empty where
  step system input := (system.step input, [])

/-- The connection has fetched or acknowledged the frame, or it has ended. -/
def Connection.Done (connection : Connection) (frame : Frame) : Prop :=
  frame ∈ connection.fetched ∨ frame ∈ connection.acknowledged ∨ connection.closed.isSome

/-- The connection has notified for the frame after it was queued. -/
def Connection.Notified (connection : Connection) (frame : Frame) : Prop :=
  frame ∈ connection.fetched ∨ frame ∈ connection.acknowledged ∨
    frame ∈ connection.closed.getD []

/-- A notification is meant for a frame. -/
def Notification.Means (msg : Notification) (frame : Frame) : Prop :=
  msg.origin = .fetched frame ∨ msg.origin = .acknowledged (some frame) ∨ msg.origin = .closed

instance (msg : Notification) (frame : Frame) : Decidable (msg.Means frame) :=
  inferInstanceAs (Decidable (_ ∨ _ ∨ _))

instance (connection : Connection) (frame : Frame) : Decidable (connection.Done frame) :=
  inferInstanceAs (Decidable (_ ∨ _ ∨ _))

instance (connection : Connection) (frame : Frame) : Decidable (connection.Notified frame) :=
  inferInstanceAs (Decidable (_ ∨ _ ∨ _))

/-- The connections that the frame of the turn was sent to, until the wait for it ends. -/
def VideoService.receivers (service : VideoService) : Option (Finset Int) :=
  match service.stage with
  | .sent connIds => some connIds
  | .waiting => some service.sendConnIds
  | _ => none

/-- The frame was sent in the turn that its service is in, and the wait for it has not ended. -/
def System.Pending (system : System) (frame : Frame) : Prop :=
  frame = system.frame frame.service ∧ (system.services frame.service).receivers.isSome

instance (system : System) (frame : Frame) : Decidable (system.Pending frame) :=
  inferInstanceAs (Decidable (_ ∧ _))

end SubnetDesk.FrameNotifiers
