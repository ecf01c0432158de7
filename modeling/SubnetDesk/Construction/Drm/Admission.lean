/-
This file defines the admission of consumers to the producer, and the life of their capture workers.
What an admitted connection and its worker send is defined with the stream of one consumer.
-/

import SubnetDesk.Foundation.Threads

namespace SubnetDesk.Drm

def maxDrmConns : Nat := 8

def drmConnAdmitted (prevCount : Nat) : Bool := prevCount < maxDrmConns

def maxDrmAuthInFlight : Nat := 4

def drmAuthAdmitted (prevInFlight : Nat) : Bool := prevInFlight < maxDrmAuthInFlight

/-- The channel from the worker to its task holds two messages. -/
def frameCapacity : Nat := 2

/-- The task of a connection. A refused task takes its increment back, and an ended one drops its
guards one after the other. -/
inductive ConnTask where
  | arriving
  | authRefused
  | authorizing
  | authorized (outcome : Bool)
  | admitting
  | connRefused
  | duplicating
  | spawning
  | awaitingDisplays
  | handshaking
  | streaming
  | forwarding
  | stopping
  | droppingChoice
  | droppingFrames
  | leaving
  | ended
deriving DecidableEq

inductive CaptureWorker where
  | absent
  | enumerating
  | sendingDisplays
  | choosing
  | opening
  | checking
  | grabbing
  | sending
  | readingCursor
  | sendingCursor
  | sleeping
  | exited
deriving DecidableEq

/-- A connection joins its task with its worker. They share the stop flag, the choice of a display,
and the channel of frames. -/
structure DrmConnection where
  task : ConnTask := .arriving
  worker : CaptureWorker := .absent
  stop : Bool := false
  chosen : Bool := false
  choiceClosed : Bool := false
  framesClosed : Bool := false
  queued : Nat := 0
deriving DecidableEq

structure DrmCounters where
  authInFlight : Nat
  connCount : Nat
deriving DecidableEq

/-- The subtraction of a machine word wraps around below zero. -/
def fetchSub (count : Nat) : Nat := if count = 0 then 2 ^ 64 - 1 else count - 1

/-- An attempt to grab is gated, succeeds, has no frame yet, has had none for too long, is not
supported, or fails. -/
inductive GrabResult where
  | gated
  | grabbed
  | wouldBlock
  | stalled
  | unsupported
  | failed
deriving DecidableEq

/-- The environment picks the side that moves and decides what the code cannot know. -/
inductive ConnChoice where
  | task (outcome : Bool)
  | worker (outcome : Bool) (grab : GrabResult)
deriving DecidableEq

/-- The task of `handle_drm_conn` makes its next step. -/
def moveTask (counters : DrmCounters) (conn : DrmConnection) (outcome : Bool) :
    DrmCounters × DrmConnection :=
  match conn.task with
  | .arriving =>
      ({ counters with authInFlight := counters.authInFlight + 1 },
        { conn with
          task := if drmAuthAdmitted counters.authInFlight then .authorizing else .authRefused })
  | .authRefused =>
      ({ counters with authInFlight := fetchSub counters.authInFlight },
        { conn with task := .ended })
  | .authorizing => (counters, { conn with task := .authorized outcome })
  | .authorized accepted =>
      ({ counters with authInFlight := fetchSub counters.authInFlight },
        { conn with task := if accepted then .admitting else .ended })
  | .admitting =>
      ({ counters with connCount := counters.connCount + 1 },
        { conn with
          task := if drmConnAdmitted counters.connCount then .duplicating else .connRefused })
  | .connRefused =>
      ({ counters with connCount := fetchSub counters.connCount }, { conn with task := .ended })
  | .duplicating => (counters, { conn with task := if outcome then .spawning else .leaving })
  | .spawning =>
      (counters, if outcome then { conn with task := .awaitingDisplays, worker := .enumerating }
        else { conn with task := .stopping })
  | .awaitingDisplays =>
      (counters, if 0 < conn.queued then
          { conn with task := .handshaking, queued := conn.queued - 1 }
        else if conn.worker = .exited then { conn with task := .stopping }
        else conn)
  | .handshaking =>
      (counters, if outcome && conn.worker != .exited then
          { conn with task := .streaming, chosen := true }
        else { conn with task := .stopping })
  | .streaming =>
      (counters, { conn with task := .forwarding, queued := conn.queued - 1 })
  | .forwarding => (counters, { conn with task := if outcome then .streaming else .stopping })
  | .stopping => (counters, { conn with task := .droppingChoice, stop := true })
  | .droppingChoice => (counters, { conn with task := .droppingFrames, choiceClosed := true })
  | .droppingFrames => (counters, { conn with task := .leaving, framesClosed := true })
  | .leaving =>
      ({ counters with connCount := fetchSub counters.connCount }, { conn with task := .ended })
  | .ended => (counters, conn)

/-- A closed channel ends the worker, and a full one makes it wait. -/
def sendFrame (conn : DrmConnection) (next : CaptureWorker) : DrmConnection :=
  if conn.framesClosed then { conn with worker := .exited }
  else if conn.queued < frameCapacity then
    { conn with worker := next, queued := conn.queued + 1 }
  else conn

/-- The worker of `drm_capture_worker` makes its next step. -/
def moveWorker (conn : DrmConnection) (outcome : Bool) (grab : GrabResult) : DrmConnection :=
  match conn.worker with
  | .absent => conn
  | .enumerating => { conn with worker := .sendingDisplays }
  | .sendingDisplays => sendFrame conn .choosing
  | .choosing =>
      if conn.chosen then { conn with worker := .opening }
      else if conn.choiceClosed then { conn with worker := .exited }
      else conn
  | .opening => { conn with worker := if outcome then .checking else .exited }
  | .checking => { conn with worker := if conn.stop then .exited else .grabbing }
  | .grabbing =>
      match grab with
      | .gated => { conn with worker := .readingCursor }
      | .grabbed => { conn with worker := .sending }
      | .wouldBlock => { conn with worker := .sleeping }
      | .unsupported => { conn with worker := .checking }
      | .stalled | .failed => { conn with worker := .exited }
  | .sending => sendFrame conn .readingCursor
  | .readingCursor => { conn with worker := if outcome then .sendingCursor else .sleeping }
  | .sendingCursor => sendFrame conn .sleeping
  | .sleeping => { conn with worker := .checking }
  | .exited => conn

def moveConn (counters : DrmCounters) (conn : DrmConnection) (choice : ConnChoice) :
    DrmCounters × DrmConnection × List Empty :=
  match choice with
  | .task outcome =>
      ((moveTask counters conn outcome).1, (moveTask counters conn outcome).2, [])
  | .worker outcome grab => (counters, moveWorker conn outcome grab, [])

/-- A call is a connection attempt. -/
def admissionProgram :
    Threads.Program DrmCounters DrmConnection Unit ConnChoice Empty Empty where
  enter counters _ := (counters, {})
  move := moveConn
  disturb counters _ := counters

abbrev AdmissionState := Threads.State DrmCounters DrmConnection

abbrev AdmissionEvent := Threads.Event Unit ConnChoice Empty

def admission : Machine AdmissionState AdmissionEvent Empty := admissionProgram.machine

def initialAdmission : AdmissionState := ⟨⟨0, 0⟩, []⟩

end SubnetDesk.Drm
