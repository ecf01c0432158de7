/-
This file defines the registry of authorized connections, and the tasks that open and close them.
-/

import SubnetDesk.Foundation.Threads
import SubnetDesk.Construction.Connection.State

namespace SubnetDesk.AuthedConnID

open Connection (AuthConnType Platform)

structure AuthedConn where
  connId : Nat
  connType : AuthConnType
deriving DecidableEq

def AuthedConn.isRemote (conn : AuthedConn) : Bool := conn.connType = .remote

/-- The pairs are those that the wakelock thread receives, in their order. -/
structure Shared where
  idCount : Nat
  authedConns : List AuthedConn
  sent : List (Nat × Nat)
deriving DecidableEq

def Shared.remoteCount (shared : Shared) : Nat := shared.authedConns.countP (·.isRemote)

inductive CleanUp where
  | wallpaper
  | resolutions
  | virtualDisplays
  | pipewireSession
deriving DecidableEq

/-- The clean-up of the last remote connection, as a platform has it. -/
def cleanUps : Platform → List CleanUp
  | .linux => [.wallpaper, .resolutions, .pipewireSession]
  | .windows => [.wallpaper, .resolutions, .virtualDisplays]
  | .macos => [.resolutions]
  | .android => []
  | .ios => []

/-- The next critical section of a task. The counts belong to `check_wake_lock`. -/
inductive Stage where
  | registering
  | counting (closing : Bool)
  | countingRemote (closing : Bool) (connCount : Nat)
  | sending (closing : Bool) (connCount remoteCount : Nat)
  | alive
  | deciding
  | cleaning (rest : List CleanUp)
  | gone
deriving DecidableEq

structure Task where
  conn : AuthedConn
  stage : Stage
deriving DecidableEq

def Task.to (task : Task) (stage : Stage) : Task := { task with stage := stage }

inductive Output where
  | sent (connCount remoteCount : Nat)
  | cleaned (part : CleanUp) (remoteCount : Nat)
deriving DecidableEq

/-- A connection is opened under a new id. -/
def open_ (shared : Shared) (connType : AuthConnType) : Shared × Task :=
  let connId := shared.idCount + 1
  ({ shared with idCount := connId }, ⟨⟨connId, connType⟩, .registering⟩)

/-- One critical section of `new`, of `drop`, or of `check_wake_lock` in either. What a clean-up tells
of the remote connections is what the registry has at that time. -/
def move (platform : Platform) (shared : Shared) (task : Task) : Shared × Task × List Output :=
  match task.stage with
  | .registering =>
      ({ shared with authedConns := shared.authedConns ++ [task.conn] },
        task.to (.counting false), [])
  | .counting closing =>
      (shared, task.to (.countingRemote closing shared.authedConns.length), [])
  | .countingRemote closing connCount =>
      (shared, task.to (.sending closing connCount shared.remoteCount), [])
  | .sending closing connCount remoteCount =>
      ({ shared with sent := shared.sent ++ [(connCount, remoteCount)] },
        task.to (if closing then .gone else .alive), [.sent connCount remoteCount])
  | .alive =>
      ({ shared with authedConns := shared.authedConns.filter (·.connId ≠ task.conn.connId) },
        task.to .deciding, [])
  | .deciding =>
      (shared,
        task.to (if shared.remoteCount = 0 then .cleaning (cleanUps platform) else .counting true), [])
  | .cleaning [] => (shared, task.to (.counting true), [])
  | .cleaning (part :: rest) =>
      (shared, task.to (.cleaning rest), [.cleaned part shared.remoteCount])
  | .gone => (shared, task, [])

def program (platform : Platform) :
    Threads.Program Shared Task AuthConnType Unit Unit Output where
  enter := open_
  move shared task _ := move platform shared task
  disturb shared _ := shared

abbrev Connections := Threads.State Shared Task

def Connections.start : Connections where
  shared := ⟨0, [], []⟩
  threads := []

end SubnetDesk.AuthedConnID
