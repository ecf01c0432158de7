/-
This file defines the limiter of web sessions, the attempts that acquire and drop its permits, and the
budget of requests that each source has in a window of time.
-/

import SubnetDesk.Foundation.Threads
import Mathlib.Logic.Function.Basic
import SubnetDesk.Foundation.Machine

namespace SubnetDesk.WebGateway

inductive ConnectionLimitError where
  | global
  | source
deriving DecidableEq

/-- The semaphore is the number of its free slots. -/
structure ConnectionLimiter (IpAddr : Type) where
  global : Nat
  perSource : IpAddr → Option Nat
  maxPerSource : Nat

namespace ConnectionLimiter

variable {IpAddr : Type}

def new (maxGlobal maxPerSource : Nat) : ConnectionLimiter IpAddr where
  global := maxGlobal
  perSource _ := none
  maxPerSource := maxPerSource

def stored (limiter : ConnectionLimiter IpAddr) (source : IpAddr) : Nat :=
  (limiter.perSource source).getD 0

def acquireSlot (limiter : ConnectionLimiter IpAddr) : Option (ConnectionLimiter IpAddr) :=
  match limiter.global with
  | 0 => none
  | free + 1 => some { limiter with global := free }

def releaseSlot (limiter : ConnectionLimiter IpAddr) : ConnectionLimiter IpAddr :=
  { limiter with global := limiter.global + 1 }

variable [DecidableEq IpAddr]

/-- The entry of a source is created before its count is compared. -/
def countSource (limiter : ConnectionLimiter IpAddr) (source : IpAddr) :
    ConnectionLimiter IpAddr × Bool :=
  let count := limiter.stored source
  if limiter.maxPerSource ≤ count then
    ({ limiter with perSource := Function.update limiter.perSource source (some count) }, false)
  else
    ({ limiter with perSource := Function.update limiter.perSource source (some (count + 1)) },
      true)

def uncountSource (limiter : ConnectionLimiter IpAddr) (source : IpAddr) :
    ConnectionLimiter IpAddr :=
  match limiter.perSource source with
  | some count =>
      { limiter with
        perSource := Function.update limiter.perSource source
          (if count - 1 = 0 then none else some (count - 1)) }
  | none => limiter

end ConnectionLimiter

/-- Every start of the gateway has a limiter of its own, and all of them count their sessions
together. -/
structure Process (IpAddr : Type) where
  limiters : Nat → ConnectionLimiter IpAddr
  activeWebSessions : Int

/-- An attempt asks for a slot and is counted under the lock of the sources. A permit that is
dropped leaves the sessions, is uncounted under the lock, and gives its slot back. -/
inductive Stage where
  | asking
  | counting
  | refused
  | live
  | uncounting
  | releasing
  | gone
deriving DecidableEq

structure Attempt (IpAddr : Type) where
  limiter : Nat
  source : IpAddr
  stage : Stage
deriving DecidableEq

inductive Output (IpAddr : Type) where
  | acquired (limiter : Nat) (source : IpAddr)
  | failed (limiter : Nat) (source : IpAddr) (error : ConnectionLimitError)
deriving DecidableEq

section Sessions

variable {IpAddr : Type}

def Process.withLimiter (process : Process IpAddr) (index : Nat)
    (limiter : ConnectionLimiter IpAddr) : Process IpAddr :=
  { process with limiters := Function.update process.limiters index limiter }

def Attempt.to (attempt : Attempt IpAddr) (stage : Stage) : Attempt IpAddr :=
  { attempt with stage := stage }

variable [DecidableEq IpAddr]

/-- The next section of `try_acquire` or of the drop of a permit. -/
def Attempt.move (process : Process IpAddr) (attempt : Attempt IpAddr) :
    Process IpAddr × Attempt IpAddr × List (Output IpAddr) :=
  let limiter := process.limiters attempt.limiter
  match attempt.stage with
  | .asking =>
      match limiter.acquireSlot with
      | some taken => (process.withLimiter attempt.limiter taken, attempt.to .counting, [])
      | none => (process, attempt.to .gone, [.failed attempt.limiter attempt.source .global])
  | .counting =>
      match limiter.countSource attempt.source with
      | (counted, true) =>
          ({ process.withLimiter attempt.limiter counted with
              activeWebSessions := process.activeWebSessions + 1 },
            attempt.to .live, [.acquired attempt.limiter attempt.source])
      | (counted, false) =>
          (process.withLimiter attempt.limiter counted, attempt.to .refused,
            [.failed attempt.limiter attempt.source .source])
  | .refused =>
      (process.withLimiter attempt.limiter limiter.releaseSlot, attempt.to .gone, [])
  | .live =>
      ({ process with activeWebSessions := process.activeWebSessions - 1 },
        attempt.to .uncounting, [])
  | .uncounting =>
      (process.withLimiter attempt.limiter (limiter.uncountSource attempt.source),
        attempt.to .releasing, [])
  | .releasing =>
      (process.withLimiter attempt.limiter limiter.releaseSlot, attempt.to .gone, [])
  | .gone => (process, attempt, [])

/-- Attempts start at any time, and their sections run in any order. -/
def sessions : Threads.Program (Process IpAddr) (Attempt IpAddr) (Nat × IpAddr) Unit Empty
    (Output IpAddr) where
  enter process call := (process, ⟨call.1, call.2, .asking⟩)
  move process attempt _ := attempt.move process
  disturb process _ := process

abbrev Sessions (IpAddr : Type) := Threads.State (Process IpAddr) (Attempt IpAddr)

/-- No limiter has a session yet. The limits are the global one and the one per source. -/
def Sessions.start (limits : Nat → Nat × Nat) : Sessions IpAddr where
  shared := ⟨fun index => .new (limits index).1 (limits index).2, 0⟩
  threads := []

end Sessions

/-- A source has the start of its window and the requests that were allowed since then. -/
structure RequestRateBudget (IpAddr : Type) where
  maxRequests : Nat
  window : Nat
  sources : IpAddr → Option (Nat × Nat)

/-- A call of `allow_at`, with an instant of the monotonic clock. -/
structure RateCall (IpAddr : Type) where
  source : IpAddr
  now : Nat
deriving DecidableEq

/-- The decision on a call, with the start of the window that it falls into. -/
structure RateDecision (IpAddr : Type) where
  source : IpAddr
  now : Nat
  started : Nat
  allowed : Bool
deriving DecidableEq

namespace RequestRateBudget

variable {IpAddr : Type}

def new (maxRequests window : Nat) : RequestRateBudget IpAddr where
  maxRequests := maxRequests
  window := window
  sources _ := none

/-- The subtraction of instants saturates. -/
def retain (budget : RequestRateBudget IpAddr) (now : Nat) : RequestRateBudget IpAddr :=
  { budget with
    sources := fun source => (budget.sources source).filter fun entry =>
      now - entry.1 < budget.window }

/-- A window that is over starts again. -/
def restart (window now : Nat) (entry : Nat × Nat) : Nat × Nat :=
  if window ≤ now - entry.1 then (now, 0) else entry

variable [DecidableEq IpAddr]

def allowAt (budget : RequestRateBudget IpAddr) (call : RateCall IpAddr) :
    RequestRateBudget IpAddr × RateDecision IpAddr :=
  let kept := budget.retain call.now
  let entry := restart budget.window call.now ((kept.sources call.source).getD (call.now, 0))
  let allowed := decide (entry.2 < budget.maxRequests)
  ({ kept with
      sources := Function.update kept.sources call.source
        (some (entry.1, if allowed then entry.2 + 1 else entry.2)) },
    ⟨call.source, call.now, entry.1, allowed⟩)

/-- The calls of all requests. -/
def machine : Machine (RequestRateBudget IpAddr) (RateCall IpAddr) (RateDecision IpAddr) where
  step budget call := ((budget.allowAt call).1, [(budget.allowAt call).2])

end RequestRateBudget

end SubnetDesk.WebGateway
