/-
This file defines the cached verdict about DRM capture, the tasks that probe and publish it, and the
two workers that refresh the display cache and the input resolution.
-/

import SubnetDesk.Construction.Drm.Geometry
import SubnetDesk.Foundation.SingleFlight
import SubnetDesk.Foundation.Threads

namespace SubnetDesk.Drm

inductive ProbeState where
  | unknown
  | unavailable (since : Nat)
  | available (since : Nat) (list : List DrmDisplayInfo)
deriving DecidableEq

def ProbeState.isAvailable : ProbeState → Bool
  | .available _ _ => true
  | _ => false

inductive Availability where
  | available
  | unavailable
  | unsettled
deriving DecidableEq

/-- Times are milliseconds. -/
structure ProbeShared where
  state : ProbeState
  generation : Nat
  inFlight : Bool
  probeFailures : UInt32
  refreshFailures : UInt32
  now : Nat
deriving DecidableEq

def negativeTtl : Nat := 30000

def positiveTtl : Nat := 15000

def drmProbeMaxFailures : UInt32 := 5

def drmRefreshMaxFailures : UInt32 := 3

/-- A failed query has no list. -/
abbrev Answer := Option (List DrmDisplayInfo)

/-- The verdict of `availability` blocks its caller and the one of `availability_cached` does not. A
warming probe has some rounds left. -/
inductive ProbeKind where
  | verdict (blocking : Bool)
  | available
  | unavailable
  | warm (rounds : Nat)
  | login
deriving DecidableEq

/-- The guard of the flag belongs to three kinds of probes. -/
def ProbeKind.guarded : ProbeKind → Bool
  | .verdict _ | .available | .unavailable => true
  | .warm _ | .login => false

/-- Two kinds of probes publish without a look at the generation. -/
def ProbeKind.checked : ProbeKind → Bool
  | .available | .unavailable | .login => true
  | .verdict _ | .warm _ => false

/-- A probe remembers the generation that it sampled. The generation at the start of its query is
history, and its answer is fixed then, although the probe learns it only at the end. -/
inductive ProbeTask where
  | asking (blocking : Bool)
  | swapping (kind : ProbeKind)
  | rereading
  | sampling (kind : ProbeKind)
  | launching (kind : ProbeKind) (sampled : Nat)
  | starting (kind : ProbeKind) (sampled : Nat)
  | querying (kind : ProbeKind) (sampled began : Nat) (answer : Answer)
  | dropping
  | warming (rounds : Nat)
  | warmChecking (rounds : Nat)
  | hotplug (list : List DrmDisplayInfo)
  | finished
deriving DecidableEq

/-- The environment decides about a spawn or the kind of the session, and about a query. -/
structure ProbeChoice where
  outcome : Bool
  answer : Answer

inductive ProbeEvent where
  | answered (availability : Availability)
  | published (kind : ProbeKind) (began generation : Nat)
deriving DecidableEq

def ProbeState.answer : ProbeState → Availability
  | .available _ _ => .available
  | .unavailable _ => .unavailable
  | .unknown => .unsettled

/-- Every change of the verdict goes through this function. -/
def publishProbeState (shared : ProbeShared) (next : ProbeState) : ProbeShared :=
  { shared with state := next, generation := shared.generation + 1 }

/-- The first lock of `availability` and `availability_cached`. -/
def ask (shared : ProbeShared) (blocking : Bool) : ProbeTask × List ProbeEvent :=
  match shared.state with
  | .available since _ =>
      (if positiveTtl ≤ shared.now - since then .swapping .available else .finished,
        [.answered .available])
  | .unavailable since =>
      (if negativeTtl ≤ shared.now - since then .swapping .unavailable else .finished,
        [.answered .unavailable])
  | .unknown => (.swapping (.verdict blocking), [])

/-- The swap of the flag admits one guarded probe. -/
def enterFlight (shared : ProbeShared) (kind : ProbeKind) :
    ProbeShared × ProbeTask × List ProbeEvent :=
  if shared.inFlight then
    match kind with
    | .verdict true => (shared, .rereading, [])
    | .verdict false => (shared, .finished, [.answered .unsettled])
    | _ => (shared, .finished, [])
  else
    match kind with
    | .verdict true => ({ shared with inFlight := true }, .starting kind 0, [])
    | .verdict false => ({ shared with inFlight := true }, .launching kind 0, [])
    | _ => ({ shared with inFlight := true }, .sampling kind, [])

/-- The lock before the query looks at the verdict and samples the generation. -/
def sample (shared : ProbeShared) (kind : ProbeKind) : ProbeTask :=
  match kind, shared.state with
  | .available, .available _ _ => .launching kind shared.generation
  | .unavailable, .unavailable since =>
      if negativeTtl ≤ shared.now - since then .launching kind shared.generation else .dropping
  | .login, .available _ _ => .starting kind shared.generation
  | .login, _ => .finished
  | _, _ => .dropping

inductive RefreshOutcome where
  | publish
  | unavailable
  | restamp
  | giveUp
deriving DecidableEq

def refreshOutcome (probe : Option Nat) (failures : UInt32) : RefreshOutcome :=
  match probe with
  | some 0 => .unavailable
  | some _ => .publish
  | none => if drmRefreshMaxFailures ≤ failures then .giveUp else .restamp

/-- The lock after the query of `probe_and_publish`. -/
def probeAndPublish (shared : ProbeShared) (answer : Answer) : ProbeShared × Availability :=
  match answer with
  | some (display :: rest) =>
      (publishProbeState { shared with probeFailures := 0 }
        (.available shared.now (display :: rest)), .available)
  | some [] => (publishProbeState shared (.unavailable shared.now), .unavailable)
  | none =>
      let failures := shared.probeFailures + 1
      let counted := { shared with probeFailures := failures }
      if drmProbeMaxFailures ≤ failures then
        (publishProbeState counted (.unavailable shared.now), .unavailable)
      else (counted, .unsettled)

/-- The lock after the query of `refresh_unavailable_async`, with an unchanged generation. -/
def refreshUnavailable (shared : ProbeShared) (answer : Answer) : ProbeShared :=
  match answer with
  | some (display :: rest) =>
      publishProbeState { shared with probeFailures := 0 }
        (.available shared.now (display :: rest))
  | _ => publishProbeState shared (.unavailable shared.now)

/-- A restamp moves only the time of the verdict. -/
def restamp (shared : ProbeShared) : ProbeShared :=
  match shared.state with
  | .available _ list => { shared with state := .available shared.now list }
  | _ => shared

/-- The lock after the query of `refresh_available_async`, with an unchanged generation. -/
def refreshAvailable (shared : ProbeShared) (answer : Answer) : ProbeShared :=
  let failures := if answer.isSome then 0 else shared.refreshFailures + 1
  let counted := { shared with refreshFailures := failures }
  match refreshOutcome (answer.map List.length) failures with
  | .publish => publishProbeState counted (.available shared.now (answer.getD []))
  | .unavailable => publishProbeState counted (.unavailable shared.now)
  | .restamp => restamp counted
  | .giveUp => publishProbeState { counted with refreshFailures := 0 } .unknown

/-- The lock after the query of `refresh_displays_for_login`, with an unchanged generation. -/
def refreshForLogin (shared : ProbeShared) (answer : Answer) : ProbeShared :=
  match answer, shared.state with
  | some (display :: rest), .available _ _ =>
      publishProbeState shared (.available shared.now (display :: rest))
  | _, _ => shared

def warmPublish (shared : ProbeShared) (answer : Answer) : ProbeShared :=
  match answer with
  | some (display :: rest) => publishProbeState shared (.available shared.now (display :: rest))
  | _ => shared

/-- The memory after the lock that follows a query. -/
def settle (shared : ProbeShared) (kind : ProbeKind) (sampled : Nat) (answer : Answer) :
    ProbeShared :=
  match kind with
  | .verdict _ => (probeAndPublish shared answer).1
  | .warm _ => warmPublish shared answer
  | .available =>
      if shared.generation ≠ sampled then shared else refreshAvailable shared answer
  | .unavailable =>
      if shared.generation ≠ sampled then shared else refreshUnavailable shared answer
  | .login => if shared.generation ≠ sampled then shared else refreshForLogin shared answer

/-- The place of a probe after that lock. -/
def afterSettle (kind : ProbeKind) (answer : Answer) : ProbeTask :=
  match kind with
  | .verdict _ | .available | .unavailable => .dropping
  | .login => .finished
  | .warm rounds =>
      match answer with
      | some (_ :: _) => .finished
      | _ => .warming rounds

/-- A changed generation shows that the probe published its result. -/
def settleEvents (shared : ProbeShared) (kind : ProbeKind) (sampled began : Nat)
    (answer : Answer) : List ProbeEvent :=
  (if (settle shared kind sampled answer).generation ≠ shared.generation then
    [.published kind began shared.generation] else []) ++
  match kind with
  | .verdict true => [.answered (probeAndPublish shared answer).2]
  | _ => []

def swapAvailableDisplays (shared : ProbeShared) (list : List DrmDisplayInfo) : ProbeShared :=
  match shared.state, list with
  | .available _ _, [] => publishProbeState shared (.unavailable shared.now)
  | .available _ _, display :: rest =>
      publishProbeState shared (.available shared.now (display :: rest))
  | _, _ => shared

/-- A task makes its next atomic step. A lock is one step. -/
def moveProbe (shared : ProbeShared) (task : ProbeTask) (choice : ProbeChoice) :
    ProbeShared × ProbeTask × List ProbeEvent :=
  match task with
  | .asking blocking => (shared, ask shared blocking)
  | .swapping kind => enterFlight shared kind
  | .rereading => (shared, .finished, [.answered shared.state.answer])
  | .sampling kind => (shared, sample shared kind, [])
  | .launching kind sampled =>
      (shared, if choice.outcome then .starting kind sampled else .dropping,
        if kind = .verdict false then [.answered .unsettled] else [])
  | .starting kind sampled =>
      (shared, .querying kind sampled shared.generation choice.answer, [])
  | .querying kind sampled began answer =>
      (settle shared kind sampled answer, afterSettle kind answer,
        settleEvents shared kind sampled began answer)
  | .dropping => ({ shared with inFlight := false }, .finished, [])
  | .warming 0 => (shared, .finished, [])
  | .warming (rounds + 1) =>
      (shared, if choice.outcome then .warming rounds else .warmChecking rounds, [])
  | .warmChecking rounds =>
      (shared, if shared.state.isAvailable then .finished else .starting (.warm rounds) 0, [])
  | .hotplug list => (swapAvailableDisplays shared list, .finished, [])
  | .finished => (shared, .finished, [])

inductive ProbeCall where
  | availability
  | availabilityCached
  | refreshAvailableAsync
  | refreshUnavailableAsync
  | warmAvailability
  | refreshDisplaysForLogin
  | swapAvailableDisplays (list : List DrmDisplayInfo)

def ProbeCall.task : ProbeCall → ProbeTask
  | .availability => .asking true
  | .availabilityCached => .asking false
  | .refreshAvailableAsync => .swapping .available
  | .refreshUnavailableAsync => .swapping .unavailable
  | .warmAvailability => .warming 10
  | .refreshDisplaysForLogin => .sampling .login
  | .swapAvailableDisplays list => .hotplug list

/-- The environment lets time pass. -/
def probeProgram :
    Threads.Program ProbeShared ProbeTask ProbeCall ProbeChoice Nat ProbeEvent where
  enter shared call := (shared, call.task)
  move := moveProbe
  disturb shared passed := { shared with now := shared.now + passed }

abbrev ProbeSystem := Threads.State ProbeShared ProbeTask

def probes : Machine ProbeSystem (Threads.Event ProbeCall ProbeChoice Nat) ProbeEvent :=
  probeProgram.machine

def initialProbes : ProbeSystem := ⟨⟨.unknown, 0, false, 0, 0, 0⟩, []⟩

section Refresh

open SingleFlight

/-- PENDING asks for a refresh of the display cache. A worker clears it before each enumeration. An
enumeration that panics ends like one that finds no display. -/
def scheduleDrmCacheRefresh : Flight Bool Unit where
  idle := false
  request _ := true
  fresh := ()
  news pending _ := pending
  start _ _ := (false, ())
  clears := true
  builds := false

/-- UINPUT_REFRESH_GEN counts the hotplugs. A worker builds its runtime first and compares the count
with the last one that it served. -/
def uinputRefresh : Flight UInt64 UInt64 where
  idle := 0
  request generation := generation + 1
  fresh := 0
  news generation served := generation != served
  start generation _ := (generation, generation)
  clears := false
  builds := true

end Refresh

end SubnetDesk.Drm
