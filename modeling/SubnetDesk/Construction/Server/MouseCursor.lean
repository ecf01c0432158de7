/-
This file defines the cursor service with its shape cache and its subscribers.
-/

import SubnetDesk.Construction.Server.Service

namespace SubnetDesk.MouseCursor
open SubnetDesk.Services

structure CursorData where
  id : UInt64
  hotx : Int
  hoty : Int
  width : Int
  height : Int
  colors : List UInt8
  deriving DecidableEq

/-- The default message carries no cursor. -/
inductive Message where
  | empty
  | cursorData (data : CursorData)
  | cursorId (id : UInt64)
  deriving DecidableEq

/-- A connection keeps all messages that are sent to it. -/
structure ConnInner where
  id : Int
  sent : List Message := []

structure MouseCursorSub where
  inner : ConnInner
  cached : AList fun _ : UInt64 => Message

instance : Subscriber MouseCursorSub := ⟨fun sub => sub.inner.id⟩

def MouseCursorSub.from (inner : ConnInner) : MouseCursorSub := ⟨inner, ∅⟩

def ConnInner.send (inner : ConnInner) (msg : Message) : ConnInner :=
  { inner with sent := inner.sent ++ [msg] }

/-- Only the id goes out where the data went out before. -/
def MouseCursorSub.send (msg : Message) (sub : MouseCursorSub) : MouseCursorSub :=
  match msg with
  | .cursorData data =>
      match sub.cached.lookup data.id with
      | some cached => { sub with inner := sub.inner.send cached }
      | none =>
          { inner := sub.inner.send msg
            cached := sub.cached.insert data.id (.cursorId data.id) }
  | _ => { sub with inner := sub.inner.send msg }

structure StateCursor where
  hcursor : UInt64 := 0
  cursorData : Message := .empty
  cachedCursorData : AList (fun _ : UInt64 => Message) := ∅

def cursorCacheMax : Nat := 64

/-- The build decides whether the cursor comes from the DRM stream. -/
structure Build where
  drm : Bool
  compress : List UInt8 → List UInt8

/-- Only the DRM stream serves another cursor than the requested one. -/
def Build.served (build : Build) (hcursor : UInt64) (data : CursorData) : CursorData :=
  if build.drm then data else { data with id := hcursor }

def Build.message (build : Build) (data : CursorData) : Message :=
  .cursorData { data with colors := build.compress data.colors }

def Build.store (build : Build) (cached : AList fun _ : UInt64 => Message) (key : UInt64)
    (msg : Message) : AList fun _ : UInt64 => Message :=
  if build.drm ∧ cursorCacheMax ≤ cached.entries.length then (∅ : AList _).insert key msg
  else cached.insert key msg

/-- The part of `run_cursor` before the first message, with the answers of the platform. -/
inductive Lookup where
  | failed
  | unchanged
  | changed (state : StateCursor) (msg : Message)

def Build.lookUp (build : Build) (state : StateCursor) (cursor : Option (Option UInt64))
    (data : Option CursorData) : Lookup :=
  match cursor with
  | none => .failed
  | some none => .unchanged
  | some (some hcursor) =>
      if hcursor = state.hcursor then .unchanged
      else
        match state.cachedCursorData.lookup hcursor with
        | some cached => .changed { state with hcursor := hcursor } cached
        | none =>
            match data with
            | none => .failed
            | some data =>
                let served := build.served hcursor data
                let msg := build.message served
                let cacheKey := if build.drm then served.id else hcursor
                .changed
                  { state with
                    hcursor := cacheKey
                    cachedCursorData := build.store state.cachedCursorData cacheKey msg }
                  msg

/-- The place of the service thread between two locks of the service. -/
inductive Phase where
  | idle
  | resetting
  | requesting
  | sending (msg : Message)
  | polling
  | greeting
  | swapping
  deriving DecidableEq

structure CursorService where
  service : ServiceInner MouseCursorSub
  state : StateCursor := {}
  mayReset : Bool := false
  phase : Phase := .idle

inductive CursorInput where
  | onSubscribe (id : Int)
  | onUnsubscribe (id : Int)
  | tick (cursor : Option (Option UInt64)) (data : Option CursorData)

/-- The service thread sees whether `run_cursor` returned well. -/
inductive CursorOutput where
  | returned (ok : Bool)
  deriving DecidableEq

def CursorService.tick (build : Build) (current : CursorService)
    (cursor : Option (Option UInt64)) (data : Option CursorData) :
    CursorService × List CursorOutput :=
  match current.phase with
  | .idle =>
      if current.service.hasSubscribes then
        ({ current with
            mayReset := true
            phase := .requesting }, [])
      else if current.mayReset then ({ current with phase := .resetting }, [])
      else (current, [])
  | .resetting =>
      ({ current with
          state := {}
          mayReset := false
          phase := .idle }, [])
  | .requesting =>
      match build.lookUp current.state cursor data with
      | .failed => ({ current with phase := .idle }, [.returned false])
      | .unchanged => ({ current with phase := .polling }, [])
      | .changed state msg =>
          ({ current with
              state := state
              phase := .sending msg }, [])
  | .sending msg =>
      ({ current with
          service := current.service.updateLive (MouseCursorSub.send msg)
          state := { current.state with cursorData := msg }
          phase := .polling }, [])
  | .polling =>
      if current.service.newSubscribes.entries.isEmpty then
        ({ current with phase := .idle }, [.returned true])
      else ({ current with phase := .greeting }, [])
  | .greeting =>
      ({ current with
          service := current.service.updateNew (MouseCursorSub.send current.state.cursorData)
          phase := .swapping }, [])
  | .swapping =>
      ({ current with
          service := current.service.swapNewSubscribes
          phase := .idle }, [.returned true])

def CursorService.step (build : Build) (current : CursorService) :
    CursorInput → CursorService × List CursorOutput
  | .onSubscribe id =>
      ({ current with service := current.service.onSubscribe (.from { id }) }, [])
  | .onUnsubscribe id => ({ current with service := current.service.onUnsubscribe id }, [])
  | .tick cursor data => current.tick build cursor data

def cursorService (build : Build) : Machine CursorService CursorInput CursorOutput where
  step := CursorService.step build

def CursorService.new : CursorService :=
  { service := { name := "mouse_cursor", needSnapshot := true } }

/-- The other side keeps the shapes that it was sent. -/
structure Client where
  cache : UInt64 → Option CursorData := fun _ => none
  shown : Option CursorData := none

def Client.receive (client : Client) : Message → Client
  | .empty => client
  | .cursorData data =>
      { cache := Function.update client.cache data.id (some data)
        shown := some data }
  | .cursorId id => { client with shown := client.cache id }

/-- The last cursor message on a connection denotes the shape that the other side shows. -/
def ConnInner.client (inner : ConnInner) : Client := inner.sent.foldl Client.receive {}

def ConnInner.IdsAfterData (inner : ConnInner) : Prop :=
  ∀ before id after, inner.sent = before ++ .cursorId id :: after →
    ∃ data : CursorData, data.id = id ∧ .cursorData data ∈ before

def Message.shape : Message → Option CursorData
  | .cursorData data => some data
  | _ => none

def StateCursor.shape (state : StateCursor) : Option CursorData := state.cursorData.shape

def StateCursor.Named (state : StateCursor) : Prop :=
  ∀ data ∈ state.shape, state.hcursor = data.id

/-- Every live subscriber shows the shape in the state. -/
def CursorService.Synced (current : CursorService) : Prop :=
  current.service.subscribes.All (fun sub => sub.inner.client.shown = current.state.shape) ∧
    current.state.Named

/-- Equal ids of served cursors mean equal images. -/
def CursorInput.Faithful (build : Build) (image : UInt64 → CursorData) : CursorInput → Prop
  | .tick (some (some hcursor)) (some data) =>
      build.served hcursor data = image (build.served hcursor data).id
  | _ => True

end SubnetDesk.MouseCursor
