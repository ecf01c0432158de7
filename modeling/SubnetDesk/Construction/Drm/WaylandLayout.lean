/-
This file defines the rectangles of the compositor layout, the map of a point from the layout that a
client knows into the current one, and how the display service watches the layout for the DRM
capturers.
-/

import SubnetDesk.Construction.Drm.Geometry
import SubnetDesk.Foundation.Boxes

namespace SubnetDesk.DisplayService

open Drm

structure DisplayRect where
  name : Name
  x : Int32
  y : Int32
  w : Int32
  h : Int32
  transform : Int32
deriving DecidableEq

def orientedPhysical (display : WaylandDisplayInfo) : Int32 × Int32 :=
  if display.transform = 90 ∨ display.transform = 270 then (display.height, display.width)
  else (display.width, display.height)

/-- A logical size that is the physical one says that the compositor reports an oriented geometry. -/
def clientSpaceSize (display : WaylandDisplayInfo) : Int32 × Int32 :=
  if display.logicalSize = some (display.width, display.height) then (display.width, display.height)
  else orientedPhysical display

def logicalRectsOf (displays : List WaylandDisplayInfo) : List DisplayRect :=
  displays.map fun display =>
    let size :=
      if displays.length = 1 then clientSpaceSize display
      else display.logicalSize.getD (orientedPhysical display)
    { name := display.name
      x := display.x
      y := display.y
      w := size.1
      h := size.2
      transform := display.transform }

section Remap

/-- A display without a logical size falls back to its physical one. -/
def desktopSize (display : WaylandDisplayInfo) : Int32 × Int32 :=
  match display.logicalSize with
  | some logicalSize => logicalSize
  | none =>
      if display.transform = 90 ∨ display.transform = 270 then orientedPhysical display
      else (display.width, display.height)

/-- The upper edges are sums in 32 bits. -/
def spanOf (display : WaylandDisplayInfo) (size : Int32 × Int32) : Box Int32 where
  minX := display.x
  maxX := display.x + size.1
  minY := display.y
  maxY := display.y + size.2

def emptySpan : Box Int32 where
  minX := Int32.maxValue
  maxX := Int32.minValue
  minY := Int32.maxValue
  maxY := Int32.minValue

def desktopRectOf : List WaylandDisplayInfo → Option (Box Int32)
  | [] => none
  | [display] => some (spanOf display (clientSpaceSize display))
  | displays =>
      some (displays.foldl (fun span display => span.join (spanOf display (desktopSize display)))
        emptySpan)

def DisplayRect.span (rect : DisplayRect) : Box Int32 where
  minX := rect.x
  maxX := rect.x + rect.w
  minY := rect.y
  maxY := rect.y + rect.h

/-- The product and the quotient are taken in 64 bits. -/
def mapAxis (v baseOrigin baseExtent liveOrigin liveExtent : Int32) : Int32 :=
  if baseExtent ≤ 1 ∨ liveExtent ≤ 1 then liveOrigin
  else
    liveOrigin + ((v - baseOrigin).toInt64 * (liveExtent - 1).toInt64 /
      (baseExtent - 1).toInt64).toInt32

def remapToLiveLayout (x y : Int32) (baseline live : List DisplayRect) : Int32 × Int32 :=
  match baseline.zipIdx.find? fun entry => entry.1.span.Contains x y with
  | none => (x, y)
  | some (base, index) =>
      let matched :=
        if base.name.isEmpty then
          if baseline.length = live.length then live[index]? else none
        else live.find? fun rect => rect.name = base.name
      match matched with
      | none => (x, y)
      | some rect =>
          (mapAxis x base.x base.w rect.x rect.w, mapAxis y base.y base.h rect.y rect.h)

end Remap

/-- The layout that the clients know, the current one, the one that the capturers were built against,
and the generation of a capturer that was built against another one. -/
structure WaylandLayout where
  baseline : List DisplayRect
  live : List DisplayRect
  seen : List DisplayRect
  unseenBuild : Option Nat
deriving DecidableEq

namespace WaylandLayout

def default : WaylandLayout where
  baseline := []
  live := []
  seen := []
  unseenBuild := none

def resetBaseline (layout : WaylandLayout) (baseline : List DisplayRect) : WaylandLayout :=
  { layout with
    seen := if layout.seen = [] then layout.baseline else layout.seen
    baseline := baseline
    live := [] }

def edge (layout : WaylandLayout) (live : List DisplayRect) (snapshotMissing : Bool)
    (generation : Nat) : Bool :=
  if layout.unseenBuild = some generation then true
  else if layout.seen ≠ [] then layout.seen != live
  else if layout.baseline = [] then snapshotMissing
  else layout.baseline != live

def observe (layout : WaylandLayout) (live : List DisplayRect) : WaylandLayout :=
  { layout with
    live := live
    seen := live
    unseenBuild := none }

def noteCapturer (layout : WaylandLayout) (builtOn : List DisplayRect) (builtGen : Nat) :
    WaylandLayout :=
  if builtOn = [] then layout
  else if layout.seen = [] then { layout with seen := builtOn }
  else if layout.seen ≠ builtOn then
    { layout with unseenBuild := some (layout.unseenBuild.elim builtGen (max · builtGen)) }
  else layout

end WaylandLayout

/-- A capturer reads the generation, then the snapshot, then derives its transform from it, and then
records what it was built against. A record without displays is dropped. -/
inductive BuildStage where
  | started
  | read (displays : List WaylandDisplayInfo)
  | oriented (displays : List WaylandDisplayInfo)
  | recorded (displays : List WaylandDisplayInfo)
  | unrecorded
deriving DecidableEq

structure Build where
  drm : List DrmDisplayInfo
  snapshotGen : Nat
  stage : BuildStage
deriving DecidableEq

/-- A poll reads the live layout, compares and observes it under the lock, and decides on a promotion.
The promotion clears the cache, bumps the generation, resets the baseline and sets the live layout. -/
inductive PollPhase where
  | idle
  | looked (live : List DisplayRect)
  | observed (live : List DisplayRect) (liveChanged : Bool)
  | clearing (live : List DisplayRect)
  | bumping (live : List DisplayRect)
  | rebasing (live : List DisplayRect)
  | placing (live : List DisplayRect)
deriving DecidableEq

/-- The outputs of the compositor stand beside the state of the server. -/
structure Watch where
  outputs : List WaylandDisplayInfo
  cache : Option (List WaylandDisplayInfo)
  generation : Nat
  unrotatedSnapshotPending : Bool
  promotionOwed : Bool
  layout : WaylandLayout
  builds : List Build
  poll : PollPhase
deriving DecidableEq

def Watch.start (outputs : List WaylandDisplayInfo) : Watch where
  outputs := outputs
  cache := none
  generation := 0
  unrotatedSnapshotPending := false
  promotionOwed := false
  layout := .default
  builds := []
  poll := .idle

/-- A poll reports whether the layout that it observed is an edge. -/
structure Report where
  live : List DisplayRect
  liveChanged : Bool
deriving DecidableEq

/-- The compositor changes its outputs, a session clears the cache, asks for the displays or resets the
baseline, and a capturer or the poll takes its next step. The compositor may not answer. -/
inductive WatchInput where
  | change (outputs : List WaylandDisplayInfo)
  | clearWaylandDisplaysCache
  | getDisplays (answers : Bool)
  | setWaylandLayoutBaseline (displays : List WaylandDisplayInfo)
  | newCapturer (drm : List DrmDisplayInfo)
  | build (index : Nat) (answers : Bool)
  | poll (answers available : Bool)
deriving DecidableEq

/-- The displays are enumerated where none are cached, and a failed enumeration is not cached. -/
def Watch.getDisplays (watch : Watch) (answers : Bool) : Watch × List WaylandDisplayInfo :=
  match watch.cache with
  | some displays => (watch, displays)
  | none => if answers then ({ watch with cache := some watch.outputs }, watch.outputs) else (watch, [])

/-- The rectangle of the desktop is there where there is a display. -/
def Watch.getLayoutForUinputLive (watch : Watch) (answers : Bool) : Option (List DisplayRect) :=
  if answers = true ∧ watch.outputs ≠ [] then some (logicalRectsOf watch.outputs) else none

def Watch.setBuild (watch : Watch) (index : Nat) (build : Build) (stage : BuildStage) : Watch :=
  { watch with builds := watch.builds.set index { build with stage := stage } }

/-- A capturer of a listed DRM display runs unrotated where it has no snapshot. -/
def Watch.buildStep (watch : Watch) (index : Nat) (build : Build) (answers : Bool) : Watch :=
  match build.stage with
  | .started =>
      let (watch, displays) := watch.getDisplays answers
      watch.setBuild index build (.read displays)
  | .read displays =>
      { watch with
        unrotatedSnapshotPending :=
          watch.unrotatedSnapshotPending || (displays.isEmpty && !build.drm.isEmpty) }.setBuild
            index build (.oriented displays)
  | .oriented [] => watch.setBuild index build .unrecorded
  | .oriented displays =>
      { watch with
        layout := watch.layout.noteCapturer (logicalRectsOf displays) build.snapshotGen }.setBuild
          index build (.recorded displays)
  | _ => watch

def Watch.decide (watch : Watch) (live : List DisplayRect) (liveChanged available : Bool) : Watch :=
  let owed := watch.promotionOwed || liveChanged || watch.unrotatedSnapshotPending
  if owed && available then
    { watch with
      unrotatedSnapshotPending := false
      promotionOwed := false
      poll := .clearing live }
  else
    { watch with
      unrotatedSnapshotPending := false
      promotionOwed := owed
      poll := .idle }

/-- This is `refresh_wayland_uinput_rect_if_changed` up to the promotion, in the steps that other
threads can come between. -/
def Watch.pollStep (watch : Watch) (answers available : Bool) : Watch × List Report :=
  match watch.poll with
  | .idle =>
      match watch.getLayoutForUinputLive answers with
      | some live => ({ watch with poll := .looked live }, [])
      | none => (watch, [])
  | .looked live =>
      let liveChanged := watch.layout.edge live watch.cache.isNone watch.generation
      ({ watch with
         layout := watch.layout.observe live
         poll := .observed live liveChanged }, [⟨live, liveChanged⟩])
  | .observed live liveChanged => (watch.decide live liveChanged available, [])
  | .clearing live =>
      ({ watch with
         cache := none
         poll := .bumping live }, [])
  | .bumping live =>
      ({ watch with
         generation := watch.generation + 1
         poll := .rebasing live }, [])
  | .rebasing live =>
      ({ watch with
         layout := watch.layout.resetBaseline live
         poll := .placing live }, [])
  | .placing live =>
      ({ watch with
         layout := { watch.layout with live := live }
         poll := .idle }, [])

def watching : Machine Watch WatchInput Report where
  step watch
    | .change outputs => ({ watch with outputs := outputs }, [])
    | .clearWaylandDisplaysCache => ({ watch with cache := none }, [])
    | .getDisplays answers => ((watch.getDisplays answers).1, [])
    | .setWaylandLayoutBaseline displays =>
        ({ watch with layout := watch.layout.resetBaseline (logicalRectsOf displays) }, [])
    | .newCapturer drm =>
        ({ watch with builds := watch.builds ++ [⟨drm, watch.generation, .started⟩] }, [])
    | .build index answers =>
        match watch.builds[index]? with
        | some build => (watch.buildStep index build answers, [])
        | none => (watch, [])
    | .poll answers available => watch.pollStep answers available

end SubnetDesk.DisplayService
