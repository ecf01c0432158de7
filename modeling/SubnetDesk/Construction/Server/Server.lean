/-
This file defines the server that subscribes its connections to its services.
-/

import SubnetDesk.Construction.Server.Service

namespace SubnetDesk.Services

inductive VideoSource where
  | monitor
  | camera
deriving DecidableEq

def VideoSource.serviceNamePrefix : VideoSource → String
  | .monitor => "monitor"
  | .camera => "camera"

def getServiceName (source : VideoSource) (idx : Nat) : String :=
  source.serviceNamePrefix ++ toString idx

def primaryCameraIdx : Nat := 0

def startsWith (name start : String) : Bool := start.toList.isPrefixOf name.toList

def isVideoServiceName (name : String) : Bool :=
  startsWith name VideoSource.monitor.serviceNamePrefix ||
    startsWith name VideoSource.camera.serviceNamePrefix

/-- The services have different names. -/
structure Server (σ : Type) where
  connections : Subscribers σ
  services : List (ServiceInner σ)
  distinct : (services.map ServiceInner.name).Nodup

section Server

variable {σ μ : Type} [Subscriber σ]

theorem ServiceInner.onSubscribe_name (service : ServiceInner σ) (sub : σ) :
    (service.onSubscribe sub).name = service.name := by
  unfold onSubscribe
  split
  next => rfl
  next => split <;> rfl

omit [Subscriber σ] in
theorem ServiceInner.onUnsubscribe_name (service : ServiceInner σ) (id : Int) :
    (service.onUnsubscribe id).name = service.name := by
  unfold onUnsubscribe
  cases service.subscribes.lookup id <;> rfl

/-- An operation on services that keeps their names. -/
structure ServiceOp (σ : Type) where
  apply : ServiceInner σ → ServiceInner σ
  named : ∀ service, (apply service).name = service.name

def ServiceOp.idle : ServiceOp σ := ⟨fun service => service, fun _ => rfl⟩

def ServiceOp.swap : ServiceOp σ := ⟨ServiceInner.swapNewSubscribes, fun _ => rfl⟩

def ServiceOp.subscribe (sub : σ) : ServiceOp σ :=
  ⟨fun service => service.onSubscribe sub, fun service => service.onSubscribe_name sub⟩

def ServiceOp.unsubscribe (id : Int) : ServiceOp σ :=
  ⟨fun service => service.onUnsubscribe id, fun service => service.onUnsubscribe_name id⟩

/-- Every service is changed by the operation for its name. -/
def Server.update (server : Server σ) (op : String → ServiceOp σ) : Server σ where
  connections := server.connections
  services := server.services.map fun service => (op service.name).apply service
  distinct := by
    rw [List.map_map]
    have same : (server.services.map
        (ServiceInner.name ∘ fun service => (op service.name).apply service)) =
          server.services.map ServiceInner.name :=
      List.map_congr_left fun service _ => (op service.name).named service
    rw [same]
    exact server.distinct

def Server.updateOne (server : Server σ) (name : String) (op : ServiceOp σ) : Server σ :=
  server.update fun other => if other = name then op else .idle

def Server.getService (server : Server σ) (name : String) : Option (ServiceInner σ) :=
  server.services.find? fun service => service.name = name

def Server.contains (server : Server σ) (name : String) : Bool := (server.getService name).isSome

/-- A service with a new name is added without subscribers. -/
def Server.tryAddService (server : Server σ) (name : String) (needSnapshot : Bool) : Server σ :=
  if absent : server.contains name = false then
    { server with
      services := server.services ++ [{ name := name, needSnapshot := needSnapshot }]
      distinct := by
        rw [List.map_append, List.nodup_append]
        refine ⟨server.distinct, List.nodup_singleton _, ?_⟩
        rintro known member _ here rfl
        obtain ⟨service, inside, rfl⟩ := List.mem_map.mp member
        simp only [Server.contains, Server.getService, Option.isSome_eq_false_iff,
          Option.isNone_iff_eq_none, List.find?_eq_none, decide_eq_true_eq] at absent
        simp only [List.map_cons, List.map_nil, List.mem_singleton] at here
        exact absent service inside here }
  else server

def Server.addCameraConnection (server : Server σ) (conn : σ) (cameraExists : Bool) : Server σ :=
  let subscribed :=
    if cameraExists then
      server.updateOne (getServiceName .camera primaryCameraIdx) (.subscribe conn)
    else server
  { subscribed with connections := subscribed.connections.insert (Subscriber.id conn) conn }

/-- A viewer is subscribed to one monitor and to every permitted service that is no video. -/
def monitorOp (conn : σ) (noperms : List String) (displayIdx : Nat) (name : String) :
    ServiceOp σ :=
  if isVideoServiceName name = true ∧ name ≠ getServiceName .monitor displayIdx then .idle
  else if name ∉ noperms then .subscribe conn
  else .idle

def Server.addMonitorConnection (server : Server σ) (conn : σ) (noperms : List String)
    (displayIdx : Nat) : Server σ :=
  let subscribed := server.update (monitorOp conn noperms displayIdx)
  { subscribed with connections := subscribed.connections.insert (Subscriber.id conn) conn }

def Server.removeConnection (server : Server σ) (conn : σ) : Server σ :=
  let removed := server.update fun _ => .unsubscribe (Subscriber.id conn)
  { removed with connections := removed.connections.erase (Subscriber.id conn) }

/-- The service after a snapshot that may have promoted its waiting subscribers. -/
def ServiceInner.swapIf (service : ServiceInner σ) (swapped : Bool) : ServiceInner σ :=
  if swapped then service.swapNewSubscribes else service

theorem ServiceInner.swapIf_name (service : ServiceInner σ) (swapped : Bool) :
    (service.swapIf swapped).name = service.name := by
  unfold swapIf
  split <;> rfl

/-- A promotion may fall between the two locks of `isSubed`. -/
def ServiceInner.resubscribe (service : ServiceInner σ) (conn : σ) (sub swapped : Bool) :
    ServiceInner σ :=
  if isSubed service (service.swapIf swapped) (Subscriber.id conn) = sub then
    service.swapIf swapped
  else if sub then (service.swapIf swapped).onSubscribe conn
  else (service.swapIf swapped).onUnsubscribe (Subscriber.id conn)

theorem ServiceInner.resubscribe_name (service : ServiceInner σ) (conn : σ) (sub swapped : Bool) :
    (service.resubscribe conn sub swapped).name = service.name := by
  unfold resubscribe
  split
  next => exact service.swapIf_name swapped
  next =>
    split
    next => rw [onSubscribe_name, swapIf_name]
    next => rw [onUnsubscribe_name, swapIf_name]

def ServiceOp.resubscribe (conn : σ) (sub swapped : Bool) : ServiceOp σ :=
  ⟨fun service => service.resubscribe conn sub swapped,
    fun service => service.resubscribe_name conn sub swapped⟩

def Server.subscribe (server : Server σ) (name : String) (conn : σ) (sub swapped : Bool) :
    Server σ :=
  server.updateOne name (.resubscribe conn sub swapped)

/-- What `captureDisplays` does with the service of one name. -/
def Server.captureDisplay (server : Server σ) (conn : σ) (displays : List String)
    (include_ exclude : Bool) (swapped : String → Bool) (name : String) : Server σ :=
  if isVideoServiceName name then
    if name ∈ displays then
      if include_ then server.subscribe name conn true (swapped name) else server
    else
      if exclude then server.subscribe name conn false (swapped name) else server
  else server

def Server.captureDisplays (server : Server σ) (conn : σ) (source : VideoSource)
    (displays : List Nat) (include_ exclude : Bool) (swapped : String → Bool) : Server σ :=
  (server.services.map ServiceInner.name).foldl
    (fun server name => server.captureDisplay conn (displays.map (getServiceName source))
      include_ exclude swapped name)
    server

/-- The operations of a server, the promotions of its services and their messages. -/
inductive ServerStep (σ μ : Type) where
  | tryAddService (name : String) (needSnapshot : Bool)
  | addCameraConnection (conn : σ) (cameraExists : Bool)
  | addMonitorConnection (conn : σ) (noperms : List String) (displayIdx : Nat)
  | removeConnection (conn : σ)
  | subscribe (name : String) (conn : σ) (sub swapped : Bool)
  | captureDisplays (conn : σ) (source : VideoSource) (displays : List Nat)
      (include_ exclude : Bool) (swapped : String → Bool)
  | promote (name : String)
  | sendShared (name : String) (msg : μ)

/-- A message of a service on its way to a connection. -/
structure Delivery (μ : Type) where
  service : String
  id : Int
  msg : μ

def Server.step (server : Server σ) : ServerStep σ μ → Server σ × List (Delivery μ)
  | .tryAddService name needSnapshot => (server.tryAddService name needSnapshot, [])
  | .addCameraConnection conn cameraExists => (server.addCameraConnection conn cameraExists, [])
  | .addMonitorConnection conn noperms displayIdx =>
      (server.addMonitorConnection conn noperms displayIdx, [])
  | .removeConnection conn => (server.removeConnection conn, [])
  | .subscribe name conn sub swapped => (server.subscribe name conn sub swapped, [])
  | .captureDisplays conn source displays include_ exclude swapped =>
      (server.captureDisplays conn source displays include_ exclude swapped, [])
  | .promote name => (server.updateOne name .swap, [])
  | .sendShared name msg =>
      (server, ((server.getService name).map fun service =>
        (service.sendShared msg).map fun sent => ⟨name, sent.1, sent.2⟩).getD [])

def Server.new (σ : Type) : Server σ := ⟨∅, [], List.nodup_nil⟩

def serverMachine (σ μ : Type) [Subscriber σ] :
    Machine (Server σ) (ServerStep σ μ) (Delivery μ) where
  step := Server.step

end Server

end SubnetDesk.Services
