import SubnetDesk.Construction.Connection.LoginScope

namespace SubnetDesk.LoginScope

open Connection (AuthConnType loginPermissions)

variable {login after : Login} {lr : LoginRequest} {world : World} {keepAlive : Bool}
  {outputs : List Output}

/-- The kind of a session with its target. -/
inductive SessionScope where
  | remote
  | fileTransfer (dir : Text) (showHidden : Bool)
  | viewCamera
  | terminal (serviceId : Text)
  | portForward (host : Text) (port : BitVec 32)
deriving DecidableEq

/-- A kind that this build does not know is remote control. -/
def LoginRequest.sessionScope (lr : LoginRequest) : SessionScope :=
  match lr.union with
  | some (.fileTransfer dir showHidden) => .fileTransfer dir showHidden
  | some .viewCamera => .viewCamera
  | some (.terminal serviceId) => .terminal serviceId
  | some (.portForward host port) => .portForward host port
  | some .unknown => .remote
  | none => .remote

/-- The identity of the controller and the scope that it asks for. -/
def LoginRequest.scope (lr : LoginRequest) : Text × SessionScope := (lr.myId, lr.sessionScope)

def SessionScope.fields : SessionScope → List (List UInt8)
  | .remote => [tag "remote"]
  | .fileTransfer dir showHidden =>
      [tag "file_transfer", dir.bytes, [if showHidden then 1 else 0]]
  | .viewCamera => [tag "view_camera"]
  | .terminal serviceId => [tag "terminal", serviceId.bytes]
  | .portForward host port => [tag "port_forward", host.bytes, Bytes.le 4 port.toNat]

theorem Text.bytes_injective {first second : Text} (equal : first.bytes = second.bytes) :
    first = second := by
  cases first with
  | mk letters fits =>
      cases second with
      | mk others short =>
          cases Utf8.encode_injective equal
          rfl

theorem port_injective {first second : BitVec 32}
    (equal : Bytes.le 4 first.toNat = Bytes.le 4 second.toNat) : first = second :=
  BitVec.eq_of_toNat_eq (Bytes.le_injective first.isLt second.isLt equal)

/-- The tags of the scopes differ. -/
theorem tags_ne : tag "remote" ≠ tag "view_camera" ∧ tag "file_transfer" ≠ tag "port_forward" := by
  decide +kernel

/-- The kinds differ in the number of their fields or in their tags. -/
theorem SessionScope.fields_injective {first second : SessionScope}
    (equal : first.fields = second.fields) : first = second := by
  cases first with
  | remote =>
      cases second with
      | remote => rfl
      | viewCamera => exact absurd (List.cons.inj equal).1 tags_ne.1
      | fileTransfer dir showHidden => cases (List.cons.inj equal).2
      | terminal serviceId => cases (List.cons.inj equal).2
      | portForward host port => cases (List.cons.inj equal).2
  | fileTransfer dir showHidden =>
      cases second with
      | fileTransfer other shown =>
          obtain ⟨-, rest⟩ := List.cons.inj equal
          obtain ⟨dirs, flags⟩ := List.cons.inj rest
          rw [Text.bytes_injective dirs]
          have same : showHidden = shown := by
            revert flags
            cases showHidden <;> cases shown <;> decide
          rw [same]
      | portForward host port => exact absurd (List.cons.inj equal).1 tags_ne.2
      | remote => cases (List.cons.inj equal).2
      | viewCamera => cases (List.cons.inj equal).2
      | terminal serviceId => cases (List.cons.inj (List.cons.inj equal).2).2
  | viewCamera =>
      cases second with
      | viewCamera => rfl
      | remote => exact absurd (List.cons.inj equal).1 tags_ne.1.symm
      | fileTransfer dir showHidden => cases (List.cons.inj equal).2
      | terminal serviceId => cases (List.cons.inj equal).2
      | portForward host port => cases (List.cons.inj equal).2
  | terminal serviceId =>
      cases second with
      | terminal other =>
          rw [Text.bytes_injective (List.cons.inj (List.cons.inj equal).2).1]
      | remote => cases (List.cons.inj equal).2
      | viewCamera => cases (List.cons.inj equal).2
      | fileTransfer dir showHidden => cases (List.cons.inj (List.cons.inj equal).2).2
      | portForward host port => cases (List.cons.inj (List.cons.inj equal).2).2
  | portForward host port =>
      cases second with
      | portForward other number =>
          obtain ⟨-, rest⟩ := List.cons.inj equal
          obtain ⟨hosts, ports⟩ := List.cons.inj rest
          rw [Text.bytes_injective hosts, port_injective (List.cons.inj ports).1]
      | fileTransfer dir showHidden => exact absurd (List.cons.inj equal).1 tags_ne.2.symm
      | remote => cases (List.cons.inj equal).2
      | viewCamera => cases (List.cons.inj equal).2
      | terminal serviceId => cases (List.cons.inj (List.cons.inj equal).2).2

theorem LoginRequest.scopeFields_eq (lr : LoginRequest) :
    lr.scopeFields = lr.myId.bytes :: lr.sessionScope.fields := by
  unfold scopeFields sessionScope
  cases lr.union with
  | none => rfl
  | some union => cases union <;> rfl

theorem LoginRequest.scopeFields_short (lr : LoginRequest) :
    ∀ bytes ∈ lr.scopeFields, bytes.length < 256 ^ 8 := by
  have text (text : Text) : text.bytes.length < 256 ^ 8 :=
    lt_trans text.fits (by decide)
  have tags : (tag "remote").length < 256 ^ 8 ∧ (tag "file_transfer").length < 256 ^ 8 ∧
      (tag "view_camera").length < 256 ^ 8 ∧ (tag "terminal").length < 256 ^ 8 ∧
      (tag "port_forward").length < 256 ^ 8 := by
    decide +kernel
  obtain ⟨remote, file, camera, terminal, port⟩ := tags
  rw [lr.scopeFields_eq, List.forall_mem_cons]
  refine ⟨text _, ?_⟩
  cases lr.sessionScope with
  | remote => simpa [SessionScope.fields] using remote
  | fileTransfer dir showHidden =>
      simp only [SessionScope.fields, List.forall_mem_cons]
      exact ⟨file, text dir, by rw [List.length_singleton]; decide, by simp⟩
  | viewCamera => simpa [SessionScope.fields] using camera
  | terminal serviceId =>
      simp only [SessionScope.fields, List.forall_mem_cons]
      exact ⟨terminal, text serviceId, by simp⟩
  | portForward host number =>
      simp only [SessionScope.fields, List.forall_mem_cons, Bytes.length_le]
      exact ⟨port, text host, by decide, by simp⟩

/-- The bytes that are hashed determine the scope, and nothing else does. -/
theorem LoginRequest.scopeBytes_eq_iff (first second : LoginRequest) :
    first.scopeBytes = second.scopeBytes ↔ first.scope = second.scope := by
  constructor
  · intro equal
    have fields := Bytes.flatMap_frame_injective first.scopeFields_short second.scopeFields_short equal
    rw [first.scopeFields_eq, second.scopeFields_eq] at fields
    obtain ⟨ids, scopes⟩ := List.cons.inj fields
    rw [scope, scope, Text.bytes_injective ids, SessionScope.fields_injective scopes]
  · intro equal
    obtain ⟨ids, scopes⟩ := Prod.mk.inj equal
    rw [scopeBytes, scopeBytes, first.scopeFields_eq, second.scopeFields_eq, ids, scopes]

def SessionScope.transfer : SessionScope → Option (Text × Bool)
  | .fileTransfer dir showHidden => some (dir, showHidden)
  | _ => none

def SessionScope.target : SessionScope → Option (List Char)
  | .portForward host port => some (normalizePortForwardTarget host port).1
  | _ => none

def SessionScope.connType : SessionScope → AuthConnType
  | .remote => .remote
  | .fileTransfer _ _ => .fileTransfer
  | .viewCamera => .viewCamera
  | .terminal _ => .terminal
  | .portForward _ _ => .portForward

/-- The fields that are set for a scope make the session of that scope. -/
structure Login.Configured (login : Login) (scope : SessionScope) : Prop where
  transfer : login.fileTransfer = scope.transfer
  viewCamera : login.viewCamera = decide (scope = .viewCamera)
  terminal : login.terminal = true ↔ ∃ serviceId, scope = .terminal serviceId
  serviceId : ∀ serviceId, scope = .terminal serviceId → login.terminalServiceId = serviceId

/-- The session of a connection is the one of a scope. -/
structure Login.Serves (login : Login) (scope : SessionScope) : Prop extends
    login.Configured scope where
  target : login.portForwardSocket = scope.target
  connType : login.authedConnId = some scope.connType

/-- A preparation changes the token only. -/
theorem prepare_ok (ok : prepareTerminalLoginForAuthorization world login = .ok after) :
    ∃ token, after = { login with terminalUserToken := token } := by
  unfold prepareTerminalLoginForAuthorization at ok
  split at ok
  next =>
    cases ok
    exact ⟨login.terminalUserToken, rfl⟩
  next =>
    split at ok
    next => cases ok
    next =>
      cases ok
      exact ⟨true, rfl⟩

/-- A connection without a socket connects to the target of its request. -/
theorem connect_cases (world : World) (free : login.portForwardSocket = none) :
    (∃ address, connectPortForwardIfNeeded world login =
        .ok { login with
          portForwardAddress := address
          portForwardSocket := login.lr.sessionScope.target }) ∨
      ∃ address outputs, connectPortForwardIfNeeded world login =
        .error ({ login with portForwardAddress := address }, outputs) := by
  have same : login = { login with portForwardSocket := none } := by rw [← free]
  unfold connectPortForwardIfNeeded LoginRequest.sessionScope
  rw [free]
  cases requested : login.lr.union with
  | none => exact .inl ⟨login.portForwardAddress, congrArg Except.ok same⟩
  | some union =>
      cases union with
      | portForward host port =>
          dsimp only
          split
          next => exact .inl ⟨_, rfl⟩
          next => exact .inr ⟨_, _, rfl⟩
      | fileTransfer dir showHidden => exact .inl ⟨login.portForwardAddress, congrArg Except.ok same⟩
      | viewCamera => exact .inl ⟨login.portForwardAddress, congrArg Except.ok same⟩
      | terminal serviceId => exact .inl ⟨login.portForwardAddress, congrArg Except.ok same⟩
      | unknown => exact .inl ⟨login.portForwardAddress, congrArg Except.ok same⟩

/-- What a login leaves of a connection: its request and its latch, and a session only where it is
authorized. -/
structure Settled (login after : Login) (scope : SessionScope) : Prop where
  latch : after.loginScope = login.loginScope
  lr : after.lr = login.lr
  waits : after.authorized = false → after.portForwardSocket = none
  serves : after.authorized = true → after.Serves scope

/-- A refused login is settled. -/
theorem Settled.refused {scope : SessionScope} (latch : after.loginScope = login.loginScope)
    (lr : after.lr = login.lr) (waiting : after.authorized = false)
    (free : after.portForwardSocket = none) : Settled login after scope where
  latch := latch
  lr := lr
  waits _ := free
  serves authorized := absurd authorized (by simp [waiting])

theorem Login.Configured.connType {scope : SessionScope} (configured : login.Configured scope)
    (target : login.portForwardSocket = scope.target) : login.authConnType = scope.connType := by
  unfold Login.authConnType
  rw [configured.transfer, configured.viewCamera, target]
  have terminal := configured.terminal
  cases scope with
  | fileTransfer dir showHidden => rfl
  | portForward host port => rfl
  | viewCamera => rfl
  | terminal serviceId =>
      rw [terminal.mpr ⟨serviceId, rfl⟩]
      rfl
  | remote =>
      have off : login.terminal = false := by
        rw [← Bool.not_eq_true, terminal]
        rintro ⟨serviceId, other⟩
        cases other
      rw [off]
      rfl

theorem sendLogonResponseAndKeepAlive_settled (world : World) (waiting : login.authorized = false)
    (free : login.portForwardSocket = none)
    (configured : login.Configured login.lr.sessionScope) :
    Settled login (sendLogonResponseAndKeepAlive world login).1 login.lr.sessionScope := by
  unfold sendLogonResponseAndKeepAlive
  rw [if_neg (by simp [waiting])]
  cases prepared : prepareTerminalLoginForAuthorization world login with
  | error outputs => exact .refused rfl rfl waiting free
  | ok ready =>
      obtain ⟨token, rfl⟩ := prepare_ok prepared
      dsimp only
      generalize ready_ : { login with terminalUserToken := token } = ready
      have readyFree : ready.portForwardSocket = none := by rw [← ready_]; exact free
      obtain ⟨address, connected⟩ | ⟨address, outputs, failed⟩ :=
        connect_cases world readyFree
      · rw [connected]
        subst ready_
        have served : Login.Configured
            { login with
              terminalUserToken := token
              portForwardAddress := address
              portForwardSocket := login.lr.sessionScope.target } login.lr.sessionScope :=
          ⟨configured.transfer, configured.viewCamera, configured.terminal, configured.serviceId⟩
        exact ⟨rfl, rfl, nofun, fun _ => ⟨⟨configured.transfer, configured.viewCamera,
          configured.terminal, configured.serviceId⟩, rfl, congrArg some (served.connType rfl)⟩⟩
      · rw [failed]
        subst ready_
        exact .refused rfl rfl waiting free

/-- A connection whose session has been reset. -/
structure Login.Reset (login : Login) : Prop where
  waiting : login.authorized = false
  free : login.portForwardSocket = none
  transfer : login.fileTransfer = none
  viewCamera : login.viewCamera = false
  terminal : login.terminal = false

/-- A scope that is configured is the one of the request. -/
theorem configureLanConnectionScope_ok (reset : login.Reset)
    (ok : configureLanConnectionScope world login login.lr = .ok after) :
    after.Configured login.lr.sessionScope ∧ after.loginScope = login.loginScope ∧
      after.lr = login.lr ∧ after.authorized = false ∧ after.portForwardSocket = none := by
  obtain ⟨waiting, free, transfer, viewCamera, terminal⟩ := reset
  unfold configureLanConnectionScope at ok
  unfold LoginRequest.sessionScope
  cases requested : login.lr.union with
  | none =>
      rw [requested] at ok
      dsimp only at ok
      split at ok
      next => cases ok
      next =>
        cases ok
        exact ⟨⟨transfer, viewCamera, by simp [terminal], nofun⟩, rfl, rfl, waiting, free⟩
  | some union =>
      rw [requested] at ok
      cases union with
      | fileTransfer dir showHidden =>
          cases ok
          exact ⟨⟨rfl, viewCamera, by simp [terminal], nofun⟩, rfl, rfl, waiting, free⟩
      | viewCamera =>
          cases ok
          exact ⟨⟨transfer, rfl, by simp [terminal], nofun⟩, rfl, rfl, waiting, free⟩
      | terminal serviceId =>
          cases ok
          exact ⟨⟨transfer, viewCamera, by simp, by simp⟩, rfl, rfl, waiting, free⟩
      | portForward host port =>
          cases ok
          exact ⟨⟨transfer, viewCamera, by simp [terminal], nofun⟩, rfl, rfl, waiting, free⟩
      | unknown => cases ok

/-- A verified login is settled. -/
theorem handleVerifiedLogin_settled (reset : login.Reset) :
    Settled login (handleVerifiedLogin world login login.lr).1 login.lr.sessionScope := by
  unfold handleVerifiedLogin
  dsimp only
  generalize permitted_ : { login with permissions := some (loginPermissions login.webClient
    world.webPermissionProfile) } = permitted
  have same : permitted.lr = login.lr ∧ permitted.loginScope = login.loginScope := by
    rw [← permitted_]
    exact ⟨rfl, rfl⟩
  have again : permitted.Reset := by
    rw [← permitted_]
    exact ⟨reset.waiting, reset.free, reset.transfer, reset.viewCamera, reset.terminal⟩
  rw [← same.1]
  cases configured : configureLanConnectionScope world permitted permitted.lr with
  | error outputs => exact .refused same.2 same.1 again.waiting again.free
  | ok served =>
      obtain ⟨session, latch, lr, waiting, free⟩ := configureLanConnectionScope_ok again configured
      dsimp only
      generalize timed_ : { served with sendTimeoutOther := _ } = timed
      have kept : timed.lr = served.lr ∧ timed.loginScope = served.loginScope ∧
          timed.authorized = false ∧ timed.portForwardSocket = none ∧
          timed.Configured permitted.lr.sessionScope := by
        rw [← timed_]
        exact ⟨rfl, rfl, waiting, free, session.transfer, session.viewCamera, session.terminal,
          session.serviceId⟩
      obtain ⟨timedLr, timedLatch, timedWaiting, timedFree, timedSession⟩ := kept
      split
      next =>
        exact .refused (timedLatch.trans (latch.trans same.2)) (timedLr.trans (lr.trans same.1))
          timedWaiting timedFree
      next =>
        rw [← lr, ← timedLr] at timedSession
        have settled := sendLogonResponseAndKeepAlive_settled world timedWaiting timedFree
          timedSession
        rw [timedLr, lr] at settled
        exact ⟨settled.latch.trans (timedLatch.trans (latch.trans same.2)),
          settled.lr.trans (timedLr.trans (lr.trans same.1)), settled.waits, settled.serves⟩

/-- A login over the network is settled. -/
theorem handleLanLoginRequest_settled (reset : login.Reset) :
    Settled login (handleLanLoginRequest world login login.lr).1 login.lr.sessionScope := by
  have refused : Settled login login login.lr.sessionScope :=
    .refused rfl rfl reset.waiting reset.free
  unfold handleLanLoginRequest
  split
  next => exact refused
  next =>
    split
    next => exact refused
    next =>
      split
      next => exact refused
      next =>
        split
        next => exact refused
        next =>
          split
          next => exact refused
          next =>
            split
            next => exact refused
            next => exact handleVerifiedLogin_settled reset

section Digests

variable (sha256 : List UInt8 → Digest)

/-- The latch is free, or it is the one of the scope that is requested. -/
def Login.Admits (login : Login) (lr : LoginRequest) : Prop :=
  login.loginScope = none ∨ login.loginScope = some (loginScopeDigest sha256 lr)

/-- A request with another scope changes nothing. -/
theorem onLoginRequest_refused (waiting : login.authorized = false)
    (other : ¬ login.Admits sha256 lr) :
    onLoginRequest sha256 world login lr = (login, false, [.loginError "Connection not allowed" 0]) := by
  unfold Login.Admits at other
  rw [not_or] at other
  unfold onLoginRequest checkLoginScope
  rw [if_neg (by simp [waiting])]
  cases latch : login.loginScope with
  | none => exact absurd latch other.1
  | some initial =>
      have different : initial ≠ loginScopeDigest sha256 lr := fun same => other.2 (same ▸ latch)
      dsimp only
      rw [if_pos different]
      rfl

/-- A request that is admitted latches its scope, and the login settles it. -/
theorem onLoginRequest_admitted (world : World) (waiting : login.authorized = false)
    (free : login.portForwardSocket = none) (admitted : login.Admits sha256 lr) :
    ∃ latched : Login, latched.lr = lr ∧
      latched.loginScope = some (loginScopeDigest sha256 lr) ∧
      Settled latched (onLoginRequest sha256 world login lr).1 lr.sessionScope := by
  have checked : ∃ checked : Login, checkLoginScope sha256 login lr = (checked, true, []) ∧
      checked.loginScope = some (loginScopeDigest sha256 lr) ∧ checked.authorized = false ∧
      checked.portForwardSocket = none := by
    unfold checkLoginScope
    cases admitted with
    | inl fresh =>
        rw [fresh]
        exact ⟨_, rfl, rfl, waiting, free⟩
    | inr same =>
        rw [same]
        dsimp only
        rw [if_neg (not_not_intro rfl)]
        exact ⟨login, rfl, same, waiting, free⟩
  obtain ⟨checked, result, latch, checkedWaiting, checkedFree⟩ := checked
  unfold onLoginRequest
  rw [if_neg (by simp [waiting]), result]
  dsimp only
  refine ⟨resetSessionScopeForLogin (handleLoginRequestWithoutValidation checked lr), rfl, latch, ?_⟩
  split
  next => exact handleLanLoginRequest_settled ⟨checkedWaiting, checkedFree, rfl, rfl, rfl⟩
  next => exact .refused rfl rfl checkedWaiting checkedFree

/-- The latch is the scope of the first request and of the last one that was admitted. Nothing is
connected before the login. -/
structure Latched (requests : List LoginRequest) (first : LoginRequest) (login : Login) : Prop where
  latch : login.loginScope = some (loginScopeDigest sha256 first)
  member : login.lr ∈ requests
  same : loginScopeDigest sha256 login.lr = loginScopeDigest sha256 first
  waits : login.authorized = false → login.portForwardSocket = none
  serves : login.authorized = true → login.Serves login.lr.sessionScope

variable {requests : List LoginRequest} {first : LoginRequest}

/-- A request that is admitted keeps the latch. -/
theorem Latched.admitted {event : World × LoginRequest} (open_ : login.closed = false)
    (waiting : login.authorized = false) (free : login.portForwardSocket = none)
    (admitted : login.Admits sha256 event.2) (member : event.2 ∈ requests)
    (same : loginScopeDigest sha256 event.2 = loginScopeDigest sha256 first) :
    Latched sha256 requests first ((machine sha256).step login event).1 ∧
      ((machine sha256).step login event).1.lr = event.2 := by
  obtain ⟨before, lr, latch, settled⟩ :=
    onLoginRequest_admitted sha256 event.1 waiting free admitted
  have kept := settled.lr.trans lr
  unfold machine
  dsimp only
  rw [if_neg (by simp [open_])]
  dsimp only
  refine ⟨⟨?_, ?_, ?_, settled.waits, ?_⟩, kept⟩
  · rw [← same, ← latch]
    exact settled.latch
  · rw [kept]
    exact member
  · rw [kept]
    exact same
  · rw [kept]
    intro authorized
    obtain ⟨⟨transfer, viewCamera, terminal, serviceId⟩, target, connType⟩ :=
      settled.serves authorized
    exact ⟨⟨transfer, viewCamera, terminal, serviceId⟩, target, connType⟩

/-- Another scope is refused. -/
theorem step_refused {event : World × LoginRequest} (open_ : login.closed = false)
    (waiting : login.authorized = false) (other : ¬ login.Admits sha256 event.2) :
    (machine sha256).step login event =
      ({ login with closed := true }, [.loginError "Connection not allowed" 0]) := by
  unfold machine
  dsimp only
  rw [if_neg (by simp [open_]), onLoginRequest_refused sha256 waiting other]
  rfl

/-- An authorized login is not repeated. -/
theorem step_authorized {event : World × LoginRequest} (open_ : login.closed = false)
    (authorized : login.authorized = true) : (machine sha256).step login event = (login, []) := by
  have same : { login with closed := false } = login := by rw [← open_]
  unfold machine onLoginRequest
  dsimp only
  rw [if_neg (by simp [open_]), if_pos authorized]
  exact congrArg (·, []) same

/-- A closed connection takes no login. -/
theorem step_closed {event : World × LoginRequest} (closed : login.closed = true) :
    (machine sha256).step login event = (login, []) := if_pos closed

/-- Every request keeps the latch of the first one. -/
theorem Latched.step (latched : Latched sha256 requests first login)
    {event : World × LoginRequest} (member : event.2 ∈ requests) :
    Latched sha256 requests first ((machine sha256).step login event).1 := by
  by_cases closed : login.closed = true
  · rw [step_closed sha256 closed]
    exact latched
  · rw [Bool.not_eq_true] at closed
    by_cases authorized : login.authorized = true
    · rw [step_authorized sha256 closed authorized]
      exact latched
    · rw [Bool.not_eq_true] at authorized
      by_cases admitted : login.Admits sha256 event.2
      · have same : loginScopeDigest sha256 event.2 = loginScopeDigest sha256 first := by
          have known := latched.latch
          cases admitted with
          | inl fresh =>
              rw [fresh] at known
              cases known
          | inr equal => exact Option.some.inj (equal.symm.trans known)
        exact (Latched.admitted sha256 closed authorized (latched.waits authorized) admitted member
          same).1
      · rw [step_refused sha256 closed authorized admitted]
        refine ⟨latched.latch, latched.member, latched.same, latched.waits, ?_⟩
        intro opened
        rw [authorized] at opened
        cases opened

/-- A connection as it is accepted. -/
def Login.accepted (secured webClient : Bool) : Login where
  secured := secured
  webClient := webClient

/-- No two of the requests have different bytes with one digest. -/
def CollisionFree (requests : List LoginRequest) : Prop :=
  ∀ first ∈ requests, ∀ second ∈ requests,
    loginScopeDigest sha256 first = loginScopeDigest sha256 second →
      first.scopeBytes = second.scopeBytes

/-- The state of a connection after its first requests. -/
def reached (secured webClient : Bool) (events : List (World × LoginRequest)) : Login :=
  ((machine sha256).run (.accepted secured webClient) events).1

/-- The first scope is latched. -/
theorem reached_latched (secured webClient : Bool) (first : World × LoginRequest)
    (rest : List (World × LoginRequest)) (among : ∀ event ∈ first :: rest, event.2 ∈ requests) :
    Latched sha256 requests first.2 (reached sha256 secured webClient (first :: rest)) := by
  rw [List.forall_mem_cons] at among
  have start : Latched sha256 requests first.2
      ((machine sha256).step (.accepted secured webClient) first).1 :=
    (Latched.admitted sha256 rfl rfl rfl (.inl rfl) among.1 rfl).1
  have kept := (machine sha256).run_invariant (fun _ event => event.2 ∈ requests)
    (fun login _ => Latched sha256 requests first.2 login)
    (fun login _ event member latched => latched.step sha256 member) _ [] rest start
    ((machine sha256).guarded_of_forall _ rest among.2)
  exact kept

/-- Only the first scope is admitted. -/
theorem Latched.admits_iff (latched : Latched sha256 requests first login) (lr : LoginRequest) :
    login.Admits sha256 lr ↔ loginScopeDigest sha256 lr = loginScopeDigest sha256 first := by
  unfold Login.Admits
  rw [latched.latch]
  constructor
  · rintro (none_ | same)
    · cases none_
    · exact (Option.some.inj same).symm
  · intro same
    exact .inr (congrArg some same.symm)

/-- In a state that has been reached, a request is admitted exactly when it has the first scope. -/
theorem Latched.admits_scope (latched : Latched sha256 requests first login)
    (collisionFree : CollisionFree sha256 requests) (firstMember : first ∈ requests)
    (member : lr ∈ requests) : login.Admits sha256 lr ↔ lr.scope = first.scope := by
  rw [latched.admits_iff, ← lr.scopeBytes_eq_iff first]
  exact ⟨collisionFree lr member first firstMember, congrArg sha256⟩

theorem reached_concat (secured webClient : Bool) (before : List (World × LoginRequest))
    (event : World × LoginRequest) :
    reached sha256 secured webClient (before ++ [event]) =
      ((machine sha256).step (reached sha256 secured webClient before) event).1 := by
  unfold reached
  rw [Machine.run_append]
  rfl

/-- The requests of a run before one of its points are none, or they start with the first. -/
theorem reached_cases (secured webClient : Bool) {first : World × LoginRequest}
    {rest before after : List (World × LoginRequest)} (split : first :: rest = before ++ after) :
    before = [] ∨ Latched sha256 ((first :: rest).map Prod.snd) first.2
      (reached sha256 secured webClient before) := by
  cases before with
  | nil => exact .inl rfl
  | cons other others =>
      rw [List.cons_append] at split
      obtain ⟨rfl, rfl⟩ := List.cons.inj split
      refine .inr (reached_latched sha256 secured webClient first others ?_)
      intro event member
      apply List.mem_map_of_mem
      rw [← List.cons_append]
      exact List.mem_append_left after member

/-- The hashed bytes determine the scope of a request. On every run of login requests, the one that
authorizes the connection has the scope of the first, the session is of that scope as long as it
stands, and a request with another scope changes neither the request nor the latch. -/
theorem authorized_scope_is_first (secured webClient : Bool) (first : World × LoginRequest)
    (rest : List (World × LoginRequest))
    (collisionFree : CollisionFree sha256 ((first :: rest).map Prod.snd)) :
    (∀ one other : LoginRequest, one.scopeBytes = other.scopeBytes ↔ one.scope = other.scope) ∧
    (∀ lr : LoginRequest, lr.union = some .unknown →
      lr.sessionScope = .remote ∧ lr.scopeBytes = { lr with union := none }.scopeBytes) ∧
    (∀ before event after, first :: rest = before ++ event :: after →
      (reached sha256 secured webClient before).authorized = false →
      (reached sha256 secured webClient (before ++ [event])).authorized = true →
        (reached sha256 secured webClient (before ++ [event])).lr = event.2 ∧
          event.2.scope = first.2.scope) ∧
    (∀ before after, first :: rest = before ++ after →
      (reached sha256 secured webClient before).authorized = true →
        (reached sha256 secured webClient before).lr.scope = first.2.scope ∧
          (reached sha256 secured webClient before).Serves first.2.sessionScope) ∧
    (∀ before event after, first :: rest = before ++ event :: after →
      (reached sha256 secured webClient before).authorized = false →
      (reached sha256 secured webClient before).closed = false →
      event.2.scope ≠ first.2.scope →
        (machine sha256).step (reached sha256 secured webClient before) event =
          ({ reached sha256 secured webClient before with closed := true },
            [.loginError "Connection not allowed" 0])) := by
  have firstMember : first.2 ∈ (first :: rest).map Prod.snd := by simp
  have among : ∀ {before event after}, first :: rest = before ++ event :: after →
      event.2 ∈ (first :: rest).map Prod.snd := by
    intro before event after split
    rw [split]
    simp
  refine ⟨LoginRequest.scopeBytes_eq_iff, ?_, ?_, ?_, ?_⟩
  · intro lr unknown
    unfold LoginRequest.sessionScope LoginRequest.scopeBytes LoginRequest.scopeFields
    rw [unknown]
    exact ⟨rfl, rfl⟩
  · intro before event after split waiting authorized
    rw [reached_concat] at authorized ⊢
    obtain rfl | latched := reached_cases sha256 secured webClient split
    · obtain ⟨rfl, rfl⟩ := List.cons.inj split
      exact ⟨(Latched.admitted sha256 rfl rfl rfl (.inl rfl) firstMember rfl).2, rfl⟩
    · by_cases closed : (reached sha256 secured webClient before).closed = true
      · rw [step_closed sha256 closed, waiting] at authorized
        cases authorized
      · rw [Bool.not_eq_true] at closed
        by_cases admitted : (reached sha256 secured webClient before).Admits sha256 event.2
        · have scope := (latched.admits_scope sha256 collisionFree firstMember (among split)).mp
            admitted
          exact ⟨(Latched.admitted sha256 closed waiting (latched.waits waiting) admitted
            (among split) ((latched.admits_iff sha256 event.2).mp admitted)).2, scope⟩
        · rw [step_refused sha256 closed waiting admitted, waiting] at authorized
          cases authorized
  · intro before after split authorized
    obtain rfl | latched := reached_cases sha256 secured webClient split
    · cases authorized
    · have scope := ((LoginRequest.scopeBytes_eq_iff _ _).mp
        (collisionFree _ latched.member _ firstMember latched.same))
      have serves := latched.serves authorized
      rw [(Prod.mk.inj scope).2] at serves
      exact ⟨scope, serves⟩
  · intro before event after split waiting open_ other
    obtain rfl | latched := reached_cases sha256 secured webClient split
    · obtain ⟨rfl, rfl⟩ := List.cons.inj split
      exact absurd rfl other
    · apply step_refused sha256 open_ waiting
      rwa [latched.admits_scope sha256 collisionFree firstMember (among split)]

end Digests

def terminalRequest : LoginRequest where
  myId := ⟨"peer".toList, by decide +kernel⟩
  union := some (.terminal ⟨"ts_1".toList, by decide +kernel⟩)
  lanLogin := true

def forwardRequest : LoginRequest where
  myId := ⟨"peer".toList, by decide +kernel⟩
  union := some (.portForward ⟨"localhost".toList, by decide +kernel⟩ 3389)
  lanLogin := true

/-- The digests of the two requests. -/
def sampleSha256 (bytes : List UInt8) : Digest :=
  if bytes = terminalRequest.scopeBytes then
    0x5754e02beee2ee334f7c7fbcd940bc11d56f15ace7790ec3d16492a0e3b7e4a5
  else if bytes = forwardRequest.scopeBytes then
    0x43c1169e88b6518082bfa78c9904cf393c674938459d4e160221a41f59604aaa
  else 0

def retries : List (World × LoginRequest) :=
  [({ verified := false }, terminalRequest), ({}, terminalRequest), ({}, forwardRequest)]

theorem terminal_login_retried :
    (reached sampleSha256 true false (retries.take 2)).authorized = true ∧
      (reached sampleSha256 true false (retries.take 2)).lr = terminalRequest ∧
      (reached sampleSha256 true false (retries.take 2)).Serves terminalRequest.sessionScope := by
  have collisionFree : CollisionFree sampleSha256 (retries.map Prod.snd) := by
    unfold CollisionFree
    decide +kernel
  obtain ⟨-, -, authorizes, serves, -⟩ :=
    authorized_scope_is_first sampleSha256 true false _ _ collisionFree
  have authorized : (reached sampleSha256 true false (retries.take 2)).authorized = true := by
    decide +kernel
  exact ⟨authorized, (authorizes (retries.take 1) _ (retries.drop 2) rfl (by decide +kernel)
    authorized).1, (serves (retries.take 2) (retries.drop 2) rfl authorized).2⟩

end SubnetDesk.LoginScope
