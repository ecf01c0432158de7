import SubnetDesk.Construction.Lan.Connect

namespace SubnetDesk.Lan
open AsciiCase

variable {around : Surroundings} {store : TrustStore} {receiver : List UserData} {peer : Text}

/-- The attempts find the first candidate that answers, and remember only failures before it. -/
theorem tryCandidates_spec (around : Surroundings) (candidates attempted : List Text)
    (failed : ∀ candidate ∈ attempted, attempt around candidate = none) :
    (tryCandidates around candidates attempted).1 = candidates.findSome? (attempt around) ∧
      ((tryCandidates around candidates attempted).1 = none →
        ∀ candidate ∈ (tryCandidates around candidates attempted).2,
          attempt around candidate = none) := by
  induction candidates generalizing attempted with
  | nil => exact ⟨rfl, fun _ => failed⟩
  | cons candidate rest ih =>
      rw [tryCandidates, List.findSome?_cons]
      split
      next seen =>
        rw [failed candidate seen]
        exact ih attempted failed
      next =>
        cases answer : attempt around candidate with
        | some connected => exact ⟨rfl, nofun⟩
        | none =>
            apply ih (candidate :: attempted)
            rw [List.forall_mem_cons]
            exact ⟨answer, failed⟩

/-- A client that may connect has resolved an expected fingerprint for the requested endpoint. -/
structure Resolved (around : Surroundings) (peer requested expected : Text) : Prop where
  outgoing : around.incomingOnly = false
  unblocked : around.retryBlocked = false
  parsed : (around.parser.parse peer).map Endpoint.authority = some requested
  expects : (connectionCandidates around.parser around.before requested).1 = some expected

/-- The candidates in the order of their attempts. -/
def orderedCandidates (around : Surroundings) (requested : Text) : List Text :=
  (connectionCandidates around.parser around.before requested).2 ++
    (connectionCandidates around.parser around.discovered requested).2

/-- The first candidate that completes a handshake. -/
def firstAnswer (around : Surroundings) (requested : Text) : Option Connected :=
  (orderedCandidates around requested).findSome? (attempt around)

/-- The start of a resolved peer is its first answer. -/
theorem start_eq_firstAnswer {requested expected : Text}
    (resolved : Resolved around peer requested expected) :
    start around peer = firstAnswer around requested := by
  obtain ⟨endpoint, parsed, authority⟩ := Option.map_eq_some_iff.mp resolved.parsed
  have expects := resolved.expects
  unfold start
  rw [resolved.outgoing, resolved.unblocked, parsed]
  simp only [Bool.or_false, Bool.false_eq_true, if_false, authority, expects, Option.isSome_some,
    if_true]
  rw [firstAnswer, orderedCandidates, List.findSome?_append]
  obtain ⟨found, failures⟩ := tryCandidates_spec around
    (connectionCandidates around.parser around.before requested).2 [] (by simp)
  rw [← found]
  generalize tryCandidates around
    (connectionCandidates around.parser around.before requested).2 [] = result at failures ⊢
  obtain ⟨outcome, attempted⟩ := result
  cases outcome with
  | some connected => rfl
  | none =>
      have failed := failures rfl
      show (if _ then none else _) = List.findSome? _ _
      split
      next all =>
        symm
        rw [List.findSome?_eq_none_iff]
        intro candidate member
        have seen := List.all_eq_true.mp all candidate member
        exact failed candidate (of_decide_eq_true seen)
      next => exact (tryCandidates_spec around _ attempted failed).1

/-- The store trusts a fingerprint at an endpoint without a question. -/
def trustsSilently (parser : EndpointParser) (store : TrustStore) (endpoint fingerprint : Text) :
    Bool :=
  (parser.parse endpoint).any fun endpoint =>
    match store.getTrustedLanFingerprint endpoint.authority with
    | some saved => saved == fingerprint
    | none =>
        store.isTrustedLanFingerprint fingerprint &&
          store.trustLanFingerprint endpoint.authority fingerprint

theorem awaitAnswer_ne_silent (saves : Bool) (receiver : List UserData) :
    awaitAnswer saves receiver ≠ .silent := by
  induction receiver with
  | nil => exact nofun
  | cons data rest ih =>
      cases data with
      | trustLanDevice =>
          rw [awaitAnswer]
          split <;> exact nofun
      | rejectLanDevice => exact nofun
      | close => exact nofun
      | other => exact ih

/-- A device is silent where it is known. -/
theorem confirmLanDevice_silent_iff (parser : EndpointParser) (deviceFingerprint : Bytes → Text)
    (store : TrustStore) (receiver : List UserData) (connected : Connected) :
    (confirmLanDevice parser deviceFingerprint store receiver connected).2 = .silent ↔
      trustsSilently parser store connected.endpoint
        (deviceFingerprint connected.devicePublicKey) = true := by
  unfold confirmLanDevice trustsSilently
  cases parser.parse connected.endpoint with
  | none => simp
  | some endpoint =>
      simp only [Option.any_some]
      cases store.getTrustedLanFingerprint endpoint.authority with
      | some saved =>
          by_cases same : saved = deviceFingerprint connected.devicePublicKey
          · simp [same]
          · simp [same, awaitAnswer_ne_silent]
      | none =>
          by_cases known : store.isTrustedLanFingerprint
              (deviceFingerprint connected.devicePublicKey) = true
          · simp [known]
          · simp [known, awaitAnswer_ne_silent]

/-- A login without a question needs a connection to a device that the store trusts silently. -/
theorem ioLoop_silent_iff (fingerprint : Text) :
    ioLoop around store receiver peer = .login true fingerprint ↔
      ∃ connected, start around peer = some connected ∧ connected.devicePublicKey ≠ [] ∧
        around.deviceFingerprint connected.devicePublicKey = fingerprint ∧
        trustsSilently around.parser store connected.endpoint fingerprint = true := by
  unfold ioLoop
  cases start around peer with
  | none => simp
  | some connected =>
      have silent := confirmLanDevice_silent_iff around.parser around.deviceFingerprint store
        receiver connected
      have chosen : (∃ other, some connected = some other ∧ other.devicePublicKey ≠ [] ∧
          around.deviceFingerprint other.devicePublicKey = fingerprint ∧
          trustsSilently around.parser store other.endpoint fingerprint = true) ↔
          connected.devicePublicKey ≠ [] ∧
            around.deviceFingerprint connected.devicePublicKey = fingerprint ∧
            trustsSilently around.parser store connected.endpoint
              (around.deviceFingerprint connected.devicePublicKey) = true := by
        constructor
        · rintro ⟨other, same, filled, rfl, trusts⟩
          cases same
          exact ⟨filled, rfl, trusts⟩
        · rintro ⟨filled, rfl, trusts⟩
          exact ⟨connected, rfl, filled, rfl, trusts⟩
      rw [chosen, ← silent]
      by_cases empty : connected.devicePublicKey = []
      · simp [empty]
      · cases confirmed :
            (confirmLanDevice around.parser around.deviceFingerprint store receiver connected).2 with
        | silent => simp [empty, confirmed]
        | answered => simp [empty, confirmed]
        | refused => simp [empty, confirmed]

/-- The first device that answers is the expected one, unless the store does not trust it silently. -/
def ExpectedOrAsked (around : Surroundings) (store : TrustStore) (requested expected : Text) :
    Prop :=
  ∀ connected, firstAnswer around requested = some connected →
    connected.devicePublicKey ≠ [] →
    trustsSilently around.parser store connected.endpoint
      (around.deviceFingerprint connected.devicePublicKey) = true →
    eqIgnoreAsciiCase (around.deviceFingerprint connected.devicePublicKey) expected = true

/-- Silent logins go only to the expected device exactly when the first device that answers is the
expected one, or is not trusted silently. -/
theorem silent_login_expected_iff {requested expected : Text}
    (resolved : Resolved around peer requested expected) :
    (∀ fingerprint, ioLoop around store receiver peer = .login true fingerprint →
      eqIgnoreAsciiCase fingerprint expected = true) ↔
    ExpectedOrAsked around store requested expected := by
  simp only [ioLoop_silent_iff, start_eq_firstAnswer resolved]
  constructor
  · intro holds connected answered filled trusts
    exact holds _ ⟨connected, answered, filled, rfl, trusts⟩
  · rintro condition fingerprint ⟨connected, answered, filled, rfl, trusts⟩
    exact condition connected answered filled trusts

/-- A parser that reads a host in front of the usual port. -/
def sampleParser : EndpointParser where
  parse text :=
    if ":21118".toList.isSuffixOf text then some ⟨text, text.takeWhile (· != ':'), 21118⟩ else none
  defaultPort := 21118
  parseIp _ := none

def requestedEndpoint : Text := "10.8.0.15:21118".toList

def advertisedEndpoint : Text := "192.168.1.99:21118".toList

def requestedFingerprint : Text :=
  "72cd6e8422c407fb6d098690f1130b7ded7ec2f7f5e1d30bd9d521f015363793".toList

def advertisedFingerprint : Text :=
  "75877bb41d393b5fb8455ce60ecd8dda001d06316496b14dfa7f895656eeca4a".toList

/-- The requested device was seen before and is down. A host advertises another endpoint for it,
where a device with another key answers. -/
def fallbackSurroundings : Surroundings where
  parser := sampleParser
  deviceFingerprint key :=
    if key = List.replicate 32 1 then requestedFingerprint else advertisedFingerprint
  incomingOnly := false
  retryBlocked := false
  before := ⟨[⟨requestedEndpoint, requestedFingerprint⟩], []⟩
  discovered := ⟨[⟨requestedEndpoint, requestedFingerprint⟩],
    [⟨advertisedEndpoint, requestedFingerprint, []⟩]⟩
  handshake candidate :=
    if candidate = advertisedEndpoint then some (List.replicate 32 2) else none

/-- The device at the advertised endpoint is a trusted one. -/
def sampleStore : TrustStore where
  getTrustedLanFingerprint endpoint :=
    if endpoint = advertisedEndpoint then some advertisedFingerprint else none
  isTrustedLanFingerprint fingerprint := fingerprint == advertisedFingerprint
  trustLanFingerprint _ _ := true

def emptyStore : TrustStore where
  getTrustedLanFingerprint _ := none
  isTrustedLanFingerprint _ := false
  trustLanFingerprint _ _ := true

theorem silent_login_expected_untrusted :
    Resolved fallbackSurroundings requestedEndpoint requestedEndpoint requestedFingerprint ∧
    ((∀ fingerprint, ioLoop fallbackSurroundings emptyStore [] requestedEndpoint =
        .login true fingerprint → eqIgnoreAsciiCase fingerprint requestedFingerprint = true) ↔
      ExpectedOrAsked fallbackSurroundings emptyStore requestedEndpoint requestedFingerprint) := by
  have resolved :
      Resolved fallbackSurroundings requestedEndpoint requestedEndpoint requestedFingerprint :=
    ⟨rfl, rfl, by decide +kernel, by decide +kernel⟩
  exact ⟨resolved, silent_login_expected_iff resolved⟩

theorem other_device_silent :
    Resolved fallbackSurroundings requestedEndpoint requestedEndpoint requestedFingerprint ∧
    ¬ ∀ fingerprint, ioLoop fallbackSurroundings sampleStore [] requestedEndpoint =
        .login true fingerprint → eqIgnoreAsciiCase fingerprint requestedFingerprint = true := by
  refine ⟨⟨rfl, rfl, by decide +kernel, by decide +kernel⟩, ?_⟩
  intro holds
  have differs := holds advertisedFingerprint (by decide +kernel)
  exact absurd differs (by decide +kernel)

end SubnetDesk.Lan
