import SubnetDesk.Construction.Web.SourceIdentity
import SubnetDesk.Proof.Server.LoginThrottle
import SubnetDesk.Proof.Web.RequestRates
import SubnetDesk.Proof.Web.SessionCounts

namespace SubnetDesk.SourceIdentity

open Lan (SourceIp toIpv4Mapped normalizeSourceIp)
open LoginFailureCheck (Text Source Output Choice Streak lanAuthFailureKeys streakOf
  expectedRetryAfter)
open Threads (Event)

/-- What `try_into_v4` does with the address of a client of version 4. -/
structure KeepsClients (tryIntoV4 : SourceIp → SourceIp) : Prop where
  v4 : ∀ bits, tryIntoV4 (.v4 bits) = .v4 bits
  mapped : ∀ bits low, toIpv4Mapped bits = some low → tryIntoV4 (.v6 bits) = .v4 low

section Buckets

/-- Two reported forms have one address. -/
theorem normalize_v4_cases {reported : SourceIp} {client : BitVec 32}
    (same : normalizeSourceIp reported = .v4 client) :
    reported = .v4 client ∨ ∃ bits, reported = .v6 bits ∧ toIpv4Mapped bits = some client := by
  cases reported with
  | v4 bits => exact Or.inl same
  | v6 bits =>
      rw [normalizeSourceIp] at same
      cases mapped : toIpv4Mapped bits with
      | none =>
          rw [mapped] at same
          cases same
      | some low =>
          rw [mapped] at same
          cases same
          exact Or.inr ⟨bits, rfl, mapped⟩

variable {tryIntoV4 : SourceIp → SourceIp}

/-- Either transport and either form of the address lead to the address of the client. -/
theorem connectionAddr_v4 (law : KeepsClients tryIntoV4) {arrival : Arrival}
    {client : BitVec 32} (same : normalizeSourceIp arrival.reported = .v4 client) :
    arrival.connectionAddr tryIntoV4 = .v4 client := by
  obtain ⟨transport, reported, secured⟩ := arrival
  cases transport with
  | native =>
      rw [Arrival.connectionAddr, Arrival.lanAddr]
      exact (congrArg tryIntoV4 same).trans (law.v4 client)
  | web =>
      obtain rfl | ⟨bits, rfl, mapped⟩ := normalize_v4_cases same
      · exact law.v4 client
      · exact law.mapped bits client mapped

theorem colon_mem_displayIpv6 (bits : BitVec 128) :
    ':' ∈ WebGateway.Redirects.displayIpv6 bits := by
  rw [WebGateway.Redirects.displayIpv6]
  split
  · exact List.mem_append_left _ (by decide)
  · exact IpText.colon_mem_compressed bits

/-- Only that address has the dotted text. -/
theorem ipText_eq_dotted {ip : SourceIp} {client : BitVec 32} :
    ipText ip = IpText.dotted client ↔ ip = .v4 client := by
  constructor
  · intro same
    cases ip with
    | v4 bits => exact congrArg SourceIp.v4 (IpText.dotted_injective same)
    | v6 bits =>
        have colon := colon_mem_displayIpv6 bits
        rw [show WebGateway.Redirects.displayIpv6 bits = IpText.dotted client from same] at colon
        exact absurd colon (IpText.colon_notMem_dotted client)
  · rintro rfl
    rfl

/-- The text names the address that came in. -/
theorem source_ip_eq_dotted {arrival : Arrival} {client : BitVec 32} :
    (arrival.source tryIntoV4).ip = IpText.dotted client ↔
      arrival.connectionAddr tryIntoV4 = .v4 client := ipText_eq_dotted

/-- A text without colons has no prefixes of version 6. -/
theorem lanAuthFailureKeys_dotted {source : Source} {client : BitVec 32}
    (known : source.ip = IpText.dotted client) :
    lanAuthFailureKeys ipv6Format source = [IpText.dotted client] := by
  have unread : ipv6Format.parse (LoginFailureCheck.trim (source.ip.takeWhile (· ≠ '%'))) =
      none := by
    cases read : ipv6Format.parse (LoginFailureCheck.trim (source.ip.takeWhile (· ≠ '%'))) with
    | none => rfl
    | some bits =>
        have inside := Trimming.mem_of_mem_trim (IpParser.ipv6FromStr_colon read)
        have colon := (List.takeWhile_sublist _).mem inside
        rw [known] at colon
        exact absurd colon (IpText.colon_notMem_dotted client)
  rw [lanAuthFailureKeys, LoginFailureCheck.getIpv6Prefixes, unread, known]
  rfl

theorem slash_notMem_dotted (client : BitVec 32) : '/' ∉ IpText.dotted client :=
  slash_notMem_ipText (.v4 client)

/-- The bucket of a client is charged by the connections that are known by its address. -/
theorem dotted_mem_keys {source : Source} {client : BitVec 32} :
    IpText.dotted client ∈ lanAuthFailureKeys ipv6Format source ↔
      source.ip = IpText.dotted client := by
  constructor
  · intro member
    rcases @LoginFailureCheck.lanAuthFailureKeys_cases ipv6Format source with
      single | ⟨first, second, third, several⟩
    · rw [single, List.mem_singleton] at member
      exact member.symm
    · have slash := slash_notMem_dotted client
      rw [several] at member
      simp only [List.mem_cons, List.not_mem_nil, or_false] at member
      obtain own | key | key | key := member
      · exact own.symm
      all_goals
        rw [key] at slash
        exact absurd (List.mem_append_right _ (by decide)) slash
  · intro known
    rw [lanAuthFailureKeys_dotted known]
    exact List.mem_singleton_self _

end Buckets

section Failures

/-- The connections in the order of their numbers. -/
def arrivalsOf : List (Event Arrival Choice Nat) → List Arrival
  | [] => []
  | .call arrival :: rest => arrival :: arrivalsOf rest
  | _ :: rest => arrivalsOf rest

/-- The address of version 4 by which a connection is known. -/
def knownAs (tryIntoV4 : SourceIp → SourceIp) (arrivals : List Arrival) (connection : Nat)
    (client : BitVec 32) : Prop :=
  ∃ arrival, arrivals[connection]? = some arrival ∧
    arrival.connectionAddr tryIntoV4 = .v4 client

instance (tryIntoV4 : SourceIp → SourceIp) (arrivals : List Arrival) (connection : Nat)
    (client : BitVec 32) : Decidable (knownAs tryIntoV4 arrivals connection client) :=
  decidable_of_iff ((arrivals[connection]?).any fun arrival =>
      arrival.connectionAddr tryIntoV4 = .v4 client) (by
    rw [Option.any_eq_true]
    exact exists_congr fun arrival => and_congr_right fun _ => decide_eq_true_iff)

section Client

variable (tryIntoV4 : SourceIp → SourceIp) (arrivals : List Arrival) (client : BitVec 32)

/-- Only the connections of a client count or clear its failures. -/
def clientStreakAfter (streak : Option Streak) : Output → Option Streak
  | .failed connection _ nowMs =>
      if knownAs tryIntoV4 arrivals connection client then some (Streak.next nowMs streak)
      else streak
  | .cleared connection _ =>
      if knownAs tryIntoV4 arrivals connection client then none else streak
  | _ => streak

def clientStreak (past : List Output) : Option Streak :=
  past.foldl (clientStreakAfter tryIntoV4 arrivals client) none

/-- The seconds that the failures of a client ask for. -/
def clientRetryAfter (past : List Output) (nowMs : Int) : Nat :=
  match (clientStreak tryIntoV4 arrivals client past).filter fun streak =>
      ¬ streak.Idle nowMs with
  | some streak => ((streak.blockedUntil - nowMs + 999) / 1000).toNat
  | none => 0

end Client

/-- A check of a connection of a client returns what the failures of this client ask for. -/
def OwnRetry (tryIntoV4 : SourceIp → SourceIp) (arrivals : List Arrival) (past : List Output) :
    Output → Prop
  | .checked connection _ nowMs retryAfter =>
      ∀ client, knownAs tryIntoV4 arrivals connection client →
        retryAfter = clientRetryAfter tryIntoV4 arrivals client past nowMs
  | _ => True

/-- The source in an output is that of the connection. -/
def Traced (tryIntoV4 : SourceIp → SourceIp) (arrivals : List Arrival) : Output → Prop
  | .checked connection source _ _ | .failed connection source _ | .cleared connection source =>
      ∃ arrival, arrivals[connection]? = some arrival ∧ source = arrival.source tryIntoV4
  | _ => True

/-- An output stays traced. -/
theorem Traced.later {tryIntoV4 : SourceIp → SourceIp} {arrivals : List Arrival}
    {output : Output} (traced : Traced tryIntoV4 arrivals output) (more : List Arrival) :
    Traced tryIntoV4 (arrivals ++ more) output := by
  have kept {connection : Nat} {source : Source}
      (found : ∃ arrival, arrivals[connection]? = some arrival ∧
        source = arrival.source tryIntoV4) :
      ∃ arrival, (arrivals ++ more)[connection]? = some arrival ∧
        source = arrival.source tryIntoV4 := by
    obtain ⟨arrival, there, same⟩ := found
    obtain ⟨inside, -⟩ := List.getElem?_eq_some_iff.1 there
    exact ⟨arrival, by rw [List.getElem?_append_left inside]; exact there, same⟩
  cases output with
  | checked connection source nowMs retryAfter => exact kept traced
  | failed connection source nowMs => exact kept traced
  | cleared connection source => exact kept traced
  | started connection => trivial
  | ended connection result => trivial
  | loginError connection error seconds => trivial

theorem arrivalsOf_append (first second : List (Event Arrival Choice Nat)) :
    arrivalsOf (first ++ second) = arrivalsOf first ++ arrivalsOf second := by
  induction first with
  | nil => rfl
  | cons event rest ih =>
      cases event with
      | call arrival => exact congrArg (arrival :: ·) ih
      | advance index choice => exact ih
      | disturb later => exact ih

/-- The outputs of a step carry the number and the source of the connection. -/
theorem step_traced {shared after : LoginFailureCheck.Shared}
    {connection next : LoginFailureCheck.Connection} {outputs : List Output}
    {tryIntoV4 : SourceIp → SourceIp} {arrivals : List Arrival}
    (step : LoginFailureCheck.LoginStep ipv6Format shared connection (after, next, outputs))
    (known : ∃ arrival, arrivals[connection.id]? = some arrival ∧
      connection.source = arrival.source tryIntoV4) :
    next.source = connection.source ∧ ∀ output ∈ outputs, Traced tryIntoV4 arrivals output := by
  cases step with
  | rests => simp
  | refuses => simp [Traced]
  | blocks => simpa [Traced] using known
  | allows => simpa [Traced] using known
  | starts => simp [Traced]
  | ends => simp [Traced]
  | fails => simpa [Traced] using known
  | clears => simpa [Traced] using known

/-- Every connection has the number and the source of its arrival. -/
structure Follows (tryIntoV4 : SourceIp → SourceIp) (arrivals : List Arrival)
    (run : LoginFailureCheck.LanAuth × List Output) : Prop where
  size : run.1.threads.length = arrivals.length
  sources : ∀ (index : Nat) (connection : LoginFailureCheck.Connection),
    run.1.threads[index]? = some connection →
      ∃ arrival, arrivals[index]? = some arrival ∧ connection.source = arrival.source tryIntoV4
  traced : ∀ output ∈ run.2, Traced tryIntoV4 arrivals output

variable {tryIntoV4 : SourceIp → SourceIp}

/-- A new login follows the rules. -/
theorem Follows.call {arrivals : List Arrival} {state : LoginFailureCheck.LanAuth}
    {past : List Output} (follows : Follows tryIntoV4 arrivals (state, past)) (arrival : Arrival)
    {connection : LoginFailureCheck.Connection} {shared : LoginFailureCheck.Shared}
    (source : connection.source = arrival.source tryIntoV4) :
    Follows tryIntoV4 (arrivals ++ [arrival])
      (⟨shared, state.threads ++ [connection]⟩, past) where
  size := by simpa using follows.size
  sources := by
    intro index other found
    have size := follows.size
    dsimp only at found size
    by_cases old : index < state.threads.length
    · rw [List.getElem?_append_left old] at found
      rw [List.getElem?_append_left (by omega)]
      exact follows.sources index other found
    · obtain ⟨inside, -⟩ := List.getElem?_eq_some_iff.1 found
      rw [List.length_append, List.length_singleton] at inside
      have last : index = state.threads.length := by omega
      rw [last, List.getElem?_concat_length] at found
      rw [last, size, List.getElem?_concat_length]
      exact ⟨arrival, rfl, Option.some.inj found ▸ source⟩
  traced output member := (follows.traced output member).later [arrival]

/-- A step of a login follows the rules. -/
theorem Follows.advance {arrivals : List Arrival} {state : LoginFailureCheck.LanAuth}
    {past : List Output} (follows : Follows tryIntoV4 arrivals (state, past)) {index : Nat}
    {connection next : LoginFailureCheck.Connection} {after : LoginFailureCheck.Shared}
    {outputs : List Output}
    (found : state.threads[index]? = some connection) (number : connection.id = index)
    (step : LoginFailureCheck.LoginStep ipv6Format state.shared connection
      (after, next, outputs)) :
    Follows tryIntoV4 arrivals (⟨after, state.threads.set index next⟩, past ++ outputs) := by
  have own := follows.sources index connection found
  obtain ⟨same, traced⟩ := step_traced step (number ▸ own)
  refine ⟨by simpa using follows.size, ?_, ?_⟩
  · intro place other there
    dsimp only at there
    rw [List.getElem?_set] at there
    split at there
    · next here =>
        split at there
        · cases there
          rw [← here, same]
          exact own
        · cases there
    · exact follows.sources place other there
  · intro output member
    obtain earlier | later := List.mem_append.1 member
    · exact follows.traced output earlier
    · exact traced output later

theorem loginRun_append (now : Nat) (events : List (Event Arrival Choice Nat))
    (event : Event Arrival Choice Nat) :
    loginRun tryIntoV4 now (events ++ [event]) =
      (((LoginFailureCheck.program ipv6Format).machine.step (loginRun tryIntoV4 now events).1
          (loginEvent tryIntoV4 event)).1,
        (loginRun tryIntoV4 now events).2 ++
          ((LoginFailureCheck.program ipv6Format).machine.step (loginRun tryIntoV4 now events).1
            (loginEvent tryIntoV4 event)).2) := by
  rw [loginRun, List.map_append, List.map_singleton]
  apply Prod.ext
  · rw [Machine.run_append]
    rfl
  · rw [Machine.run_append_outputs, Machine.run, Machine.run, List.append_nil]
    rfl

theorem sound_loginRun (now : Nat) (events : List (Event Arrival Choice Nat)) :
    LoginFailureCheck.Sound ipv6Format (loginRun tryIntoV4 now events).1
      (loginRun tryIntoV4 now events).2 :=
  LoginFailureCheck.sound_run now _

/-- Every run of logins follows the rules. -/
theorem follows_run (now : Nat) (events : List (Event Arrival Choice Nat)) :
    Follows tryIntoV4 (arrivalsOf events) (loginRun tryIntoV4 now events) := by
  induction events using List.reverseRecOn with
  | nil =>
      exact ⟨rfl, by simp [loginRun, Machine.run, LoginFailureCheck.LanAuth.start],
        by simp [loginRun, Machine.run]⟩
  | append_singleton events event ih =>
      rw [loginRun_append, arrivalsOf_append]
      cases event with
      | call arrival =>
          rw [loginEvent, Threads.Program.machine_call, List.append_nil]
          exact ih.call arrival rfl
      | advance index choice =>
          rw [loginEvent, show arrivalsOf [.advance index choice] = [] from rfl, List.append_nil]
          cases found : (loginRun tryIntoV4 now events).1.threads[index]? with
          | none =>
              rw [Threads.Program.machine_absent _ choice found, List.append_nil]
              exact ih
          | some connection =>
              rw [Threads.Program.machine_advance _ choice found]
              exact ih.advance found ((sound_loginRun now events).ids index connection found)
                (LoginFailureCheck.handleLanLoginRequest_step _ _ _)
      | disturb later =>
          rw [show arrivalsOf [.disturb later] = [] from rfl, List.append_nil]
          refine ⟨ih.size, ih.sources, ?_⟩
          intro output member
          exact ih.traced output (by simpa [loginEvent, Threads.Program.machine] using member)

/-- The streak of the bucket of a client is the streak of its connections. -/
theorem streakOf_eq_clientStreak {arrivals : List Arrival} {past : List Output}
    (traced : ∀ output ∈ past, Traced tryIntoV4 arrivals output) (client : BitVec 32) :
    streakOf ipv6Format past (IpText.dotted client) =
      clientStreak tryIntoV4 arrivals client past := by
  unfold streakOf clientStreak
  apply List.foldl_ext
  intro streak output member
  have trace := traced output member
  have charged {connection : Nat} {source : Source}
      (found : ∃ arrival, arrivals[connection]? = some arrival ∧
        source = arrival.source tryIntoV4) :
      source.ip = IpText.dotted client ↔ knownAs tryIntoV4 arrivals connection client := by
    obtain ⟨arrival, there, rfl⟩ := found
    rw [source_ip_eq_dotted, knownAs, there]
    exact ⟨fun known => ⟨arrival, rfl, known⟩, fun ⟨_, same, known⟩ => Option.some.inj same ▸ known⟩
  cases output with
  | failed connection source nowMs =>
      simp only [LoginFailureCheck.streakAfter, clientStreakAfter, dotted_mem_keys, charged trace]
  | cleared connection source =>
      simp only [LoginFailureCheck.streakAfter, clientStreakAfter, charged trace]
  | checked connection source nowMs retryAfter => rfl
  | started connection => rfl
  | ended connection result => rfl
  | loginError connection error seconds => rfl

/-- The wait depends on the client alone. -/
theorem expectedRetryAfter_eq {arrivals : List Arrival} {past : List Output} {source : Source}
    {client : BitVec 32} (traced : ∀ output ∈ past, Traced tryIntoV4 arrivals output)
    (known : source.ip = IpText.dotted client) (nowMs : Int) :
    expectedRetryAfter ipv6Format past source nowMs =
      clientRetryAfter tryIntoV4 arrivals client past nowMs := by
  rw [expectedRetryAfter, lanAuthFailureKeys_dotted known, List.filterMap_cons,
    List.filterMap_nil, streakOf_eq_clientStreak traced, clientRetryAfter]
  cases (clientStreak tryIntoV4 arrivals client past).filter fun streak =>
      ¬ streak.Idle nowMs with
  | none => rfl
  | some streak => rfl

/-- Each wait is the client's own. -/
theorem judged_ownRetry {arrivals : List Arrival} {past outputs : List Output}
    (before : ∀ output ∈ past, Traced tryIntoV4 arrivals output)
    (traced : ∀ output ∈ outputs, Traced tryIntoV4 arrivals output)
    (judged : Machine.Judged (LoginFailureCheck.Output.Justified ipv6Format) past outputs) :
    Machine.Judged (OwnRetry tryIntoV4 arrivals) past outputs := by
  induction outputs generalizing past with
  | nil => trivial
  | cons output rest ih =>
      obtain ⟨justified, later⟩ := judged
      have own := traced output List.mem_cons_self
      refine ⟨?_, ih ?_ (fun other member => traced other (List.mem_cons_of_mem output member))
        later⟩
      · cases output with
        | checked connection source nowMs retryAfter =>
            intro client ⟨arrival, there, known⟩
            obtain ⟨other, same, from_⟩ := own
            rw [there] at same
            rw [justified.1]
            exact expectedRetryAfter_eq before
              (by rw [from_, ← Option.some.inj same]; exact source_ip_eq_dotted.2 known) nowMs
        | failed connection source nowMs => trivial
        | cleared connection source => trivial
        | started connection => trivial
        | ended connection result => trivial
        | loginError connection error seconds => trivial
      · intro other member
        obtain earlier | last := List.mem_append.1 member
        · exact before other earlier
        · rw [List.mem_singleton.1 last]
          exact own

end Failures

section Listeners

def ReportedBy (listeners : List Listener) (ip : SourceIp) : Prop :=
  ∃ listener ∈ listeners, listener.reports ip = true

/-- A mapped address has its own prefix. -/
theorem toIpv4Mapped_eq_some {bits : BitVec 128} {low : BitVec 32}
    (mapped : toIpv4Mapped bits = some low) : bits.toNat = 0xFFFF * 2 ^ 32 + low.toNat := by
  rw [toIpv4Mapped] at mapped
  split at mapped
  · next high =>
      have front := congrArg BitVec.toNat high
      have back := congrArg BitVec.toNat (Option.some.inj mapped)
      have bound := bits.isLt
      simp only [BitVec.extractLsb'_toNat, Nat.shiftRight_eq_div_pow] at front back
      have value : (0xFFFF : BitVec 96).toNat = 0xFFFF := rfl
      omega
  · cases mapped

/-- A mapped address came over both families. -/
theorem dualStack_of_mapped {listeners : List Listener} {bits : BitVec 128} {low : BitVec 32}
    (reported : ReportedBy listeners (.v6 bits)) (mapped : toIpv4Mapped bits = some low) :
    Listener.dualStack ∈ listeners := by
  obtain ⟨listener, member, reports⟩ := reported
  cases listener with
  | ipv4 => cases reports
  | ipv6Only =>
      rw [Listener.reports, mapped] at reports
      cases reports
  | dualStack => exact member

/-- A plain address came over its own family. -/
theorem ipv4_of_v4 {listeners : List Listener} {bits : BitVec 32}
    (reported : ReportedBy listeners (.v4 bits)) : Listener.ipv4 ∈ listeners := by
  obtain ⟨listener, member, reports⟩ := reported
  cases listener with
  | ipv4 => exact member
  | ipv6Only => cases reports
  | dualStack => cases reports

/-- Where not both forms are reported, an address has one form. -/
theorem reported_eq {listeners : List Listener}
    (unmixed : ¬ (Listener.ipv4 ∈ listeners ∧ Listener.dualStack ∈ listeners))
    {first second : SourceIp} (firstReported : ReportedBy listeners first)
    (secondReported : ReportedBy listeners second)
    (same : normalizeSourceIp first = normalizeSourceIp second) : first = second := by
  cases second with
  | v4 client =>
      obtain equal | ⟨bits, rfl, mapped⟩ := normalize_v4_cases same
      · exact equal
      · exact absurd ⟨ipv4_of_v4 secondReported, dualStack_of_mapped firstReported mapped⟩ unmixed
  | v6 other =>
      cases mapped : toIpv4Mapped other with
      | some low =>
          have client : normalizeSourceIp (.v6 other) = .v4 low := by
            rw [normalizeSourceIp, mapped]
            rfl
          obtain rfl | ⟨bits, rfl, alsoMapped⟩ := normalize_v4_cases (same.trans client)
          · exact absurd ⟨ipv4_of_v4 firstReported, dualStack_of_mapped secondReported mapped⟩
              unmixed
          · have bitsNat := toIpv4Mapped_eq_some alsoMapped
            rw [← toIpv4Mapped_eq_some mapped] at bitsNat
            exact congrArg SourceIp.v6 (BitVec.eq_of_toNat_eq bitsNat)
      | none =>
          rw [normalizeSourceIp, mapped] at same
          cases first with
          | v4 bits => cases same
          | v6 bits =>
              rw [normalizeSourceIp] at same
              cases alsoMapped : toIpv4Mapped bits with
              | none =>
                  rw [alsoMapped] at same
                  exact same
              | some low =>
                  rw [alsoMapped] at same
                  cases same

end Listeners

section Sessions

open WebGateway (Sessions Attempt Process)

def CallReported (listeners : List Listener) : Event (Nat × SourceIp) Unit Empty → Prop
  | .call call => ReportedBy listeners call.2
  | _ => True

/-- The sessions of a client in either form of its address. -/
def clientPermits (state : Sessions SourceIp) (index : Nat) (client : SourceIp) : Nat :=
  state.threads.countP fun attempt =>
    attempt.permit index && normalizeSourceIp attempt.source = client

theorem move_source (process : Process SourceIp) (attempt : Attempt SourceIp) :
    (attempt.move process).2.1.source = attempt.source := by
  unfold Attempt.move
  dsimp only
  split
  · split <;> rfl
  · split <;> rfl
  all_goals rfl

/-- Every counted source was reported. -/
theorem sources_reported {listeners : List Listener}
    (events : List (Event (Nat × SourceIp) Unit Empty))
    (reported : ∀ event ∈ events, CallReported listeners event) :
    ∀ attempt ∈ (sessionRun events).threads, ReportedBy listeners attempt.source := by
  refine WebGateway.sessions.machine.run_invariant
    (fun _ event => CallReported listeners event)
    (fun state _ => ∀ attempt ∈ state.threads, ReportedBy listeners attempt.source) ?_ _ [] events
    nofun (WebGateway.sessions.machine.guarded_of_forall _ events reported)
  intro state past event met inside attempt member
  cases event with
  | call call =>
      rw [Threads.Program.machine_call] at member
      obtain earlier | last := List.mem_append.1 member
      · exact inside attempt earlier
      · rw [List.mem_singleton.1 last]
        exact met
  | advance index choice =>
      cases found : state.threads[index]? with
      | none =>
          rw [Threads.Program.machine_absent _ choice found] at member
          exact inside attempt member
      | some moved =>
          rw [Threads.Program.machine_advance _ choice found] at member
          obtain earlier | rfl := List.mem_or_eq_of_mem_set member
          · exact inside attempt earlier
          · rw [show (WebGateway.sessions.move state.shared moved choice).2.1.source =
              moved.source from move_source state.shared moved]
            exact inside moved (List.mem_of_getElem? found)
  | disturb change => exact change.elim

/-- A slot is acquired below the limit. -/
theorem acquired_iff {process : Process SourceIp} {attempt : Attempt SourceIp}
    (counting : attempt.stage = .counting) :
    .acquired attempt.limiter attempt.source ∈ (attempt.move process).2.2 ↔
      (process.limiters attempt.limiter).stored attempt.source <
        (process.limiters attempt.limiter).maxPerSource := by
  rw [Attempt.move, counting]
  dsimp only
  rw [WebGateway.ConnectionLimiter.countSource]
  by_cases full : (process.limiters attempt.limiter).maxPerSource ≤
      (process.limiters attempt.limiter).stored attempt.source
  · rw [if_pos full]
    simpa using full
  · rw [if_neg full]
    simpa using full

theorem counted_sessionRun (events : List (Event (Nat × SourceIp) Unit Empty)) :
    WebGateway.Sessions.Counted
      (fun _ => (maxWebConnections, maxWebConnectionsPerSource)) (sessionRun events) :=
  WebGateway.Sessions.Counted.run _ events

end Sessions

section Requests

open WebGateway (RateCall RateDecision RequestRateBudget)

/-- The budget of a source does not depend on how the source is written. -/
theorem run_renamed {first second : RequestRateBudget SourceIp} (source client : SourceIp)
    (requests : first.maxRequests = second.maxRequests) (window : first.window = second.window)
    (entry : first.sources source = second.sources client) {calls : List (RateCall SourceIp)}
    (own : ∀ call ∈ calls, call.source = source) :
    (RequestRateBudget.machine.run first calls).2.map RateDecision.allowed =
      (RequestRateBudget.machine.run second
        (calls.map fun call => ⟨client, call.now⟩)).2.map RateDecision.allowed := by
  induction calls generalizing first second with
  | nil => rfl
  | cons call calls ih =>
      obtain ⟨from_, now⟩ := call
      obtain rfl : from_ = source := own _ List.mem_cons_self
      rw [List.map_cons, RequestRateBudget.run_cons, RequestRateBudget.run_cons, List.map_cons,
        List.map_cons]
      have step : (first.allowAt ⟨from_, now⟩).2.allowed =
          (second.allowAt ⟨client, now⟩).2.allowed ∧
          (first.allowAt ⟨from_, now⟩).1.sources from_ =
            (second.allowAt ⟨client, now⟩).1.sources client := by
        have kept : (first.retain now).sources from_ = (second.retain now).sources client := by
          simp only [RequestRateBudget.retain, entry, window]
        simp only [RequestRateBudget.allowAt, Function.update_self, kept, requests, window,
          and_self]
      have later := @ih (first.allowAt ⟨from_, now⟩).1 (second.allowAt ⟨client, now⟩).1 requests
        window step.2 fun other member => own other (List.mem_cons_of_mem _ member)
      rw [step.1, later]

/-- A decision belongs to a call. -/
theorem mem_requestRun {calls : List (RateCall SourceIp)} {decision : RateDecision SourceIp}
    (member : decision ∈ requestRun calls) : ∃ call ∈ calls, call.source = decision.source := by
  have listed := List.mem_map_of_mem (f := fun decision : RateDecision SourceIp =>
    (⟨decision.source, decision.now⟩ : RateCall SourceIp)) member
  rw [requestRun, RequestRateBudget.run_calls] at listed
  exact ⟨_, listed, rfl⟩

/-- The decisions of a source are its own. -/
theorem requestRun_own (calls : List (RateCall SourceIp))
    (ordered : calls.Pairwise fun earlier later => earlier.now ≤ later.now) (source : SourceIp) :
    (requestRun calls).filter (fun decision => decision.source = source) =
      requestRun (calls.filter fun call => call.source = source) := by
  have alike : RequestRateBudget.Alike source 0
      (RequestRateBudget.new maxWebRequestsPerMinute webRequestWindow)
      (RequestRateBudget.new maxWebRequestsPerMinute webRequestWindow) :=
    ⟨rfl, rfl, fun _ _ => rfl⟩
  exact alike.run (by decide) ordered fun _ _ => Nat.zero_le _

end Requests

section Isolation

open WebGateway (RateCall RateDecision)

/-- The failures of a client of version 4 are in one bucket on both transports, a check of one of its
connections depends on them alone, an attempt of a client is counted where it has fewer sessions than
a source may have, and the requests of a client are decided as if it were alone. -/
structure ClientIsolation (tryIntoV4 : SourceIp → SourceIp) (webListeners : List Listener) :
    Prop where
  bucket : ∀ (arrival : Arrival) (client : BitVec 32),
    normalizeSourceIp arrival.reported = .v4 client →
    arrival.connectionAddr tryIntoV4 = .v4 client ∧
      lanAuthFailureKeys ipv6Format (arrival.source tryIntoV4) = [IpText.dotted client]
  failures : ∀ (now : Nat) (events : List (Event Arrival Choice Nat)),
    Machine.Judged (OwnRetry tryIntoV4 (arrivalsOf events)) [] (loginRun tryIntoV4 now events).2
  sessions : ∀ events : List (Event (Nat × SourceIp) Unit Empty),
    (∀ event ∈ events, CallReported webListeners event) →
    ∀ index attempt, (sessionRun events).threads[index]? = some attempt →
      attempt.stage = .counting →
      (.acquired attempt.limiter attempt.source ∈
          (WebGateway.sessions.machine.step (sessionRun events) (.advance index ())).2 ↔
        clientPermits (sessionRun events) attempt.limiter (normalizeSourceIp attempt.source) <
          maxWebConnectionsPerSource)
  requests : ∀ calls : List (RateCall SourceIp),
    (calls.Pairwise fun earlier later => earlier.now ≤ later.now) →
    (∀ call ∈ calls, ReportedBy webListeners call.source) → ∀ client,
    ((requestRun calls).filter fun decision =>
        normalizeSourceIp decision.source = client).map RateDecision.allowed =
      (requestRun ((calls.filter fun call => normalizeSourceIp call.source = client).map
        fun call => ⟨client, call.now⟩)).map RateDecision.allowed

variable {tryIntoV4 : SourceIp → SourceIp} {webListeners : List Listener}

/-- The sessions of other clients do not count. -/
theorem sessions_isolated
    (unmixed : ¬ (Listener.ipv4 ∈ webListeners ∧ Listener.dualStack ∈ webListeners))
    (events : List (Event (Nat × SourceIp) Unit Empty))
    (reported : ∀ event ∈ events, CallReported webListeners event) (index : Nat)
    (attempt : WebGateway.Attempt SourceIp)
    (found : (sessionRun events).threads[index]? = some attempt)
    (counting : attempt.stage = .counting) :
    .acquired attempt.limiter attempt.source ∈
        (WebGateway.sessions.machine.step (sessionRun events) (.advance index ())).2 ↔
      clientPermits (sessionRun events) attempt.limiter (normalizeSourceIp attempt.source) <
        maxWebConnectionsPerSource := by
  have sources := sources_reported events reported
  have own := sources attempt (List.mem_of_getElem? found)
  have counted := counted_sessionRun events
  have permits : (sessionRun events).permitsOf attempt.limiter attempt.source =
      clientPermits (sessionRun events) attempt.limiter (normalizeSourceIp attempt.source) := by
    refine List.countP_congr fun other member => ?_
    have forms : other.source = attempt.source ↔
        normalizeSourceIp other.source = normalizeSourceIp attempt.source :=
      ⟨fun same => congrArg normalizeSourceIp same, reported_eq unmixed (sources other member) own⟩
    simp only [WebGateway.Attempt.permitOf, forms]
  rw [Threads.Program.machine_advance _ () found]
  refine (acquired_iff counting).trans ?_
  rw [counted.counts, counted.fixed, permits]

/-- The requests of other clients do not count. -/
theorem requests_isolated
    (unmixed : ¬ (Listener.ipv4 ∈ webListeners ∧ Listener.dualStack ∈ webListeners))
    (calls : List (RateCall SourceIp))
    (ordered : calls.Pairwise fun earlier later => earlier.now ≤ later.now)
    (reported : ∀ call ∈ calls, ReportedBy webListeners call.source) (client : SourceIp) :
    ((requestRun calls).filter fun decision =>
        normalizeSourceIp decision.source = client).map RateDecision.allowed =
      (requestRun ((calls.filter fun call => normalizeSourceIp call.source = client).map
        fun call => ⟨client, call.now⟩)).map RateDecision.allowed := by
  by_cases present : ∃ call ∈ calls, normalizeSourceIp call.source = client
  · obtain ⟨known, member, rfl⟩ := present
    have forms {call : RateCall SourceIp} (listed : call ∈ calls) :
        normalizeSourceIp call.source = normalizeSourceIp known.source ↔
          call.source = known.source :=
      ⟨reported_eq unmixed (reported call listed) (reported known member),
        fun same => congrArg normalizeSourceIp same⟩
    have decisions : (requestRun calls).filter (fun decision =>
        normalizeSourceIp decision.source = normalizeSourceIp known.source) =
        (requestRun calls).filter fun decision => decision.source = known.source := by
      refine List.filter_congr fun decision decided => ?_
      obtain ⟨call, listed, same⟩ := mem_requestRun decided
      rw [← same]
      exact decide_eq_decide.2 (forms listed)
    have own : calls.filter (fun call =>
        normalizeSourceIp call.source = normalizeSourceIp known.source) =
        calls.filter fun call => call.source = known.source :=
      List.filter_congr fun call listed => decide_eq_decide.2 (forms listed)
    rw [decisions, own, requestRun_own calls ordered]
    exact run_renamed known.source (normalizeSourceIp known.source) rfl rfl rfl fun call listed =>
      of_decide_eq_true (List.mem_filter.1 listed).2
  · have none_ : calls.filter (fun call => normalizeSourceIp call.source = client) = [] :=
      List.filter_eq_nil_iff.2 fun call listed same =>
        present ⟨call, listed, of_decide_eq_true same⟩
    have undecided : (requestRun calls).filter (fun decision =>
        normalizeSourceIp decision.source = client) = [] := by
      refine List.filter_eq_nil_iff.2 fun decision decided same => ?_
      obtain ⟨call, listed, equal⟩ := mem_requestRun decided
      exact present ⟨call, listed, (congrArg normalizeSourceIp equal).trans
        (of_decide_eq_true same)⟩
    rw [none_, undecided]
    rfl

/-- A client with four sessions under its own address asks for a fifth one under the mapped one. -/
def bothForms : List (Event (Nat × SourceIp) Unit Empty) :=
  (List.range 4).flatMap (fun index =>
      [.call (0, .v4 0x0A000007), .advance index (), .advance index ()]) ++
    [.call (0, .v6 0xFFFF0A000007), .advance 4 ()]

/-- Both forms of one client can be reported. -/
theorem bothForms_reported {webListeners : List Listener}
    (ipv4 : Listener.ipv4 ∈ webListeners) (dualStack : Listener.dualStack ∈ webListeners) :
    ∀ event ∈ bothForms, CallReported webListeners event := by
  have forms : ∀ event ∈ bothForms,
      event = .call (0, .v4 0x0A000007) ∨ event = .call (0, .v6 0xFFFF0A000007) ∨
        ∃ index ∈ List.range 5, event = .advance index () := by decide
  intro event member
  obtain rfl | rfl | ⟨index, -, rfl⟩ := forms event member
  · exact ⟨.ipv4, ipv4, rfl⟩
  · exact ⟨.dualStack, dualStack, rfl⟩
  · trivial

/-- Both families together mix up clients. -/
theorem not_isolated_of_mixed (ipv4 : Listener.ipv4 ∈ webListeners)
    (dualStack : Listener.dualStack ∈ webListeners) :
    ¬ ClientIsolation tryIntoV4 webListeners := by
  intro isolated
  have fifth := (isolated.sessions bothForms (bothForms_reported ipv4 dualStack) 4
    ⟨0, .v6 0xFFFF0A000007, .counting⟩ (by decide +kernel) rfl).1 (by decide +kernel)
  exact absurd fifth (by decide +kernel)

/-- Clients are isolated exactly when the listeners of the gateway report a client of version 4 in one
form. -/
theorem client_isolation_iff (law : KeepsClients tryIntoV4) :
    ClientIsolation tryIntoV4 webListeners ↔
      ¬ (Listener.ipv4 ∈ webListeners ∧ Listener.dualStack ∈ webListeners) := by
  constructor
  · rintro isolated ⟨ipv4, dualStack⟩
    exact not_isolated_of_mixed ipv4 dualStack isolated
  · intro unmixed
    refine ⟨fun arrival client same => ?_, fun now events => ?_, sessions_isolated unmixed,
      requests_isolated unmixed⟩
    · have known := connectionAddr_v4 law same
      exact ⟨known, lanAuthFailureKeys_dotted (source_ip_eq_dotted.2 known)⟩
    · exact judged_ownRetry nofun (follows_run now events).traced
        (sound_loginRun now events).justified

/-- The conversion as it is published: a loopback of version 6 stays, and mapped and compatible
addresses become their client. -/
def publishedTryIntoV4 : SourceIp → SourceIp
  | .v4 bits => .v4 bits
  | .v6 bits =>
      if bits = 1 then .v6 bits
      else if bits.extractLsb' 32 96 = 0xFFFF ∨ bits.extractLsb' 32 96 = 0 then
        .v4 (bits.extractLsb' 0 32)
      else .v6 bits

theorem keepsClients_published : KeepsClients publishedTryIntoV4 where
  v4 _ := rfl
  mapped bits low mapped := by
    have value := toIpv4Mapped_eq_some mapped
    rw [toIpv4Mapped] at mapped
    split at mapped
    · next high =>
        have notLoopback : bits ≠ 1 := by
          rintro rfl
          exact absurd high (by decide)
        rw [publishedTryIntoV4, if_neg notLoopback, if_pos (Or.inl high), Option.some.inj mapped]
    · cases mapped

/-- One listener for both keeps clients apart. -/
theorem dual_stack_isolated : ClientIsolation publishedTryIntoV4 [.dualStack] :=
  (client_isolation_iff keepsClients_published).2 (by decide)

/-- A listener for version 4 beside one for both versions gives a client twice its sessions. -/
theorem mixed_listeners_double :
    KeepsClients publishedTryIntoV4 ∧
      ¬ ClientIsolation publishedTryIntoV4 [.ipv4, .dualStack] ∧
      clientPermits (sessionRun (bothForms ++ [.advance 4 ()])) 0 (.v4 0x0A000007) = 5 ∧
      maxWebConnectionsPerSource = 4 :=
  ⟨keepsClients_published, not_isolated_of_mixed (by decide) (by decide), by decide +kernel, rfl⟩

end Isolation

end SubnetDesk.SourceIdentity
