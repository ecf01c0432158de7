import SubnetDesk.Construction.Terminal.Service
import SubnetDesk.Proof.Terminal.SessionSteps

namespace SubnetDesk.Terminal

namespace PersistentTerminalService

/-- The serial number of the session under an id. -/
def serialAt (service : PersistentTerminalService) (terminalId : Int) : Option Nat :=
  (service.sessions.lookup terminalId).map TerminalSession.serial

/-- A stored session has its serial. -/
theorem serialAt_store (service : PersistentTerminalService) (terminalId other : Int)
    (session : TerminalSession) :
    (service.store terminalId session).serialAt other =
      if other = terminalId then some session.serial else service.serialAt other := by
  unfold serialAt store
  split
  next same =>
    subst same
    rw [AList.lookup_insert, Option.map_some]
  next differs => rw [AList.lookup_insert_ne differs]

/-- A removed terminal has no serial. -/
theorem serialAt_remove (service : PersistentTerminalService) (terminalId other : Int) :
    (service.remove terminalId).serialAt other =
      if other = terminalId then none else service.serialAt other := by
  unfold serialAt remove
  split
  next same =>
    subst same
    rw [AList.lookup_erase, Option.map_none]
  next differs => rw [AList.lookup_erase_ne differs]

/-- Storing a session in its own place changes no serial number. -/
theorem serialAt_store_same {service : PersistentTerminalService} {terminalId : Int}
    {session changed : TerminalSession}
    (found : service.sessions.lookup terminalId = some session)
    (serial : changed.serial = session.serial) :
    (service.store terminalId changed).serialAt = service.serialAt := by
  funext other
  rw [serialAt_store]
  split
  next same => rw [same, serialAt, found, serial, Option.map_some]
  next => rfl

/-- An update keeps the serials. -/
theorem serialAt_update (service : PersistentTerminalService) (terminalId : Int)
    (change : TerminalSession → TerminalSession)
    (keeps : ∀ session, (change session).serial = session.serial) :
    (service.update terminalId change).serialAt = service.serialAt := by
  unfold update
  split
  next => rfl
  next session found => exact serialAt_store_same found (keeps session)

theorem update_created (service : PersistentTerminalService) (terminalId : Int)
    (change : TerminalSession → TerminalSession) :
    (service.update terminalId change).created = service.created := by
  unfold update
  split
  next => rfl
  next => rfl

/-- A reset keeps the serials. -/
theorem resetStatus_serialAt (service : PersistentTerminalService) (isPersistent : Bool) :
    (service.resetStatus isPersistent).serialAt = service.serialAt ∧
      (service.resetStatus isPersistent).created = service.created := by
  unfold resetStatus
  suffices general : ∀ (ids : List Int) (reset : PersistentTerminalService),
      reset.serialAt = service.serialAt → reset.created = service.created →
        (ids.foldl (fun reset terminalId => reset.update terminalId TerminalSession.reset)
            reset).serialAt = service.serialAt ∧
          (ids.foldl (fun reset terminalId => reset.update terminalId TerminalSession.reset)
            reset).created = service.created from general _ _ rfl rfl
  intro ids
  induction ids with
  | nil => exact fun reset serials created => ⟨serials, created⟩
  | cons id rest ih =>
      intro reset serials created
      apply ih
      · rw [serialAt_update reset id TerminalSession.reset fun _ => rfl, serials]
      · rw [update_created, created]

end PersistentTerminalService

theorem TerminalSession.read_serial (session : TerminalSession) (read : ReaderRead) :
    (session.read read).serial = session.serial := by
  have sent (data : Bytes) : (session.trySendOutput data).1.serial = session.serial := by
    unfold trySendOutput
    split
    next => rfl
    next =>
      split
      next => rfl
      next => rfl
  unfold TerminalSession.read
  split
  next => rfl
  next =>
    cases read with
    | data first more =>
        dsimp only [readerStep]
        split
        next => rfl
        next =>
          split
          next => rfl
          next data _ => exact sent data
    | eof =>
        dsimp only [readerStep]
        split
        next data _ => exact sent data
        next => rfl
    | wouldBlock =>
        dsimp only [readerStep]
        split
        next => rfl
        next => rfl
    | error => rfl

theorem TerminalSession.poll_serial (compression : Compression) (terminalId : Int)
    (session : TerminalSession) (answer : PollAnswer) :
    (session.poll compression terminalId answer).1.serial = session.serial := by
  obtain ⟨sent, outputRx, outputBuffer, ⟨-, polled⟩ | ⟨_, sigwinch, -, polled⟩⟩ :=
    session.poll_cases compression terminalId answer
  · rw [polled]
  · obtain ⟨size, phase, redrawn⟩ := TerminalSession.redraw_frame _ sigwinch answer.resizes
    rw [polled, redrawn]

/-- A poll closes an ended session. -/
theorem TerminalSession.poll_closed {compression : Compression} {terminalId : Int}
    {session : TerminalSession} {answer : PollAnswer}
    (closes : (session.poll compression terminalId answer).2.2 = true) :
    session.ended answer.waitFails = true := by
  dsimp only [poll, checkClosed] at closes
  split at closes
  next => cases closes
  next => exact closes

namespace PersistentTerminalService

/-- A poll of one session changes no serial number and finds only ended sessions. -/
structure Polled (service : PersistentTerminalService) (answers : Int → PollAnswer)
    (polled : PersistentTerminalService × List TerminalResponse × List Int) : Prop where
  serials : polled.1.serialAt = service.serialAt
  created : polled.1.created = service.created
  ended : ∀ terminalId ∈ polled.2.2, ∃ session,
    service.sessions.lookup terminalId = some session ∧
      session.ended (answers terminalId).waitFails = true

/-- A poll of one session polls it once. -/
theorem Polled.pollSession {service : PersistentTerminalService} {answers : Int → PollAnswer}
    {polled : PersistentTerminalService × List TerminalResponse × List Int}
    (holds : service.Polled answers polled) (compression : Compression) (terminalId : Int)
    (fresh : polled.1.sessions.lookup terminalId = service.sessions.lookup terminalId) :
    service.Polled answers (pollSession compression answers polled terminalId) ∧
      ∀ other, other ≠ terminalId →
        (pollSession compression answers polled terminalId).1.sessions.lookup other =
          polled.1.sessions.lookup other := by
  unfold PersistentTerminalService.pollSession
  split
  next => exact ⟨holds, fun _ _ => rfl⟩
  next session found =>
    split
    next => exact ⟨holds, fun _ _ => rfl⟩
    next =>
      refine ⟨⟨?_, holds.created, ?_⟩, fun other differs => AList.lookup_insert_ne differs⟩
      · rw [← holds.serials]
        exact serialAt_store_same found (session.poll_serial compression terminalId _)
      · intro ended
        dsimp only
        split
        next closes =>
          rw [List.mem_append, List.mem_singleton]
          rintro (before | rfl)
          · exact holds.ended ended before
          · exact ⟨session, fresh.symm.trans found, TerminalSession.poll_closed closes⟩
        next => exact holds.ended ended

/-- A poll reaches every session once. -/
theorem Polled.foldl {service : PersistentTerminalService} {answers : Int → PollAnswer}
    (compression : Compression) (ids : List Int) (distinct : ids.Nodup)
    (polled : PersistentTerminalService × List TerminalResponse × List Int)
    (holds : service.Polled answers polled)
    (fresh : ∀ id ∈ ids, polled.1.sessions.lookup id = service.sessions.lookup id) :
    service.Polled answers
      (ids.foldl (PersistentTerminalService.pollSession compression answers) polled) := by
  induction ids generalizing polled with
  | nil => exact holds
  | cons id rest ih =>
      obtain ⟨absent, distinct⟩ := List.nodup_cons.mp distinct
      obtain ⟨next, others⟩ :=
        holds.pollSession compression id (fresh id List.mem_cons_self)
      refine ih distinct _ next fun other member => ?_
      have differs : other ≠ id := fun same => absent (same ▸ member)
      rw [others other differs]
      exact fresh other (List.mem_cons_of_mem _ member)

/-- The cleanup removes only the listed sessions and reports each of them. -/
structure Cleaned (service : PersistentTerminalService) (ids : List Int)
    (cleaned : PersistentTerminalService × List TerminalResponse) : Prop where
  created : cleaned.1.created = service.created
  kept : ∀ id, id ∉ ids → cleaned.1.serialAt id = service.serialAt id
  fewer : ∀ id, cleaned.1.serialAt id = none ∨ cleaned.1.serialAt id = service.serialAt id
  reported : ∀ id ∈ ids, ∃ exitCode, TerminalResponse.closed id exitCode ∈ cleaned.2

/-- A clean-up removes its terminal. -/
theorem cleanUp_serialAt (proxy : TerminalServiceProxy) (answers : Int → PollAnswer)
    (cleaned : PersistentTerminalService × List TerminalResponse) (id other : Int) :
    (cleanUp proxy answers cleaned id).1.serialAt other = cleaned.1.serialAt other ∨
      other = id ∧ (cleanUp proxy answers cleaned id).1.serialAt other = none := by
  unfold cleanUp
  split
  next => exact .inl rfl
  next session found =>
    dsimp only
    split
    next =>
      rw [serialAt_remove]
      split
      next same => exact .inr ⟨same, rfl⟩
      next => exact .inl rfl
    next =>
      left
      rw [serialAt_store_same found]
      rfl

/-- A clean-up reports its terminal. -/
theorem cleanUp_responses (proxy : TerminalServiceProxy) (answers : Int → PollAnswer)
    (cleaned : PersistentTerminalService × List TerminalResponse) (id : Int) :
    (cleanUp proxy answers cleaned id).1.created = cleaned.1.created ∧
      ∃ exitCode, (cleanUp proxy answers cleaned id).2 =
        cleaned.2 ++ [.closed id exitCode] := by
  unfold cleanUp
  split
  next => exact ⟨rfl, 0, rfl⟩
  next session found =>
    dsimp only
    refine ⟨?_, _, rfl⟩
    split
    next => rfl
    next => rfl

/-- A clean-up of one session cleans it. -/
theorem Cleaned.cleanUp {service : PersistentTerminalService} {ids : List Int}
    {cleaned : PersistentTerminalService × List TerminalResponse}
    (holds : service.Cleaned ids cleaned) (proxy : TerminalServiceProxy)
    (answers : Int → PollAnswer) (id : Int) :
    service.Cleaned (ids ++ [id]) (cleanUp proxy answers cleaned id) := by
  obtain ⟨created, exitCode, reports⟩ := cleanUp_responses proxy answers cleaned id
  refine ⟨created.trans holds.created, ?_, ?_, ?_⟩
  · intro other unlisted
    rw [List.mem_append, List.mem_singleton, not_or] at unlisted
    rcases cleanUp_serialAt proxy answers cleaned id other with same | ⟨named, -⟩
    · rw [same, holds.kept other unlisted.1]
    · exact absurd named unlisted.2
  · intro other
    rcases cleanUp_serialAt proxy answers cleaned id other with same | ⟨-, removed⟩
    · rw [same]
      exact holds.fewer other
    · exact .inl removed
  · intro other listed
    rw [reports]
    rcases List.mem_append.mp listed with before | named
    · obtain ⟨code, reported⟩ := holds.reported other before
      exact ⟨code, List.mem_append_left _ reported⟩
    · rw [List.mem_singleton] at named
      subst named
      exact ⟨exitCode, List.mem_append_right _ (List.mem_singleton_self _)⟩

/-- A clean-up reaches every session. -/
theorem Cleaned.foldl {service : PersistentTerminalService} (proxy : TerminalServiceProxy)
    (answers : Int → PollAnswer) (ids before : List Int)
    (cleaned : PersistentTerminalService × List TerminalResponse)
    (holds : service.Cleaned before cleaned) :
    service.Cleaned (before ++ ids)
      (ids.foldl (PersistentTerminalService.cleanUp proxy answers) cleaned) := by
  induction ids generalizing before cleaned with
  | nil => simpa using holds
  | cons id rest ih =>
      have next := ih (before ++ [id]) _ (holds.cleanUp proxy answers id)
      rwa [List.append_assoc, List.singleton_append] at next

/-- A poll of the service removes only ended sessions and reports each of them. -/
theorem readOutputs_cleaned (compression : Compression) (proxy : TerminalServiceProxy)
    (service : PersistentTerminalService) (answers : Int → PollAnswer) :
    ∃ ids, service.Cleaned ids (service.readOutputs compression proxy answers) ∧
      ∀ id ∈ ids, ∃ session, service.sessions.lookup id = some session ∧
        session.ended (answers id).waitFails = true := by
  have polled : service.Polled answers (service.sessions.keys.foldl
      (PersistentTerminalService.pollSession compression answers) (service, [], [])) :=
    Polled.foldl compression _ service.sessions.keys_nodup _ ⟨rfl, rfl, by simp⟩ fun _ _ => rfl
  unfold readOutputs
  dsimp only
  revert polled
  generalize service.sessions.keys.foldl
    (PersistentTerminalService.pollSession compression answers) (service, [], []) = polled
  intro holds
  refine ⟨polled.2.2, ?_, holds.ended⟩
  have starts : service.Cleaned [] (polled.1, polled.2.1) :=
    ⟨holds.created, fun id _ => congrFun holds.serials id,
      fun id => .inr (congrFun holds.serials id), by simp⟩
  exact starts.foldl proxy answers polled.2.2 [] _

/-- A remap happens after a reconnect for an unknown id, and moves the lowest session. -/
theorem remap_cases (service : PersistentTerminalService) (terminalId : Int) :
    (service.remap terminalId = service ∧
        ¬ (terminalId ∉ service.sessions ∧ service.needsSessionSync = true ∧
          service.sessions.keys ≠ [])) ∨
      (terminalId ∉ service.sessions ∧ service.needsSessionSync = true) ∧
        ∃ lowestId session, service.sessions.keys.min? = some lowestId ∧
          service.sessions.lookup lowestId = some session ∧
          service.remap terminalId = (service.remove lowestId).store terminalId session := by
  unfold remap
  split
  next moves =>
    refine .inr ⟨⟨moves.1, moves.2.1⟩, ?_⟩
    split
    next none_ => exact absurd (List.min?_eq_none_iff.mp none_) moves.2.2
    next lowestId lowest =>
      have member : lowestId ∈ service.sessions.keys := List.min?_mem lowest
      have found : (service.sessions.lookup lowestId).isSome = true :=
        AList.lookup_isSome.mpr (AList.mem_keys.mpr member)
      obtain ⟨session, found⟩ := Option.isSome_iff_exists.mp found
      rw [found]
      exact ⟨lowestId, session, lowest, found, rfl⟩
  next stays => exact .inl ⟨rfl, stays⟩

/-- An open request finds its session, takes over the lowest one, or creates a new one. -/
inductive Opens (service : PersistentTerminalService) (terminalId : Int)
    (opened : PersistentTerminalService) : Prop where
  | known (present : terminalId ∈ service.sessions)
      (serials : opened.serialAt = service.serialAt) (created : opened.created = service.created)
  | remapped (lowestId : Int) (absent : terminalId ∉ service.sessions)
      (reconnects : service.needsSessionSync = true) (member : lowestId ∈ service.sessions)
      (lowest : ∀ other ∈ service.sessions, lowestId ≤ other)
      (serials : ∀ other, opened.serialAt other =
        if other = terminalId then service.serialAt lowestId
        else if other = lowestId then none else service.serialAt other)
      (created : opened.created = service.created)
  | fresh (absent : terminalId ∉ service.sessions)
      (alone : service.needsSessionSync = false ∨ service.sessions.keys = [])
      (serials : ∀ other, opened.serialAt other =
        if other = terminalId then some service.created else service.serialAt other)
      (created : opened.created = service.created + 1)

/-- The reply names the other sessions after a reconnect, and no session otherwise. -/
def Names (service : PersistentTerminalService) (terminalId : Int)
    (opened : PersistentTerminalService) (persistentSessions : List Int) : Prop :=
  ∀ other, other ∈ persistentSessions ↔
    service.needsSessionSync = true ∧ other ≠ terminalId ∧ other ∈ opened.sessions

theorem mem_store (service : PersistentTerminalService) (terminalId other : Int)
    (session : TerminalSession) :
    other ∈ (service.store terminalId session).sessions ↔
      other = terminalId ∨ other ∈ service.sessions :=
  AList.mem_insert service.sessions

/-- A reconnect keeps the session. -/
theorem reconnect_spec (service : PersistentTerminalService) (terminalId : Int)
    {session : TerminalSession} (found : service.sessions.lookup terminalId = some session) :
    (service.reconnect terminalId session).1.serialAt = service.serialAt ∧
      (service.reconnect terminalId session).1.created = service.created ∧
      ∃ message pid persistentSessions replays, (service.reconnect terminalId session).2 =
          .opened terminalId true message pid service.serviceId persistentSessions replays ∧
        service.Names terminalId (service.reconnect terminalId session).1 persistentSessions := by
  have present : terminalId ∈ service.sessions := by
    rw [← AList.lookup_isSome, found]
    rfl
  refine ⟨serialAt_store_same found rfl, rfl, _, _, _, _, rfl, fun other => ?_⟩
  change _ ↔ _ ∧ _ ∧ other ∈ (service.store terminalId session.reopen.1).sessions
  rw [mem_store, AList.mem_keys]
  split
  next several =>
    rw [List.mem_filter, decide_eq_true_eq]
    constructor
    · rintro ⟨member, differs⟩
      exact ⟨several.1, differs, .inr member⟩
    · rintro ⟨-, differs, same | member⟩
      · exact absurd same differs
      · exact ⟨member, differs⟩
  next single =>
    simp only [List.not_mem_nil, false_iff]
    rintro ⟨reconnects, differs, same | member⟩
    · exact differs same
    · have few : service.sessions.keys.length ≤ 1 := by
        rw [not_and, not_lt] at single
        exact single reconnects
      rcases Nat.le_one_iff_eq_zero_or_eq_one.mp few with none_ | one
      · rw [List.eq_nil_of_length_eq_zero none_] at member
        cases member
      · obtain ⟨only, keys⟩ := List.length_eq_one_iff.mp one
        rw [AList.mem_keys, keys, List.mem_singleton] at present
        rw [keys, List.mem_singleton] at member
        exact differs (member.trans present.symm)

/-- A new session has a new serial. -/
theorem create_spec (service : PersistentTerminalService) (request : OpenTerminal)
    (isHelperMode : Bool) (pid : Nat) (absent : request.terminalId ∉ service.sessions) :
    (∀ other, (service.create request isHelperMode pid).1.serialAt other =
        if other = request.terminalId then some service.created else service.serialAt other) ∧
      ∃ message persistentSessions replays, (service.create request isHelperMode pid).2 =
          .opened request.terminalId true message pid service.serviceId persistentSessions
            replays ∧
        service.Names request.terminalId (service.create request isHelperMode pid).1
          persistentSessions := by
  refine ⟨fun other => ?_, _, _, _, rfl, fun other => ?_⟩
  · exact serialAt_store service request.terminalId other
      (.spawned service.created pid request.rows request.cols isHelperMode)
  · change _ ↔ _ ∧ _ ∧ other ∈ (service.store request.terminalId
      (.spawned service.created pid request.rows request.cols isHelperMode)).sessions
    rw [mem_store, AList.mem_keys]
    split
    next reconnects =>
      constructor
      · intro member
        refine ⟨reconnects, fun same => absent ?_, .inr member⟩
        rw [← same, AList.mem_keys]
        exact member
      · rintro ⟨-, differs, same | member⟩
        · exact absurd same differs
        · exact member
    next first =>
      simp only [List.not_mem_nil, false_iff]
      exact fun names => first names.1

/-- A refused open request changes nothing, and a granted one has one of three effects. -/
theorem handleOpen_cases (proxy : TerminalServiceProxy) (service : PersistentTerminalService)
    (request : OpenTerminal) (answer : OpenAnswer) :
    ((service.handleOpen proxy request answer).1 = service ∧
        ∃ error, (service.handleOpen proxy request answer).2 = .error error) ∨
      service.Opens request.terminalId (service.handleOpen proxy request answer).1 ∧
        ∃ message pid persistentSessions replays,
          (service.handleOpen proxy request answer).2 =
              .ok (.opened request.terminalId true message pid service.serviceId
                persistentSessions replays) ∧
            service.Names request.terminalId (service.handleOpen proxy request answer).1
              persistentSessions := by
  unfold handleOpen
  dsimp only
  rcases service.remap_cases request.terminalId with
    ⟨same, stays⟩ | ⟨⟨absent, reconnects⟩, lowestId, moved, lowest, found, moves⟩
  · rw [same]
    cases found : service.sessions.lookup request.terminalId with
    | some session =>
        obtain ⟨serials, created, message, pid, persistentSessions, replays, reply, names⟩ :=
          service.reconnect_spec request.terminalId found
        have present : request.terminalId ∈ service.sessions := by
          rw [← AList.lookup_isSome, found]
          rfl
        exact .inr ⟨.known present serials created, message, pid, persistentSessions, replays,
          congrArg Except.ok reply, names⟩
    | none =>
        have absent : request.terminalId ∉ service.sessions := AList.lookup_eq_none.mp found
        cases answer with
        | failed error => exact .inl ⟨rfl, error, rfl⟩
        | started pid =>
            obtain ⟨serials, message, persistentSessions, replays, reply, names⟩ :=
              service.create_spec request proxy.hasUserToken pid absent
            have alone : service.needsSessionSync = false ∨ service.sessions.keys = [] := by
              by_contra several
              rw [not_or, Bool.not_eq_false] at several
              exact stays ⟨absent, several⟩
            exact .inr ⟨.fresh absent alone serials rfl, message, pid, persistentSessions,
              replays, congrArg Except.ok reply, names⟩
  · have stored : ((service.remove lowestId).store request.terminalId moved).sessions.lookup
        request.terminalId = some moved := AList.lookup_insert _
    have member : lowestId ∈ service.sessions := by
      rw [← AList.lookup_isSome, found]
      rfl
    rw [moves, stored]
    obtain ⟨serials, created, message, pid, persistentSessions, replays, reply, names⟩ :=
      ((service.remove lowestId).store request.terminalId moved).reconnect_spec
        request.terminalId stored
    refine .inr ⟨.remapped lowestId absent reconnects member ?_ ?_ created, message, pid,
      persistentSessions, replays, congrArg Except.ok reply, names⟩
    · intro other present
      exact (List.min?_eq_some_iff.mp lowest).2 other (AList.mem_keys.mp present)
    · intro other
      rw [serials, serialAt_store, serialAt_remove, serialAt, serialAt, found, Option.map_some]

/-- Every session has a serial number of its own. -/
structure Sound (service : PersistentTerminalService) : Prop where
  bounded : ∀ id serial, service.serialAt id = some serial → serial < service.created
  distinct : ∀ id other serial, service.serialAt id = some serial →
    service.serialAt other = some serial → id = other

/-- A new service is sound. -/
theorem sound_new (serviceId : String) (isPersistent : Bool) :
    (PersistentTerminalService.new serviceId isPersistent).Sound := by
  constructor
  · intro id serial found
    cases found
  · intro id other serial found
    cases found

/-- A service with fewer sessions is sound. -/
theorem Sound.of_fewer {service next : PersistentTerminalService} (sound : service.Sound)
    (created : next.created = service.created)
    (fewer : ∀ id, next.serialAt id = none ∨ next.serialAt id = service.serialAt id) :
    next.Sound := by
  have kept (id : Int) (serial : Nat) (found : next.serialAt id = some serial) :
      service.serialAt id = some serial := by
    rcases fewer id with absent | same
    · rw [absent] at found
      cases found
    · rwa [same] at found
  constructor
  · intro id serial found
    rw [created]
    exact sound.bounded id serial (kept id serial found)
  · intro id other serial first second
    exact sound.distinct id other serial (kept id serial first) (kept other serial second)

theorem serialAt_absent {service : PersistentTerminalService} {terminalId : Int}
    (absent : terminalId ∉ service.sessions) : service.serialAt terminalId = none := by
  rw [serialAt, AList.lookup_eq_none.mpr absent, Option.map_none]

/-- Under an open request a session keeps its id or takes the requested one. -/
theorem Opens.survives {service opened : PersistentTerminalService} {terminalId : Int}
    (opens : service.Opens terminalId opened) {id : Int} {serial : Nat}
    (found : service.serialAt id = some serial) : ∃ now, opened.serialAt now = some serial := by
  cases opens with
  | known present serials created => exact ⟨id, by rw [serials, found]⟩
  | remapped lowestId absent reconnects member lowest serials created =>
      have differs : id ≠ terminalId := by
        rintro rfl
        rw [serialAt_absent absent] at found
        cases found
      by_cases moves : id = lowestId
      · refine ⟨terminalId, ?_⟩
        rw [serials, if_pos rfl, ← moves, found]
      · refine ⟨id, ?_⟩
        rw [serials, if_neg differs, if_neg moves, found]
  | fresh absent alone serials created =>
      have differs : id ≠ terminalId := by
        rintro rfl
        rw [serialAt_absent absent] at found
        cases found
      refine ⟨id, ?_⟩
      rw [serials, if_neg differs, found]

/-- An open terminal is sound. -/
theorem Opens.sound {service opened : PersistentTerminalService} {terminalId : Int}
    (opens : service.Opens terminalId opened) (sound : service.Sound) : opened.Sound := by
  cases opens with
  | known present serials created =>
      exact sound.of_fewer created fun id => .inr (congrFun serials id)
  | remapped lowestId absent reconnects member lowest serials created =>
      have origin (id : Int) (serial : Nat) (found : opened.serialAt id = some serial) :
          (id = terminalId ∧ service.serialAt lowestId = some serial) ∨
            (id ≠ lowestId ∧ service.serialAt id = some serial) := by
        rw [serials] at found
        split at found
        next same => exact .inl ⟨same, found⟩
        next =>
          split at found
          next => cases found
          next differs => exact .inr ⟨differs, found⟩
      constructor
      · intro id serial found
        rw [created]
        rcases origin id serial found with ⟨-, old⟩ | ⟨-, old⟩
        · exact sound.bounded lowestId serial old
        · exact sound.bounded id serial old
      · intro id other serial first second
        rcases origin id serial first with ⟨here, old⟩ | ⟨differs, old⟩
        · rcases origin other serial second with ⟨there, -⟩ | ⟨apart, same⟩
          · exact here.trans there.symm
          · exact absurd (sound.distinct other lowestId serial same old) apart
        · rcases origin other serial second with ⟨-, same⟩ | ⟨-, same⟩
          · exact absurd (sound.distinct id lowestId serial old same) differs
          · exact sound.distinct id other serial old same
  | fresh absent alone serials created =>
      have origin (id : Int) (serial : Nat) (found : opened.serialAt id = some serial) :
          (id = terminalId ∧ serial = service.created) ∨
            (serial < service.created ∧ service.serialAt id = some serial) := by
        rw [serials] at found
        split at found
        next same => exact .inl ⟨same, (Option.some.inj found).symm⟩
        next => exact .inr ⟨sound.bounded id serial found, found⟩
      constructor
      · intro id serial found
        rcases origin id serial found with ⟨-, new_⟩ | ⟨old, -⟩
        · omega
        · omega
      · intro id other serial first second
        rcases origin id serial first with ⟨here, new_⟩ | ⟨old, first⟩
        · rcases origin other serial second with ⟨there, -⟩ | ⟨old, -⟩
          · exact here.trans there.symm
          · omega
        · rcases origin other serial second with ⟨-, new_⟩ | ⟨-, second⟩
          · omega
          · exact sound.distinct id other serial first second

/-- A session departs by a close request for its id or by the report of its own end. -/
def Departs (compression : Compression) (service : PersistentTerminalService) (serial : Nat) :
    ServiceInput → Prop
  | .close terminalId _ => service.serialAt terminalId = some serial
  | .readOutputs proxy answers =>
      ∃ terminalId session exitCode, service.sessions.lookup terminalId = some session ∧
        session.serial = serial ∧ session.ended (answers terminalId).waitFails = true ∧
        .closed terminalId exitCode ∈ (service.readOutputs compression proxy answers).2
  | _ => False

/-- A step keeps every session that does not depart, and numbers a new one. -/
structure Steps (compression : Compression) (service : PersistentTerminalService)
    (input : ServiceInput) (next : PersistentTerminalService) : Prop where
  sound : next.Sound
  survives : ∀ id serial, service.serialAt id = some serial →
    (∃ now, next.serialAt now = some serial) ∨ service.Departs compression serial input
  created : next.created = service.created ∨
    next.created = service.created + 1 ∧ ∃ id, next.serialAt id = some service.created

/-- An input that keeps the serials is a step. -/
theorem Sound.steps_same {service next : PersistentTerminalService} (sound : service.Sound)
    (compression : Compression) (input : ServiceInput) (serials : next.serialAt = service.serialAt)
    (created : next.created = service.created) : service.Steps compression input next :=
  ⟨sound.of_fewer created fun id => .inr (congrFun serials id),
    fun id serial found => .inl ⟨id, by rw [serials, found]⟩, .inl created⟩

/-- Every input is a step. -/
theorem Sound.step {service : PersistentTerminalService} (sound : service.Sound)
    (compression : Compression) (input : ServiceInput) :
    service.Steps compression input ((serviceMachine compression).step service input).1 := by
  cases input with
  | resetStatus isPersistent =>
      obtain ⟨serials, created⟩ := service.resetStatus_serialAt isPersistent
      exact sound.steps_same compression _ serials created
  | open_ proxy request answer =>
      dsimp only [serviceMachine]
      rcases service.handleOpen_cases proxy request answer with ⟨same, -⟩ | ⟨opens, -⟩
      · rw [same]
        exact sound.steps_same compression _ rfl rfl
      · refine ⟨opens.sound sound, fun id serial found => .inl (opens.survives found), ?_⟩
        cases opens with
        | known present serials created => exact .inl created
        | remapped lowestId absent reconnects member lowest serials created => exact .inl created
        | fresh absent alone serials created =>
            refine .inr ⟨created, request.terminalId, ?_⟩
            rw [serials, if_pos rfl]
  | resize terminalId rows cols resizes =>
      refine sound.steps_same compression _ ?_ (service.update_created terminalId _)
      refine service.serialAt_update terminalId _ fun session => ?_
      obtain ⟨size, resized⟩ := session.handleResize_frame rows cols resizes
      rw [resized]
  | close terminalId killFails =>
      dsimp only [serviceMachine, handleClose]
      split
      next => exact sound.steps_same compression _ rfl rfl
      next session found =>
        refine ⟨sound.of_fewer rfl fun id => ?_, fun id serial registered => ?_, .inl rfl⟩
        · rw [serialAt_remove]
          split
          next => exact .inl rfl
          next => exact .inr rfl
        · by_cases closes : id = terminalId
          · exact .inr (closes ▸ registered)
          · refine .inl ⟨id, ?_⟩
            rw [serialAt_remove, if_neg closes, registered]
  | read terminalId read =>
      refine sound.steps_same compression _ ?_ (service.update_created terminalId _)
      exact service.serialAt_update terminalId _ fun session => session.read_serial read
  | exit terminalId code =>
      refine sound.steps_same compression _ ?_ (service.update_created terminalId _)
      exact service.serialAt_update terminalId _ fun session => rfl
  | readOutputs proxy answers =>
      obtain ⟨ids, cleaned, ended⟩ := readOutputs_cleaned compression proxy service answers
      refine ⟨sound.of_fewer cleaned.created cleaned.fewer, fun id serial registered => ?_,
        .inl cleaned.created⟩
      by_cases listed : id ∈ ids
      · obtain ⟨session, found, ends⟩ := ended id listed
        obtain ⟨exitCode, reported⟩ := cleaned.reported id listed
        refine .inr ⟨id, session, exitCode, found, ?_, ends, reported⟩
        rw [serialAt, found] at registered
        exact Option.some.inj registered
      · exact .inl ⟨id, (cleaned.kept id listed).trans registered⟩

/-- Every run is sound. -/
theorem run_sound (compression : Compression) (serviceId : String) (isPersistent : Bool)
    (inputs : List ServiceInput) :
    ((serviceMachine compression).run (.new serviceId isPersistent) inputs).1.Sound :=
  (serviceMachine compression).run_invariant (fun _ _ => True) (fun service _ => service.Sound)
    (fun _ _ input _ sound => (sound.step compression input).sound) _ [] inputs
    (sound_new serviceId isPersistent) ((serviceMachine compression).guarded_true _ inputs)

/-- Every session that was created is registered, or departed in the run. -/
theorem run_registered (compression : Compression) (serviceId : String) (isPersistent : Bool)
    (inputs : List ServiceInput) (serial : Nat)
    (made : serial < ((serviceMachine compression).run (.new serviceId isPersistent)
      inputs).1.created) :
    (∃ id, ((serviceMachine compression).run (.new serviceId isPersistent) inputs).1.serialAt id =
        some serial) ∨
      ∃ before input after, inputs = before ++ input :: after ∧
        ((serviceMachine compression).run (.new serviceId isPersistent) before).1.Departs
          compression serial input := by
  induction inputs using List.reverseRecOn with
  | nil => cases made
  | append_singleton before input ih =>
      have steps := (run_sound compression serviceId isPersistent before).step compression input
      rw [Machine.run_append] at made ⊢
      change serial < ((serviceMachine compression).step _ input).1.created at made
      change (∃ id, ((serviceMachine compression).step _ input).1.serialAt id = some serial) ∨ _
      have old (earlier : serial < ((serviceMachine compression).run
          (.new serviceId isPersistent) before).1.created) :
          (∃ id, ((serviceMachine compression).step ((serviceMachine compression).run
              (.new serviceId isPersistent) before).1 input).1.serialAt id = some serial) ∨
            ∃ first departure after, before ++ [input] = first ++ departure :: after ∧
              ((serviceMachine compression).run (.new serviceId isPersistent) first).1.Departs
                compression serial departure := by
        rcases ih earlier with ⟨id, registered⟩ | ⟨first, departure, after, split_, departs⟩
        · rcases steps.survives id serial registered with kept | departs
          · exact .inl kept
          · exact .inr ⟨before, input, [], rfl, departs⟩
        · refine .inr ⟨first, departure, after ++ [input], ?_, departs⟩
          rw [split_, List.append_assoc, List.cons_append]
      rcases steps.created with same | ⟨grown, id, registered⟩
      · rw [same] at made
        exact old made
      · rw [grown] at made
        rcases Nat.lt_succ_iff_lt_or_eq.mp made with earlier | rfl
        · exact old earlier
        · exact .inl ⟨id, registered⟩

end PersistentTerminalService

open PersistentTerminalService in
/-- Sessions depart only by a close request or their own end, and an open request moves at most the
lowest session. -/
theorem service_registry (compression : Compression) (serviceId : String) (isPersistent : Bool)
    (inputs : List ServiceInput) :
    let service := ((serviceMachine compression).run (.new serviceId isPersistent) inputs).1
    (∀ serial < service.created, (∃! id, service.serialAt id = some serial) ∨
        ∃ before input after, inputs = before ++ input :: after ∧
          ((serviceMachine compression).run (.new serviceId isPersistent) before).1.Departs
            compression serial input) ∧
      ∀ proxy request answer,
        ((service.handleOpen proxy request answer).1 = service ∧
            ∃ error, (service.handleOpen proxy request answer).2 = .error error) ∨
          service.Opens request.terminalId (service.handleOpen proxy request answer).1 ∧
            ∃ message pid persistentSessions replays,
              (service.handleOpen proxy request answer).2 =
                  .ok (.opened request.terminalId true message pid service.serviceId
                    persistentSessions replays) ∧
                service.Names request.terminalId (service.handleOpen proxy request answer).1
                  persistentSessions := by
  intro service
  refine ⟨fun serial made => ?_, service.handleOpen_cases⟩
  rcases run_registered compression serviceId isPersistent inputs serial made with
    ⟨id, registered⟩ | departed
  · refine .inl ⟨id, registered, fun other also => ?_⟩
    exact (run_sound compression serviceId isPersistent inputs).distinct other id serial also
      registered
  · exact .inr departed

/-- The second of two sessions stays when the first one is closed. -/
theorem service_registry_closed :
    let machine := serviceMachine ⟨id, id, fun _ => rfl⟩
    let inputs : List ServiceInput :=
      [.resetStatus true, .open_ ⟨true, false⟩ ⟨1, 24, 80⟩ (.started 100),
        .open_ ⟨true, false⟩ ⟨2, 24, 80⟩ (.started 101), .close 1 false]
    let service := (machine.run (.new "ts" true) inputs).1
    1 < service.created ∧
      ((∃! id, service.serialAt id = some 1) ∨
        ∃ before input after, inputs = before ++ input :: after ∧
          (machine.run (.new "ts" true) before).1.Departs ⟨id, id, fun _ => rfl⟩ 1 input) := by
  intro machine inputs service
  have made : 1 < service.created := by decide +kernel
  exact ⟨made, (service_registry ⟨id, id, fun _ => rfl⟩ "ts" true inputs).1 1 made⟩

/-- The second session of a connection is not told of the first one. -/
theorem service_omits_session :
    let machine := serviceMachine ⟨id, id, fun _ => rfl⟩
    let service := (machine.run (.new "ts" true)
      [.resetStatus true, .open_ ⟨true, false⟩ ⟨1, 24, 80⟩ (.started 100)]).1
    let opened := service.handleOpen ⟨true, false⟩ ⟨2, 24, 80⟩ (.started 101)
    1 ∈ opened.1.sessions.keys ∧
      opened.2.toOption = some (.opened 2 true "Terminal opened" 101 "ts" [] false) := by
  decide +kernel

end SubnetDesk.Terminal
