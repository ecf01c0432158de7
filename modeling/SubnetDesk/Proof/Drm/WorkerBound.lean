import SubnetDesk.Construction.Drm.Admission

namespace SubnetDesk.Drm

def CaptureWorker.live (worker : CaptureWorker) : Bool := worker != .absent && worker != .exited

/-- A task passed the first admission until it drops its guard. -/
def ConnTask.authPassed : ConnTask → Bool
  | .authorizing | .authorized _ => true
  | _ => false

/-- A refused task also counts until it takes its increment back. -/
def ConnTask.countsAuth (task : ConnTask) : Bool := task.authPassed || task = .authRefused

def ConnTask.admitted : ConnTask → Bool
  | .duplicating | .spawning | .awaitingDisplays | .handshaking | .streaming | .forwarding
  | .stopping | .droppingChoice | .droppingFrames | .leaving => true
  | _ => false

def ConnTask.countsConn (task : ConnTask) : Bool := task.admitted || task = .connRefused

/-- Nothing of the connection reaches its worker any more. -/
def DrmConnection.Severed (conn : DrmConnection) : Prop :=
  conn.stop = true ∧ conn.choiceClosed = true ∧ conn.framesClosed = true

/-- A worker starts after the admission, and its connection is severed before it ends. -/
def DrmConnection.Fits (conn : DrmConnection) : Prop :=
  match conn.task with
  | .awaitingDisplays | .handshaking | .streaming | .forwarding | .stopping => True
  | .droppingChoice => conn.stop = true
  | .droppingFrames => conn.stop = true ∧ conn.choiceClosed = true
  | .leaving | .ended => conn.worker.live = true → conn.Severed
  | _ => conn.worker.live = false

theorem fetchSub_eq {count : Nat} (positive : 1 ≤ count) : fetchSub count + 1 = count := by
  rw [fetchSub, if_neg (by omega)]
  omega

/-- This structure says what a step of a task does to the counters. -/
structure TaskMoved (counters after : DrmCounters) (task next : ConnTask) : Prop where
  auth : after.authInFlight + task.countsAuth.toNat =
    counters.authInFlight + next.countsAuth.toNat
  conns : after.connCount + task.countsConn.toNat = counters.connCount + next.countsConn.toNat
  passes : next.authPassed = true → task.authPassed = true ∨
    counters.authInFlight < maxDrmAuthInFlight
  admits : next.admitted = true → task.admitted = true ∨ counters.connCount < maxDrmConns

/-- A step that leaves the counters alone keeps the admission of its task. -/
theorem taskMoved_local {counters : DrmCounters} {task next : ConnTask}
    (auth : next.countsAuth = task.countsAuth) (conns : next.countsConn = task.countsConn)
    (passes : next.authPassed = true → task.authPassed = true)
    (admits : next.admitted = true → task.admitted = true) :
    TaskMoved counters counters task next where
  auth := by rw [auth]
  conns := by rw [conns]
  passes passed := .inl (passes passed)
  admits passed := .inl (admits passed)

/-- A task counts by the rules. -/
theorem moveTask_moved {counters : DrmCounters} {conn : DrmConnection} (outcome : Bool)
    (auth : conn.task.countsAuth.toNat ≤ counters.authInFlight)
    (conns : conn.task.countsConn.toNat ≤ counters.connCount) :
    TaskMoved counters (moveTask counters conn outcome).1 conn.task
      (moveTask counters conn outcome).2.task := by
  unfold moveTask
  cases task : conn.task with
  | arriving =>
      by_cases admitted : counters.authInFlight < maxDrmAuthInFlight
      · simp only [drmAuthAdmitted, admitted, decide_true, if_true]
        exact ⟨rfl, rfl, fun _ => .inr admitted, nofun⟩
      · simp only [drmAuthAdmitted, admitted, decide_false]
        exact ⟨rfl, rfl, nofun, nofun⟩
  | authRefused =>
      rw [task] at auth
      exact ⟨fetchSub_eq auth, rfl, nofun, nofun⟩
  | authorizing => exact taskMoved_local rfl rfl (fun _ => rfl) nofun
  | authorized accepted =>
      rw [task] at auth
      cases accepted with
      | true => exact ⟨fetchSub_eq auth, rfl, nofun, nofun⟩
      | false => exact ⟨fetchSub_eq auth, rfl, nofun, nofun⟩
  | admitting =>
      by_cases admitted : counters.connCount < maxDrmConns
      · simp only [drmConnAdmitted, admitted, decide_true, if_true]
        exact ⟨rfl, rfl, nofun, fun _ => .inr admitted⟩
      · simp only [drmConnAdmitted, admitted, decide_false]
        exact ⟨rfl, rfl, nofun, nofun⟩
  | connRefused =>
      rw [task] at conns
      exact ⟨rfl, fetchSub_eq conns, nofun, nofun⟩
  | duplicating =>
      cases outcome with
      | true => exact taskMoved_local rfl rfl nofun (fun _ => rfl)
      | false => exact taskMoved_local rfl rfl nofun (fun _ => rfl)
  | spawning =>
      cases outcome with
      | true => exact taskMoved_local rfl rfl nofun (fun _ => rfl)
      | false => exact taskMoved_local rfl rfl nofun (fun _ => rfl)
  | awaitingDisplays =>
      dsimp only
      split
      next => exact taskMoved_local rfl rfl nofun (fun _ => rfl)
      next =>
        split
        next => exact taskMoved_local rfl rfl nofun (fun _ => rfl)
        next =>
          rw [task]
          exact taskMoved_local rfl rfl nofun (fun _ => rfl)
  | handshaking =>
      dsimp only
      split
      next => exact taskMoved_local rfl rfl nofun (fun _ => rfl)
      next => exact taskMoved_local rfl rfl nofun (fun _ => rfl)
  | streaming => exact taskMoved_local rfl rfl nofun (fun _ => rfl)
  | forwarding =>
      cases outcome with
      | true => exact taskMoved_local rfl rfl nofun (fun _ => rfl)
      | false => exact taskMoved_local rfl rfl nofun (fun _ => rfl)
  | stopping => exact taskMoved_local rfl rfl nofun (fun _ => rfl)
  | droppingChoice => exact taskMoved_local rfl rfl nofun (fun _ => rfl)
  | droppingFrames => exact taskMoved_local rfl rfl nofun (fun _ => rfl)
  | leaving =>
      rw [task] at conns
      exact ⟨rfl, fetchSub_eq conns, nofun, nofun⟩
  | ended =>
      rw [task]
      exact taskMoved_local rfl rfl nofun nofun

/-- A task fits its stage. -/
theorem moveTask_fits {counters : DrmCounters} {conn : DrmConnection} (outcome : Bool)
    (fits : conn.Fits) : (moveTask counters conn outcome).2.Fits := by
  unfold moveTask
  unfold DrmConnection.Fits at fits
  cases task : conn.task with
  | arriving =>
      rw [task] at fits
      dsimp only
      split
      next => exact fits
      next => exact fits
  | authRefused =>
      rw [task] at fits
      exact fun live => absurd (fits.symm.trans live) Bool.false_ne_true
  | authorizing =>
      rw [task] at fits
      exact fits
  | authorized accepted =>
      rw [task] at fits
      cases accepted with
      | true => exact fits
      | false => exact fun live => absurd (fits.symm.trans live) Bool.false_ne_true
  | admitting =>
      rw [task] at fits
      dsimp only
      split
      next => exact fits
      next => exact fits
  | connRefused =>
      rw [task] at fits
      exact fun live => absurd (fits.symm.trans live) Bool.false_ne_true
  | duplicating =>
      rw [task] at fits
      cases outcome with
      | true => exact fits
      | false => exact fun live => absurd (fits.symm.trans live) Bool.false_ne_true
  | spawning =>
      cases outcome with
      | true => trivial
      | false => trivial
  | awaitingDisplays =>
      dsimp only
      split
      next => trivial
      next =>
        split
        next => trivial
        next =>
          unfold DrmConnection.Fits
          rw [task]
          trivial
  | handshaking =>
      dsimp only
      split
      next => trivial
      next => trivial
  | streaming => trivial
  | forwarding =>
      cases outcome with
      | true => trivial
      | false => trivial
  | stopping => exact rfl
  | droppingChoice =>
      rw [task] at fits
      exact ⟨fits, rfl⟩
  | droppingFrames =>
      rw [task] at fits
      exact fun _ => ⟨fits.1, fits.2, rfl⟩
  | leaving =>
      rw [task] at fits
      exact fits
  | ended =>
      unfold DrmConnection.Fits
      rw [task] at fits ⊢
      exact fits

/-- A worker changes neither the task nor the flags, and it does not come back to life. -/
structure WorkerMoved (conn next : DrmConnection) : Prop where
  task : next.task = conn.task
  stop : next.stop = conn.stop
  chosen : next.chosen = conn.chosen
  choiceClosed : next.choiceClosed = conn.choiceClosed
  framesClosed : next.framesClosed = conn.framesClosed
  dead : conn.worker.live = false → next.worker = conn.worker

/-- A frame moves a worker by the rules. -/
theorem sendFrame_moved {conn : DrmConnection} (next : CaptureWorker)
    (live : conn.worker.live = true) : WorkerMoved conn (sendFrame conn next) := by
  have alive : conn.worker.live ≠ false := by
    rw [live]
    decide
  unfold sendFrame
  split
  next => exact ⟨rfl, rfl, rfl, rfl, rfl, fun dead => absurd dead alive⟩
  next =>
    split
    next => exact ⟨rfl, rfl, rfl, rfl, rfl, fun dead => absurd dead alive⟩
    next => exact ⟨rfl, rfl, rfl, rfl, rfl, fun _ => rfl⟩

/-- A worker moves by the rules. -/
theorem moveWorker_moved (conn : DrmConnection) (outcome : Bool) (grab : GrabResult) :
    WorkerMoved conn (moveWorker conn outcome grab) := by
  unfold moveWorker
  cases worker : conn.worker with
  | absent => exact ⟨rfl, rfl, rfl, rfl, rfl, fun _ => rfl⟩
  | enumerating => exact ⟨rfl, rfl, rfl, rfl, rfl, by simp [worker, CaptureWorker.live]⟩
  | sendingDisplays => exact sendFrame_moved _ (by rw [worker]; rfl)
  | choosing =>
      dsimp only
      split
      next => exact ⟨rfl, rfl, rfl, rfl, rfl, by simp [worker, CaptureWorker.live]⟩
      next =>
        split
        next => exact ⟨rfl, rfl, rfl, rfl, rfl, by simp [worker, CaptureWorker.live]⟩
        next => exact ⟨rfl, rfl, rfl, rfl, rfl, fun _ => rfl⟩
  | opening => exact ⟨rfl, rfl, rfl, rfl, rfl, by simp [worker, CaptureWorker.live]⟩
  | checking => exact ⟨rfl, rfl, rfl, rfl, rfl, by simp [worker, CaptureWorker.live]⟩
  | grabbing =>
      have alive : ¬conn.worker.live = false := by simp [worker, CaptureWorker.live]
      cases grab with
      | gated => exact ⟨rfl, rfl, rfl, rfl, rfl, fun dead => absurd dead alive⟩
      | grabbed => exact ⟨rfl, rfl, rfl, rfl, rfl, fun dead => absurd dead alive⟩
      | wouldBlock => exact ⟨rfl, rfl, rfl, rfl, rfl, fun dead => absurd dead alive⟩
      | stalled => exact ⟨rfl, rfl, rfl, rfl, rfl, fun dead => absurd dead alive⟩
      | unsupported => exact ⟨rfl, rfl, rfl, rfl, rfl, fun dead => absurd dead alive⟩
      | failed => exact ⟨rfl, rfl, rfl, rfl, rfl, fun dead => absurd dead alive⟩
  | sending => exact sendFrame_moved _ (by rw [worker]; rfl)
  | readingCursor => exact ⟨rfl, rfl, rfl, rfl, rfl, by simp [worker, CaptureWorker.live]⟩
  | sendingCursor => exact sendFrame_moved _ (by rw [worker]; rfl)
  | sleeping => exact ⟨rfl, rfl, rfl, rfl, rfl, by simp [worker, CaptureWorker.live]⟩
  | exited => exact ⟨rfl, rfl, rfl, rfl, rfl, fun _ => rfl⟩

/-- A moved worker fits its connection. -/
theorem WorkerMoved.fits {conn next : DrmConnection} (moved : WorkerMoved conn next)
    (fits : conn.Fits) : next.Fits := by
  have live : next.worker.live = true → conn.worker.live = true := by
    intro alive
    by_contra dead
    rw [Bool.not_eq_true] at dead
    rw [moved.dead dead, dead] at alive
    contradiction
  have still : conn.worker.live = false → next.worker.live = false := by
    intro dead
    rw [moved.dead dead]
    exact dead
  unfold DrmConnection.Fits DrmConnection.Severed at fits ⊢
  rw [moved.task, moved.stop, moved.choiceClosed, moved.framesClosed]
  split
  next => trivial
  next => trivial
  next => trivial
  next => trivial
  next => trivial
  next task => simpa only [task] using fits
  next task => simpa only [task] using fits
  next task =>
    simp only [task] at fits
    exact fun alive => fits (live alive)
  next task =>
    simp only [task] at fits
    exact fun alive => fits (live alive)
  next =>
    split at fits
    all_goals first | contradiction | exact still fits

/-- The counters count the tasks that will take their increments back. -/
structure Admissions (state : AdmissionState) : Prop where
  fits : ∀ conn ∈ state.threads, conn.Fits
  auth : state.shared.authInFlight = state.threads.countP (·.task.countsAuth)
  conns : state.shared.connCount = state.threads.countP (·.task.countsConn)
  authBound : state.threads.countP (·.task.authPassed) ≤ maxDrmAuthInFlight
  connBound : state.threads.countP (·.task.admitted) ≤ maxDrmConns

/-- At the start nothing is counted. -/
theorem admissions_initial : Admissions initialAdmission :=
  ⟨by simp [initialAdmission], rfl, rfl, Nat.zero_le _, Nat.zero_le _⟩

/-- A bound on the increments is a bound on the admitted tasks. -/
theorem countP_set_le {threads : List DrmConnection} {index bound count : Nat}
    {conn next : DrmConnection} (found : threads[index]? = some conn)
    {passed counted : ConnTask → Bool}
    (weaker : ∀ task, passed task = true → counted task = true)
    (count_eq : count = threads.countP fun conn => counted conn.task)
    (before : threads.countP (fun conn => passed conn.task) ≤ bound)
    (admits : passed next.task = true → passed conn.task = true ∨ count < bound) :
    (threads.set index next).countP (fun conn => passed conn.task) ≤ bound := by
  have replaced := Threads.countP_set found next fun conn => passed conn.task
  have fewer : threads.countP (fun conn => passed conn.task) ≤
      threads.countP fun conn => counted conn.task :=
    List.countP_mono_left fun conn _ => weaker conn.task
  cases after : passed next.task with
  | false =>
      rw [after, Bool.toNat_false] at replaced
      omega
  | true =>
      rw [after, Bool.toNat_true] at replaced
      rcases admits after with already | room
      · rw [already, Bool.toNat_true] at replaced
        omega
      · omega

theorem countsAuth_of_passed (task : ConnTask) (passed : task.authPassed = true) :
    task.countsAuth = true := by
  rw [ConnTask.countsAuth, passed]
  rfl

theorem countsConn_of_admitted (task : ConnTask) (passed : task.admitted = true) :
    task.countsConn = true := by
  rw [ConnTask.countsConn, passed]
  rfl

theorem toNat_le_countP {threads : List DrmConnection} {index : Nat} {conn : DrmConnection}
    (found : threads[index]? = some conn) (holds : DrmConnection → Bool) :
    (holds conn).toNat ≤ threads.countP holds := by
  cases held : holds conn with
  | false => exact Nat.zero_le _
  | true => exact List.countP_pos_iff.mpr ⟨conn, List.mem_of_getElem? found, held⟩

/-- A step keeps the admissions as long as its task and its counters move together. -/
theorem Admissions.replace {state : AdmissionState} (admissions : Admissions state) {index : Nat}
    {conn next : DrmConnection} {after : DrmCounters}
    (found : state.threads[index]? = some conn) (fits : next.Fits)
    (moved : TaskMoved state.shared after conn.task next.task) :
    Admissions ⟨after, state.threads.set index next⟩ where
  fits other member := by
    rcases List.mem_or_eq_of_mem_set member with old | rfl
    · exact admissions.fits other old
    · exact fits
  auth := by
    have replaced := Threads.countP_set found next (·.task.countsAuth)
    have auth := admissions.auth
    have counters := moved.auth
    show after.authInFlight = (state.threads.set index next).countP (·.task.countsAuth)
    omega
  conns := by
    have replaced := Threads.countP_set found next (·.task.countsConn)
    have conns := admissions.conns
    have counters := moved.conns
    show after.connCount = (state.threads.set index next).countP (·.task.countsConn)
    omega
  authBound := countP_set_le found countsAuth_of_passed admissions.auth admissions.authBound
    moved.passes
  connBound := countP_set_le found countsConn_of_admitted admissions.conns admissions.connBound
    moved.admits

/-- One event keeps the counts. -/
theorem admissions_step {state : AdmissionState} (admissions : Admissions state)
    (event : AdmissionEvent) : Admissions (admission.step state event).1 := by
  cases event with
  | call attempt =>
      rw [admission, admissionProgram.machine_call]
      constructor
      case fits =>
        intro conn member
        rcases List.mem_append.mp member with old | new
        · exact admissions.fits conn old
        · rw [List.mem_singleton.mp new]
          rfl
      case auth =>
        simpa [admissionProgram, ConnTask.countsAuth, ConnTask.authPassed] using admissions.auth
      case conns =>
        simpa [admissionProgram, ConnTask.countsConn, ConnTask.admitted] using admissions.conns
      case authBound => simpa [admissionProgram, ConnTask.authPassed] using admissions.authBound
      case connBound => simpa [admissionProgram, ConnTask.admitted] using admissions.connBound
  | advance index choice =>
      cases found : state.threads[index]? with
      | none =>
          rw [admission, admissionProgram.machine_absent choice found]
          exact admissions
      | some conn =>
          have fits := admissions.fits conn (List.mem_of_getElem? found)
          rw [admission, admissionProgram.machine_advance choice found]
          cases choice with
          | task outcome =>
              apply admissions.replace found (moveTask_fits outcome fits)
              apply moveTask_moved
              · rw [admissions.auth]
                exact toNat_le_countP found (·.task.countsAuth)
              · rw [admissions.conns]
                exact toNat_le_countP found (·.task.countsConn)
          | worker outcome grab =>
              have moved := moveWorker_moved conn outcome grab
              apply admissions.replace found (moved.fits fits)
              rw [moved.task]
              exact taskMoved_local rfl rfl id id
  | disturb change => exact change.elim

/-- Every run keeps the counts. -/
theorem admissions_run (events : List AdmissionEvent) :
    Admissions (admission.run initialAdmission events).1 :=
  admission.run_invariant (fun _ _ => True) (fun state _ => Admissions state)
    (fun _ _ event _ admissions => admissions_step admissions event) initialAdmission [] events
    admissions_initial (admission.guarded_true initialAdmission events)

/-- A severed worker has this many steps left. -/
def CaptureWorker.stepsLeft : CaptureWorker → Nat
  | .absent | .exited => 0
  | .sendingDisplays | .checking | .sending | .sendingCursor => 1
  | .enumerating | .opening | .sleeping => 2
  | .choosing | .readingCursor => 3
  | .grabbing => 4

/-- A closed queue ends the worker. -/
theorem sendFrame_closed {conn : DrmConnection} (closed : conn.framesClosed = true)
    (next : CaptureWorker) : (sendFrame conn next).worker.stepsLeft = 0 := by
  rw [sendFrame, if_pos closed]
  rfl

/-- A severed worker has fewer steps left. -/
theorem moveWorker_stepsLeft {conn : DrmConnection} (severed : conn.Severed) (outcome : Bool)
    (grab : GrabResult) :
    (moveWorker conn outcome grab).worker.stepsLeft ≤ conn.worker.stepsLeft - 1 := by
  obtain ⟨stop, choiceClosed, framesClosed⟩ := severed
  unfold moveWorker
  cases worker : conn.worker with
  | absent =>
      rw [worker]
      decide
  | enumerating => exact Nat.le_refl 1
  | sendingDisplays => exact Nat.le_of_eq (sendFrame_closed framesClosed _)
  | choosing =>
      dsimp only
      split
      next => exact Nat.le_refl 2
      next => exact Nat.zero_le 2
  | opening =>
      cases outcome with
      | true => exact Nat.le_refl 1
      | false => exact Nat.zero_le 1
  | checking =>
      simp only [stop, if_true]
      exact Nat.le_refl 0
  | grabbing =>
      cases grab with
      | gated => simp [CaptureWorker.stepsLeft]
      | grabbed => simp [CaptureWorker.stepsLeft]
      | wouldBlock => simp [CaptureWorker.stepsLeft]
      | stalled => simp [CaptureWorker.stepsLeft]
      | unsupported => simp [CaptureWorker.stepsLeft]
      | failed => simp [CaptureWorker.stepsLeft]
  | sending => exact Nat.le_of_eq (sendFrame_closed framesClosed _)
  | readingCursor =>
      cases outcome with
      | true => simp [CaptureWorker.stepsLeft]
      | false => simp [CaptureWorker.stepsLeft]
  | sendingCursor => exact Nat.le_of_eq (sendFrame_closed framesClosed _)
  | sleeping => exact Nat.le_refl 1
  | exited =>
      rw [worker]
      decide

def runWorker (conn : DrmConnection) (choices : List (Bool × GrabResult)) : DrmConnection :=
  choices.foldl (fun conn choice => moveWorker conn choice.1 choice.2) conn

theorem runWorker_stepsLeft {conn : DrmConnection} (severed : conn.Severed)
    (choices : List (Bool × GrabResult)) :
    (runWorker conn choices).worker.stepsLeft ≤ conn.worker.stepsLeft - choices.length := by
  induction choices generalizing conn with
  | nil => exact Nat.le_refl _
  | cons choice rest ih =>
      have moved := moveWorker_moved conn choice.1 choice.2
      have still : (moveWorker conn choice.1 choice.2).Severed := by
        rw [DrmConnection.Severed, moved.stop, moved.choiceClosed, moved.framesClosed]
        exact severed
      have first := moveWorker_stepsLeft severed choice.1 choice.2
      have later := ih still
      rw [List.length_cons]
      exact Nat.le_trans later (by omega)

/-- A live worker has at most four steps left. -/
theorem live_stepsLeft (worker : CaptureWorker) :
    worker.stepsLeft ≤ 4 ∧ (worker.stepsLeft = 0 → worker.live = false) := by
  cases worker with
  | absent => decide
  | enumerating => decide
  | sendingDisplays => decide
  | choosing => decide
  | opening => decide
  | checking => decide
  | grabbing => decide
  | sending => decide
  | readingCursor => decide
  | sendingCursor => decide
  | sleeping => decide
  | exited => decide

/-- A severed worker ends in four steps. -/
theorem severed_exits {conn : DrmConnection} (severed : conn.Severed)
    {choices : List (Bool × GrabResult)} (enough : 4 ≤ choices.length) :
    (runWorker conn choices).worker.live = false := by
  have left := runWorker_stepsLeft severed choices
  have bound := (live_stepsLeft conn.worker).1
  exact (live_stepsLeft _).2 (by omega)

/-- A live worker was admitted. -/
theorem admitted_of_live {conn : DrmConnection} (fits : conn.Fits)
    (live : conn.worker.live = true) (open_ : conn.task ≠ .ended) : conn.task.admitted = true := by
  unfold DrmConnection.Fits at fits
  split at fits
  next task => rw [task]; rfl
  next task => rw [task]; rfl
  next task => rw [task]; rfl
  next task => rw [task]; rfl
  next task => rw [task]; rfl
  next task => rw [task]; rfl
  next task => rw [task]; rfl
  next task => rw [task]; rfl
  next task => exact absurd task open_
  next =>
    rw [fits] at live
    contradiction

/-- The admitted connections and their workers are bounded, the counters are exact, and a worker
that outlives its connection is cut off and exits within four steps of its own. -/
theorem connections_and_workers_bounded (events : List AdmissionEvent) :
    let state := (admission.run initialAdmission events).1
    state.threads.countP (·.task.admitted) ≤ maxDrmConns ∧
      state.threads.countP (·.task.authPassed) ≤ maxDrmAuthInFlight ∧
      state.shared.authInFlight = state.threads.countP (·.task.countsAuth) ∧
      state.shared.connCount = state.threads.countP (·.task.countsConn) ∧
      ((∀ conn ∈ state.threads, conn.task = .ended) → state.shared = ⟨0, 0⟩) ∧
      state.threads.countP (fun conn => conn.worker.live && conn.task != .ended) ≤ maxDrmConns ∧
      ∀ conn ∈ state.threads, conn.worker.live = true → conn.task = .ended →
        conn.Severed ∧ ∀ choices : List (Bool × GrabResult), 4 ≤ choices.length →
          (runWorker conn choices).worker.live = false := by
  intro state
  have admissions : Admissions state := admissions_run events
  refine ⟨admissions.connBound, admissions.authBound, admissions.auth, admissions.conns,
    ?_, ?_, ?_⟩
  · intro ended
    have auth : state.threads.countP (·.task.countsAuth) = 0 := by
      rw [List.countP_eq_zero]
      intro conn member
      rw [ended conn member]
      decide
    have conns : state.threads.countP (·.task.countsConn) = 0 := by
      rw [List.countP_eq_zero]
      intro conn member
      rw [ended conn member]
      decide
    rw [← admissions.auth] at auth
    rw [← admissions.conns] at conns
    cases counters : state.shared with
    | mk authInFlight connCount =>
        rw [counters] at auth conns
        rw [DrmCounters.mk.injEq]
        exact ⟨auth, conns⟩
  · apply Nat.le_trans _ admissions.connBound
    apply List.countP_mono_left
    intro conn member attached
    rw [Bool.and_eq_true, bne_iff_ne] at attached
    exact admitted_of_live (admissions.fits conn member) attached.1 attached.2
  · intro conn member live ended
    have fits := admissions.fits conn member
    simp only [DrmConnection.Fits, ended] at fits
    have severed := fits live
    exact ⟨severed, fun choices enough => severed_exits severed enough⟩

/-- A consumer is admitted, picks its display, and its worker sleeps after the first frame. -/
def streamingConsumer (index : Nat) : List AdmissionEvent :=
  [.call (), .advance index (.task true), .advance index (.task true),
    .advance index (.task true), .advance index (.task true), .advance index (.task true),
    .advance index (.task true), .advance index (.worker true .gated),
    .advance index (.worker true .gated), .advance index (.task true),
    .advance index (.task true), .advance index (.worker true .gated),
    .advance index (.worker true .gated), .advance index (.worker true .gated),
    .advance index (.worker true .grabbed), .advance index (.worker true .gated),
    .advance index (.worker false .gated)]

/-- The client of a streaming consumer disconnects, and the task leaves. -/
def departure (index : Nat) : List AdmissionEvent :=
  [.advance index (.task true), .advance index (.task false), .advance index (.task true),
    .advance index (.task true), .advance index (.task true), .advance index (.task true)]

/-- The first of eight consumers leaves, and a ninth one comes while its worker still sleeps. -/
def nineConsumers : List AdmissionEvent :=
  (List.range 8).flatMap streamingConsumer ++ departure 0 ++ streamingConsumer 8

/-- Nine workers with an open reader live at once. -/
theorem nine_workers_live :
    ¬(admission.run initialAdmission nineConsumers).1.threads.countP (·.worker.live) ≤
      maxDrmConns := by
  decide +kernel

end SubnetDesk.Drm
