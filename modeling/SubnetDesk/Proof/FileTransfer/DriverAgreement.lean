import SubnetDesk.Proof.FileTransfer.EarlyOpens

namespace SubnetDesk.FileTransfer
open FileTree

/-- A list without an active job sends nothing and stays as it is. -/
theorem initJobs_waiting (tree : Tree) (io : Answers) (jobs : List TransferJob)
    (waiting : ∀ job ∈ jobs, job.isLastJob = true) : initJobs tree io jobs = (jobs, []) := by
  induction jobs generalizing io with
  | nil => rfl
  | cons job rest ih =>
      have first : initJob tree (io 0) job = (job, []) := by simp [initJob, waiting job (by simp)]
      have tail := ih io.tail fun other member => waiting other (by simp [member])
      simp [initJobs, first, tail]

/-- Waiting jobs are left alone. -/
theorem readTick_waiting (codec : Codec) (tree : Tree) (connId : Int) (io : Answers)
    (jobs : List TransferJob) (waiting : ∀ job ∈ jobs, job.isLastJob = true) :
    readTick codec tree connId io jobs = (jobs, [], []) := by
  induction jobs generalizing io with
  | nil => rfl
  | cons job rest ih =>
      have tail := ih io.tail fun other member => waiting other (by simp [member])
      simp [readTick, waiting job (by simp), tail]

/-- At most one job of the list is active. -/
def AtMostOneActive : List TransferJob → Prop
  | [] => True
  | job :: rest =>
      if job.isLastJob then AtMostOneActive rest else ∀ other ∈ rest, other.isLastJob = true

theorem initJob_active (tree : Tree) (io : Io) (job : TransferJob) (active : job.isLastJob = false) :
    (initJob tree io job).1 = (job.initDataStream tree io).1 := by
  unfold initJob
  rw [active]
  rcases job.initDataStream tree io with ⟨next, _ | sent⟩ <;> rfl

/-- The started list of one active job keeps the waiting jobs around it. -/
theorem initJobs_active (tree : Tree) (io : Answers) (job : TransferJob) (rest : List TransferJob)
    (waiting : ∀ other ∈ rest, other.isLastJob = true) :
    initJobs tree io (job :: rest) =
      ((initJob tree (io 0) job).1 :: rest, (initJob tree (io 0) job).2) := by
  simp [initJobs, initJobs_waiting tree io.tail rest waiting]

/-- One active job runs alone in both drivers. -/
theorem readTick_active (codec : Codec) (tree : Tree) (connId : Int) (io : Answers)
    (job : TransferJob) (rest : List TransferJob) (active : job.isLastJob = false)
    (waiting : ∀ other ∈ rest, other.isLastJob = true) :
    let started := initJobs tree io (job :: rest)
    let read := readFirst codec tree io started.1
    let tick := readTick codec tree connId io (job :: rest)
    tick.2.1.map Data.message <+: started.2 ++ read.2.1 ∧
      (job.Succeeds codec tree (io 0) →
        tick.1 = read.1 ∧ tick.2.1.map Data.message = started.2 ++ read.2.1 ∧
          tick.2.2 = read.2.2) := by
  obtain ⟨sameJob, sameSent⟩ := initReadJobForCm_message tree (io 0) connId job
  have running : (initJob tree (io 0) job).1.isLastJob = false := by
    rw [initJob_isLastJob, active]
  simp only [initJobs_active tree io job rest waiting, readFirst, running, readTick, active,
    Bool.false_eq_true, ite_false]
  rw [initJob_active tree (io 0) job active]
  rcases opening : job.initDataStream tree (io 0) with ⟨next, err | sent⟩
  · have sent : (initJob tree (io 0) job).2 = [.error next.id err next.fileNum] := by
      simp [initJob, active, opening]
    rcases manager : initReadJobForCm tree (io 0) connId job with ⟨other, failure | data⟩
    · simp only [opening, manager, Except.map, Except.error.injEq] at sameJob sameSent
      subst sameJob sameSent
      simp only [readTick_waiting codec tree connId io.tail rest waiting, sent, List.map_cons,
        List.map_nil, Data.message]
      refine ⟨List.prefix_append _ _, fun succeeds => ?_⟩
      obtain ⟨⟨_, impossible⟩, _⟩ := succeeds
      rw [opening] at impossible
      cases impossible
    · rw [opening, manager] at sameSent
      cases sameSent
  · have sent_ : (initJob tree (io 0) job).2 = sent := by simp [initJob, active, opening]
    rcases manager : initReadJobForCm tree (io 0) connId job with ⟨other, failure | data⟩
    · rw [opening, manager] at sameSent
      cases sameSent
    · simp only [opening, manager, Except.map, Except.ok.injEq] at sameJob sameSent
      subst sameJob sameSent
      obtain ⟨sameRead, sameMessages, sameEnd⟩ :=
        readJobForCm_message codec tree (io 0) connId other
      simp only [sent_, List.map_append, sameMessages, sameRead]
      refine ⟨List.prefix_rfl, fun succeeds => ⟨trivial, trivial, ?_⟩⟩
      have whole : ∃ result, (TransferJob.read codec tree (io 0) other).2 = .ok result := by
        simpa [TransferJob.Succeeds, opening] using succeeds
      rw [sameEnd whole]

/-- With one active job, the connection manager sends a part of the messages of a tick. When no
call fails, both drivers do the same. -/
theorem readTick_agrees (codec : Codec) (tree : Tree) (connId : Int) (io : Answers)
    (jobs : List TransferJob) (single : AtMostOneActive jobs) :
    let started := initJobs tree io jobs
    let read := readFirst codec tree io started.1
    let tick := readTick codec tree connId io jobs
    tick.2.1.map Data.message <+: started.2 ++ read.2.1 ∧
      ((∀ answers job, firstActive io jobs = some (answers, job) →
          job.Succeeds codec tree answers) →
        tick.1 = read.1 ∧ tick.2.1.map Data.message = started.2 ++ read.2.1 ∧
          tick.2.2 = read.2.2) := by
  induction jobs generalizing io with
  | nil => simp [initJobs, readFirst, readTick]
  | cons job rest ih =>
      by_cases waiting : job.isLastJob = true
      · have tail := ih io.tail (by simpa [AtMostOneActive, waiting] using single)
        have first : initJob tree (io 0) job = (job, []) := by simp [initJob, waiting]
        simp only [initJobs, first, readFirst, readTick, firstActive, waiting, ite_true,
          List.nil_append]
        refine ⟨tail.1, fun succeeds => ?_⟩
        obtain ⟨sameJobs, sameSent, sameEnd⟩ := tail.2 succeeds
        exact ⟨congrArg (job :: ·) sameJobs, sameSent, sameEnd⟩
      · have active := Bool.eq_false_iff.mpr waiting
        have alone : ∀ other ∈ rest, other.isLastJob = true := by
          simpa [AtMostOneActive, active] using single
        have agrees := readTick_active codec tree connId io job rest active alone
        refine ⟨agrees.1, fun succeeds => agrees.2 (succeeds (io 0) job ?_)⟩
        simp [firstActive, active]

/-- No call fails in a tick of the list. -/
def TickSucceeds (codec : Codec) (jobs : List TransferJob) : ReadStep → Prop
  | .tick tree io => ∀ answers job, firstActive io jobs = some (answers, job) →
      job.Succeeds codec tree answers
  | _ => True

/-- The copy sends a part of the tick. -/
theorem handleReadJobsTick_prefix (codec : Codec) (tree : Tree) (connId : Int) (io : Answers)
    (jobs : List TransferJob) (single : AtMostOneActive jobs) :
    (cmDriver codec connId tree io jobs).2 <+: (handleReadJobs codec tree io jobs).2 :=
  (readTick_agrees codec tree connId io jobs single).1

/-- A tick that succeeds is the same. -/
theorem handleReadJobsTick_eq (codec : Codec) (tree : Tree) (connId : Int) (io : Answers)
    (jobs : List TransferJob) (single : AtMostOneActive jobs)
    (succeeds : TickSucceeds codec jobs (.tick tree io)) :
    cmDriver codec connId tree io jobs = handleReadJobs codec tree io jobs := by
  obtain ⟨sameJobs, sameSent, sameEnd⟩ :=
    (readTick_agrees codec tree connId io jobs single).2 succeeds
  simp only [cmDriver, handleReadJobsTick, handleReadJobs]
  rw [sameJobs, sameEnd]
  exact congrArg (Prod.mk _) sameSent

/-- Only the first active job may ask for a confirmation, and no call of an active job fails. -/
def CalmStep (codec : Codec) (jobs : List TransferJob) : ReadStep → Prop
  | .tick tree io => CalmTick codec tree io jobs
  | _ => True

/-- Both lists skip the same files. -/
theorem skippedBy_leads {origin : Tree} {jobs leading : List TransferJob}
    (leads : List.Forall₂ (Leader origin) jobs leading) (request : FileTransferSendConfirmRequest) :
    skippedBy request jobs = skippedBy request leading := by
  unfold skippedBy
  rcases getJob_leads leads request.id with ⟨absent, missing⟩ | ⟨job, leader, found, known, led⟩
  · rw [absent, missing]
  · rw [found, known]
    dsimp only
    rw [led.fileNum, led.id]

/-- A step keeps the two lists together. -/
theorem sessions_lead {origin : Tree} {codec : Codec} {jobs leading : List TransferJob}
    (leads : List.Forall₂ (Leader origin) jobs leading) (connId : Int) (step : ReadStep)
    (calm : CalmStep codec leading step) (unmoved : Unmoved origin leading step) :
    ((cmSession codec connId).step jobs step).2 = ((readSession codec).step leading step).2 ∧
      List.Forall₂ (Leader origin) ((cmSession codec connId).step jobs step).1
        ((readSession codec).step leading step).1 := by
  cases step with
  | push id type dataSource fileNum listed overwriteDetection waiting =>
      exact ⟨rfl, List.rel_append leads (.cons (.same rfl) .nil)⟩
  | cancel id => exact ⟨rfl, removeJob_leads leads id⟩
  | resume id => exact ⟨rfl, updateJob_leads leads id fun _ _ _ led => led.resume⟩
  | overwriteStrategy id strategy =>
      exact ⟨rfl, updateJob_leads leads id fun _ _ _ led => led.setOverwriteStrategy strategy⟩
  | confirm tree io request =>
      refine ⟨skippedBy_leads leads request, updateJob_leads leads request.id ?_⟩
      intro job leader found led
      refine led.confirm request fun skip => ?_
      rcases getJob_leads leads request.id with ⟨absent, -⟩ | ⟨job_, other, found_, known, led_⟩
      · rw [found] at absent
        cases absent
      · obtain rfl := Option.some.inj (found.symm.trans found_)
        obtain ⟨path, source⟩ := unmoved skip other known
        exact ⟨path, led_.file source⟩
  | tick tree io =>
      obtain ⟨messages, finished, led⟩ := readTick_leads leads unmoved.1 unmoved.2 calm connId
      refine ⟨?_, ?_⟩
      · exact congrArg (List.map ReadEvent.sent) messages
      · simp only [cmSession, readSession, sessionStep, cmDriver, handleReadJobsTick, handleReadJobs,
          finished]
        exact removeJobs_leads led _

/-- A calm tick is calm for its first job. -/
theorem CalmTick.first {codec : Codec} {tree : Tree} {io : Answers} {jobs : List TransferJob}
    (calm : CalmTick codec tree io jobs) {answers : Io} {job : TransferJob}
    (found : firstActive io jobs = some (answers, job)) : job.Succeeds codec tree answers := by
  induction jobs generalizing io with
  | nil => cases found
  | cons first rest ih =>
      rw [CalmTick] at calm
      rw [firstActive] at found
      split at calm
      next waiting =>
        rw [if_pos waiting] at found
        exact ih calm found
      next active =>
        rw [if_neg active] at found
        cases found
        exact calm.1

/-- A calm step is the same. -/
theorem cmSession_step (codec : Codec) (connId : Int) (jobs : List TransferJob) (step : ReadStep)
    (single : AtMostOneActive jobs) (calm : CalmStep codec jobs step) :
    (cmSession codec connId).step jobs step = (readSession codec).step jobs step := by
  cases step with
  | tick tree io =>
      have succeeds : TickSucceeds codec jobs (.tick tree io) := fun answers job found =>
        calm.first found
      simp only [cmSession, readSession, sessionStep,
        handleReadJobsTick_eq codec tree connId io jobs single succeeds]
  | push | cancel | resume | overwriteStrategy | confirm => rfl

/-- With one active job at a time, both sessions are the same. -/
theorem cmSession_run (codec : Codec) (connId : Int) (jobs : List TransferJob)
    (steps : List ReadStep) (calm : (readSession codec).Guarded (CalmStep codec) jobs steps)
    (single : (readSession codec).Guarded (fun jobs _ => AtMostOneActive jobs) jobs steps) :
    (cmSession codec connId).run jobs steps = (readSession codec).run jobs steps := by
  induction steps generalizing jobs with
  | nil => rfl
  | cons step rest ih =>
      simp only [Machine.run]
      rw [cmSession_step codec connId jobs step single.1 calm.1, ih _ calm.2 single.2]

/-- With the same files behind all paths, the sessions differ only in what is open already. -/
theorem sessions_lead_run {origin : Tree} {codec : Codec} {jobs leading : List TransferJob}
    (leads : List.Forall₂ (Leader origin) jobs leading) (connId : Int) (steps : List ReadStep)
    (calm : (readSession codec).Guarded (CalmStep codec) leading steps)
    (unmoved : (readSession codec).Guarded (Unmoved origin) leading steps) :
    ((cmSession codec connId).run jobs steps).2 = ((readSession codec).run leading steps).2 ∧
      List.Forall₂ (Leader origin) ((cmSession codec connId).run jobs steps).1
        ((readSession codec).run leading steps).1 := by
  induction steps generalizing jobs leading with
  | nil => exact ⟨rfl, leads⟩
  | cons step rest ih =>
      obtain ⟨sent, led⟩ := sessions_lead leads connId step calm.1 unmoved.1
      obtain ⟨later, final⟩ := ih led calm.2 unmoved.2
      simp only [Machine.run]
      rw [sent, later]
      exact ⟨rfl, final⟩

theorem forall₂_leads_refl (origin : Tree) (jobs : List TransferJob) :
    List.Forall₂ (Leader origin) jobs jobs :=
  List.forall₂_same.mpr fun _ _ => .same rfl

theorem forall₂_leads_numbers {origin : Tree} {jobs leading : List TransferJob}
    (leads : List.Forall₂ (Leader origin) jobs leading) :
    jobs.map (fun job => (job.id, job.fileNum)) =
      leading.map fun job => (job.id, job.fileNum) := by
  induction leads with
  | nil => rfl
  | cons first _ ih => rw [List.map_cons, List.map_cons, ih, first.id, first.fileNum]

/-- One directory holds two files of two bytes. -/
def pairTree : Tree :=
  Tree.ofFiles [[['b']]] [] [([['b'], ['x']], [1, 2]), ([['b'], ['y']], [3, 4])]

def pairJob (id : Int) (detection : Bool) : TransferJob :=
  TransferJob.newRead id .generic (.filePath "/b".toList) 0 [⟨['x'], 2, 0⟩, ⟨['y'], 2, 0⟩] detection

/-- This job reads one file, and the list goes on behind it. -/
def oneFileJob (id : Int) (name : Segment) : TransferJob :=
  TransferJob.newRead id .generic (.filePath "/b".toList) 0 [⟨name, 2, 0⟩] false

def memoryJob (id : Int) : TransferJob :=
  TransferJob.newRead id .printer (.memoryCursor ⟨[5, 6], 0⟩) 0 [] false

/-- Another file has taken the place of the second one. -/
def replacedTree : Tree :=
  Tree.ofFiles [[['b']]] [] [([['b'], ['x']], [1, 2]), ([['b'], ['z']], [3, 4]),
    ([['b'], ['y']], [5, 6])]

/-- The file cannot be read in this tick. -/
def failingTick : ReadStep :=
  .tick pairTree fun _ => { Io.clean id 0 with readFault := fun _ => some (.other "I/O error") }

end SubnetDesk.FileTransfer
