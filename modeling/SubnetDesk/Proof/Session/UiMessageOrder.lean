import SubnetDesk.Construction.Session.UiMessages

namespace SubnetDesk.Session

variable {Payload : Type} {remote : Remote Payload} {past : List (Output Payload)}

/-- A message that only the main loop understands. -/
def Data.isForLoop : Data Payload → Bool
  | .close => false
  | .trustLanDevice => false
  | .rejectLanDevice => false
  | .submitLanCredentials => true
  | .other _ => true

def Output.sent? : Output Payload → Option (Data Payload)
  | .sent data => some data
  | .handled _ => none

def Output.handled? : Output Payload → Option (Data Payload)
  | .sent _ => none
  | .handled data => some data

/-- The messages for the loop that were sent. -/
def sentOf (past : List (Output Payload)) : List (Data Payload) :=
  (past.filterMap Output.sent?).filter Data.isForLoop

def handledOf (past : List (Output Payload)) : List (Data Payload) :=
  (past.filterMap Output.handled?).filter Data.isForLoop

/-- The messages for the loop that wait, in the order in which the loop gets them. -/
def Remote.queued (remote : Remote Payload) : List (Data Payload) :=
  (remote.pendingUiMessages ++ remote.receiver).filter Data.isForLoop

/-- What was sent was handled in order or still waits. -/
def Kept (remote : Remote Payload) (past : List (Output Payload)) : Prop :=
  sentOf past = handledOf past ++ remote.queued

/-- Some message is gone for good. -/
def Short (remote : Remote Payload) (past : List (Output Payload)) : Prop :=
  (handledOf past).length + remote.queued.length < (sentOf past).length

/-- The prompt reads no message that it does not understand. -/
def PromptSpares (remote : Remote Payload) (event : Event Payload) : Prop :=
  (∃ saves, event = .confirm saves) → remote.stage = .confirming →
    ∀ data ∈ remote.receiver.head?, data.isForLoop = false

/-- What a step does with the messages that wait. -/
inductive QueueStep (remote : Remote Payload) (event : Event Payload) :
    Remote Payload × List (Output Payload) → Prop where
  | keeps (after : Remote Payload)
      (same : after.pendingUiMessages ++ after.receiver =
        remote.pendingUiMessages ++ remote.receiver) : QueueStep remote event (after, [])
  | sends (data : Data Payload) : QueueStep remote event
      ({ remote with receiver := remote.receiver ++ [data] }, [.sent data])
  | handles (data : Data Payload) (after : Remote Payload)
      (first : remote.pendingUiMessages ++ remote.receiver =
        data :: (after.pendingUiMessages ++ after.receiver)) :
      QueueStep remote event (after, [.handled data])
  | drops (data : Data Payload) (rest : List (Data Payload)) (after : Remote Payload)
      (read : remote.receiver = data :: rest)
      (left : after.pendingUiMessages ++ after.receiver = remote.pendingUiMessages ++ rest)
      (reader : data = .close ∨ (∃ saves, event = .confirm saves) ∧ remote.stage = .confirming) :
      QueueStep remote event (after, [])

/-- A turn takes the next message. -/
theorem Remote.turn_queue (event : Event Payload) (branch : Branch) :
    QueueStep remote event (remote.turn branch) := by
  unfold turn
  split
  next data rest pending => exact .handles data _ (by simp [pending])
  next pending =>
    split
    next =>
      split
      next data rest waiting =>
        exact .handles data _ (by simp [pending, waiting])
      next => exact .keeps _ rfl
    next => exact .keeps _ rfl
    next => exact .keeps _ rfl

/-- The prompt takes the next message. -/
theorem Remote.waitForLanLogin_queue (event : Event Payload) :
    QueueStep remote event (remote.waitForLanLogin, []) := by
  unfold waitForLanLogin
  split
  next => exact .keeps _ rfl
  next rest closed => exact .drops .close rest _ closed rfl (.inl rfl)
  next data rest _ waiting => exact .keeps _ (by simp [waiting])

/-- One step takes the next message. -/
theorem Remote.step_queue (event : Event Payload) :
    QueueStep remote event (remote.step event) := by
  unfold step
  split
  next data => exact .sends data
  next => exact .keeps _ rfl
  next => exact .keeps _ rfl
  next => exact .keeps _ rfl
  next => exact .keeps _ rfl
  next saves confirming =>
    unfold confirmLanDevice
    split
    next => exact .keeps _ rfl
    next data rest read => exact .drops data rest _ read rfl (.inr ⟨⟨saves, rfl⟩, confirming⟩)
  next => exact .keeps _ rfl
  next => exact waitForLanLogin_queue _
  next => exact .keeps _ rfl
  next => exact .keeps _ rfl
  next => exact .keeps _ rfl
  next branch _ => exact turn_queue _ branch
  next => exact .keeps _ rfl

/-- The prompt takes the first message away. -/
theorem Remote.step_confirm {data : Data Payload} {rest : List (Data Payload)} (saves : Bool)
    (confirming : remote.stage = .confirming) (read : remote.receiver = data :: rest) :
    (remote.step (.confirm saves)).2 = [] ∧ (remote.step (.confirm saves)).1.queued =
      (remote.pendingUiMessages ++ rest).filter Data.isForLoop := by
  unfold step
  simp only [confirming, confirmLanDevice, read, true_and]
  rfl

/-- A spared message is kept. -/
theorem Kept.step (kept : Kept remote past) {event : Event Payload}
    (spared : PromptSpares remote event) :
    Kept (remote.step event).1 (past ++ (remote.step event).2) := by
  have step := remote.step_queue event
  generalize remote.step event = result at step
  unfold Kept sentOf handledOf Remote.queued at kept ⊢
  cases step with
  | keeps after same =>
      rw [List.append_nil, same]
      exact kept
  | sends data =>
      simp only [List.filterMap_append, List.filter_append, kept]
      simp [Output.sent?, Output.handled?]
  | handles data after first =>
      rw [first] at kept
      simp only [List.filterMap_append, List.filter_append]
      simp only [List.filterMap_cons, Output.sent?, Output.handled?, List.filterMap_nil,
        List.filter_nil, List.append_nil, List.append_assoc]
      rw [kept, ← List.singleton_append, List.filter_append [data], List.filter_append]
  | drops data rest after read left reader =>
      have skipped : data.isForLoop = false := by
        rcases reader with rfl | ⟨confirm, confirming⟩
        · rfl
        · exact spared confirm confirming data (by rw [read]; rfl)
      rw [List.append_nil, left, kept, read]
      simp [skipped]

/-- A message at the prompt is lost. -/
theorem Kept.lost (kept : Kept remote past) {event : Event Payload}
    (taken : ¬ PromptSpares remote event) :
    Short (remote.step event).1 (past ++ (remote.step event).2) := by
  unfold PromptSpares at taken
  push Not at taken
  obtain ⟨⟨saves, rfl⟩, confirming, data, head, forLoop⟩ := taken
  cases waiting : remote.receiver with
  | nil => simp [waiting] at head
  | cons first rest =>
      rw [waiting, List.head?_cons, Option.mem_some_iff] at head
      subst head
      obtain ⟨silent, queued⟩ := Remote.step_confirm saves confirming waiting
      have loops : first.isForLoop = true := by simpa using forLoop
      unfold Short
      rw [silent, queued, List.append_nil]
      unfold Kept Remote.queued at kept
      rw [kept, waiting]
      simp [loops]

/-- A lost message stays lost. -/
theorem Short.step (short : Short remote past) (event : Event Payload) :
    Short (remote.step event).1 (past ++ (remote.step event).2) := by
  have step := remote.step_queue event
  generalize remote.step event = result at step
  unfold Short sentOf handledOf Remote.queued at short ⊢
  cases step with
  | keeps after same =>
      rw [List.append_nil, same]
      exact short
  | sends data =>
      simp only [List.filterMap_append, List.filter_append, List.length_append] at short ⊢
      simp only [List.filterMap_cons, Output.sent?, Output.handled?, List.filterMap_nil,
        List.filter_nil, List.length_nil]
      omega
  | handles data after first =>
      rw [first] at short
      simp only [List.filterMap_append, List.filter_append, List.length_append] at short ⊢
      simp only [List.filterMap_cons, Output.sent?, Output.handled?, List.filterMap_nil,
        List.filter_nil, List.length_nil]
      rw [← List.singleton_append, List.filter_append, List.length_append] at short
      rw [List.filter_append, List.length_append] at short
      omega
  | drops data rest after read left reader =>
      rw [List.append_nil, left]
      rw [read, ← List.singleton_append] at short
      simp only [List.filter_append, List.length_append] at short ⊢
      omega

/-- No message is both kept and lost. -/
theorem Kept.not_short (kept : Kept remote past) : ¬ Short remote past := by
  unfold Short Kept at *
  rw [kept, List.length_append]
  omega

/-- A run keeps all where the prompt spares them. -/
theorem kept_run_iff (events : List (Event Payload)) :
    Kept ((machine Payload).run Remote.new events).1 ((machine Payload).run Remote.new events).2 ↔
      (machine Payload).Guarded PromptSpares Remote.new events :=
  (machine Payload).run_good_iff_guarded PromptSpares Kept Short
    (fun _ _ _ kept spared => kept.step spared) (fun _ _ _ kept taken => kept.lost taken)
    (fun _ _ event short => short.step event) (fun _ _ kept => kept.not_short)
    Remote.new [] events rfl

/-- The loop takes turns, and each login in between gets ready. -/
def drain (count : Nat) : List (Event Payload) :=
  (List.replicate count [.turn .receiver, .loginReady]).flatten

theorem drain_succ (count : Nat) :
    (drain (count + 1) : List (Event Payload)) =
      [.turn .receiver, .loginReady] ++ drain count := by
  rw [drain, List.replicate_succ, List.flatten_cons]
  rfl

/-- Two steps of the loop handle the first message. -/
theorem Remote.handle_first (running : remote.stage = .running) {first : Data Payload}
    {rest : List (Data Payload)}
    (waiting : remote.pendingUiMessages ++ remote.receiver = first :: rest)
    (opened : first ≠ .close) :
    ∃ after : Remote Payload, after.stage = .running ∧
      after.pendingUiMessages ++ after.receiver = rest ∧
      (machine Payload).run remote [.turn .receiver, .loginReady] = (after, [.handled first]) := by
  have finish (pending receiver : List (Data Payload)) :
      ∃ after : Remote Payload, after.stage = .running ∧
        after.pendingUiMessages ++ after.receiver = pending ++ receiver ∧
        ((({ remote with pendingUiMessages := pending, receiver := receiver } :
            Remote Payload).handleMsgFromUi first).1.step .loginReady) = (after, []) := by
    cases first with
    | close => exact absurd rfl opened
    | trustLanDevice => exact ⟨_, rfl, rfl, rfl⟩
    | rejectLanDevice => exact ⟨_, rfl, rfl, rfl⟩
    | submitLanCredentials => exact ⟨_, rfl, rfl, rfl⟩
    | other payload => exact ⟨_, rfl, rfl, rfl⟩
  have both {after : Remote Payload} (base : Remote Payload)
      (turned : remote.step (.turn .receiver) = base.handleMsgFromUi first)
      (ready : (base.handleMsgFromUi first).1.step .loginReady = (after, [])) :
      (machine Payload).run remote [.turn .receiver, .loginReady] = (after, [.handled first]) := by
    simp only [machine, Machine.run]
    rw [turned, ready]
    rfl
  cases pending : remote.pendingUiMessages with
  | cons data later =>
      rw [pending] at waiting
      cases waiting
      obtain ⟨after, runs, left, ready⟩ := finish later remote.receiver
      refine ⟨after, runs, left, both _ ?_ ready⟩
      simp only [Remote.step, running, Remote.turn, pending]
  | nil =>
      rw [pending, List.nil_append] at waiting
      obtain ⟨after, runs, left, ready⟩ := finish [] rest
      refine ⟨after, runs, left, both _ ?_ ready⟩
      simp only [Remote.step, running, Remote.turn, pending, waiting]

/-- The loop handles all messages that wait, unless it is told to close. -/
theorem Remote.drain_run (running : remote.stage = .running) {waiting : List (Data Payload)}
    (queue : remote.pendingUiMessages ++ remote.receiver = waiting) (opened : .close ∉ waiting) :
    ((machine Payload).run remote (drain waiting.length)).2 = waiting.map .handled := by
  induction waiting generalizing remote with
  | nil => rfl
  | cons first rest ih =>
      rw [List.mem_cons, not_or] at opened
      obtain ⟨after, runs, left, turned⟩ := remote.handle_first running queue (Ne.symm opened.1)
      rw [List.length_cons, drain_succ, Machine.run_append_outputs, turned]
      dsimp only
      rw [ih runs left opened.2]
      rfl

theorem handledOf_handled (messages : List (Data Payload)) :
    handledOf (messages.map .handled) = messages.filter Data.isForLoop := by
  rw [handledOf, List.filterMap_map]
  congr 1
  exact List.filterMap_some

/-- Every message for the loop was handled in order or waits, and a loop that goes on handles all
that wait. -/
structure Delivered (remote : Remote Payload) (past : List (Output Payload)) : Prop where
  kept : Kept remote past
  drains : remote.stage = .running →
    .close ∉ remote.pendingUiMessages ++ remote.receiver →
      handledOf (past ++ ((machine Payload).run remote
        (drain (remote.pendingUiMessages ++ remote.receiver).length)).2) = sentOf past

/-- Kept messages are delivered. -/
theorem Kept.delivered (kept : Kept remote past) : Delivered remote past := by
  refine ⟨kept, ?_⟩
  intro running opened
  rw [Remote.drain_run running rfl opened, kept, Remote.queued, ← handledOf_handled]
  simp only [handledOf, List.filterMap_append, List.filter_append]

/-- The messages of the interface are delivered exactly when the prompt reads none but answers. -/
theorem ui_messages_delivered_iff (events : List (Event Payload)) :
    Delivered ((machine Payload).run Remote.new events).1
        ((machine Payload).run Remote.new events).2 ↔
      (machine Payload).Guarded PromptSpares Remote.new events := by
  rw [← kept_run_iff]
  exact ⟨Delivered.kept, Kept.delivered⟩

/-- A message that is sent before the answer never reaches the loop of the established session. -/
theorem message_dropped_by_prompt :
    let reached := (machine Nat).run Remote.new [.send (.other 1), .started .unknown,
      .send .trustLanDevice, .confirm true, .confirm true, .loginReady, .send (.other 2),
      .turn .receiver]
    reached.1 = ⟨[], [], .running⟩ ∧ sentOf reached.2 = [.other 1, .other 2] ∧
      handledOf reached.2 = [.other 2] := by
  decide

end SubnetDesk.Session
