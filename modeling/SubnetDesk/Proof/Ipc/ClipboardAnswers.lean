import SubnetDesk.Construction.Ipc.ClipboardService
import SubnetDesk.Proof.Ipc.PassedValues

namespace SubnetDesk.Ipc

variable {α : Type} {json : Json α}

def ClipboardNonFile.clipboard (item : ClipboardNonFile) : Clipboard where
  compress := item.compress
  content := item.content
  width := item.width
  height := item.height
  format := item.format
  specialName := item.specialName

/-- The contents that a call returns are what was read for its own request. -/
def CallOutcome.Good : CallOutcome → Prop
  | .ok request answer own contents =>
      answer = request ∧ ∃ clipboards, own = some (.ok clipboards) ∧
        contents.map (·.clipboard) = clipboards
  | .failed => True
  | .panicked => False

/-- No call uses a live stream again on which the answer to an earlier request has not been read, and
no raw frame is late. The other messages are no clipboard answers, and an error has a text. -/
def Careful (service : ClipboardService α) : ServiceInput α → Prop
  | .call sent _ => sent = true → ∀ kept, service.stream = some kept → kept.alive = true →
      kept.asked = kept.answered
  | .timeout => ∀ contents, service.call ≠ .raw contents
  | .queue data => data.isClipboardNonFile = false
  | .cmReceive outcome => ∀ err, outcome = .error err → err ≠ []
  | _ => True

/-- The connection manager sends queued values and replies. -/
inductive Sent (α : Type) where
  | value (data : Data α)
  | reply (outcome : Except (List Char) (List Clipboard))

def sentFraming (json : Json α) : Framing (Sent α) Bytes where
  header
    | .value data => (cmFraming json).header data
    | .reply outcome => json.encode (clipboardReply outcome).1
  body
    | .value data => (cmFraming json).body data
    | .reply outcome => (clipboardReply (α := α) outcome).2

def repliesIn (values : List (Sent α)) : List (Except (List Char) (List Clipboard)) :=
  values.filterMap fun
    | .reply outcome => some outcome
    | .value _ => none

/-- The unread frames are those of values with the answers that have not been read. The reader may be
inside the first of them. -/
def Kept.Unread (json : Json α) (kept : Kept α) (inside : Option (Sent α)) : Prop :=
  ∃ values,
    (match inside with
      | none => (sentFraming json).Whole kept.stream.fromCm kept.cm.phase.unsent values
      | some value => (sentFraming json).Inside kept.stream.fromCm kept.cm.phase.unsent value values) ∧
    repliesIn values = kept.reads.drop kept.answered ∧
    ∀ data, .value data ∈ values → data.isClipboardNonFile = false

/-- The task at the other end has only requests to read, and answers them in order. -/
structure Kept.Sound (json : Json α) (kept : Kept α) : Prop where
  requests : kept.stream.toCm =
    List.replicate (kept.asked - kept.reads.length) (json.encode (.clipboardNonFile none))
  inOrder : kept.answered ≤ kept.reads.length ∧ kept.reads.length ≤ kept.asked
  waits : kept.cm.phase.pending = none
  others : ∀ data ∈ kept.cm.rx, data.isClipboardNonFile = false
  texts : ∀ err, .error err ∈ kept.reads → err ≠ []

/-- Where a call stands in the stream that it reads. -/
def Kept.Position (json : Json α) (kept : Kept α) : Call → Prop
  | .idle => kept.asked = kept.answered → kept.Unread json none
  | .header => kept.asked = kept.answered + 1 ∧ kept.Unread json none
  | .raw contents => kept.asked = kept.answered ∧
      ∃ clipboards, contents = mainData clipboards ∧
        kept.reads[kept.asked - 1]? = some (.ok clipboards) ∧
        (kept.Unread json (some (.reply (.ok clipboards))))

def ClipboardService.Sound (json : Json α) (service : ClipboardService α) : Prop :=
  ∀ kept, service.stream = some kept → kept.alive = true →
    kept.Sound json ∧ kept.Position json service.call

/-- Without a large content nothing is raw. -/
theorem rawContents_eq_nil_iff (clipboards : List Clipboard) :
    rawContents clipboards = [] ↔ (mainData clipboards).any (·.nextRaw) = false := by
  rw [rawContents, List.flatMap_eq_nil_iff, List.any_eq_false]
  simp only [mainData, List.mem_map, forall_exists_index, and_imp, forall_apply_eq_imp_iff₂,
    decide_eq_true_eq, not_lt]
  refine forall₂_congr fun clipboard _ => ?_
  split
  next large => exact iff_of_false (List.ne_nil_of_length_pos (by omega)) (by omega)
  next small => exact iff_of_true rfl (by omega)

/-- The items without a raw part are complete. -/
theorem mainData_complete (clipboards : List Clipboard)
    (small : (mainData clipboards).any (·.nextRaw) = false) :
    (mainData clipboards).map (·.clipboard) = clipboards := by
  rw [List.any_eq_false] at small
  rw [mainData, List.map_map]
  conv_rhs => rw [← List.map_id clipboards]
  refine List.map_congr_left fun clipboard member => ?_
  have short : ¬ rawThreshold < clipboard.content.length := by
    simpa [mainData] using small _ (List.mem_map_of_mem member)
  simp [ClipboardNonFile.clipboard, short]

/-- The raw frame completes the items. -/
theorem splitRaw_mainData (clipboards : List Clipboard) :
    ∃ contents, splitRaw (mainData clipboards) (rawContents clipboards) = some contents ∧
      contents.map (·.clipboard) = clipboards := by
  induction clipboards with
  | nil => exact ⟨[], rfl, rfl⟩
  | cons clipboard rest ih =>
      obtain ⟨contents, split, same⟩ := ih
      simp only [mainData, rawContents] at split
      simp only [mainData, rawContents, List.map_cons, List.flatMap_cons, splitRaw]
      by_cases large : rawThreshold < clipboard.content.length
      · simpa [large, split, ClipboardNonFile.clipboard] using same
      · simpa [large, split, ClipboardNonFile.clipboard] using same

section OtherEnd

variable {kept after : Kept α} {inside : Option (Sent α)}

/-- Another value is behind the unread ones. -/
theorem Kept.Unread.write (unread : kept.Unread json inside) (value : Sent α)
    (quiet : kept.cm.phase.unsent = []) (inOrder : kept.answered ≤ kept.reads.length)
    (flight : after.stream.fromCm = kept.stream.fromCm ++ [(sentFraming json).header value])
    (unsent : after.cm.phase.unsent = ((sentFraming json).body value).toList)
    (reads : after.reads = kept.reads ++ repliesIn [value]) (answered : after.answered = kept.answered)
    (other : ∀ data, value = .value data → data.isClipboardNonFile = false) :
    after.Unread json inside := by
  obtain ⟨values, whole, replies, others⟩ := unread
  refine ⟨values ++ [value], ?_, ?_, ?_⟩
  · rw [quiet] at whole
    rw [flight, unsent]
    cases inside with
    | none => exact Framing.Whole.write whole value
    | some first => exact Framing.Inside.write whole value
  · rw [reads, answered, List.drop_append_of_le_length inOrder, ← replies]
    exact List.filterMap_append
  · intro data member
    rw [List.mem_append, List.mem_singleton] at member
    obtain member | same := member
    · exact others data member
    · exact other data same.symm

/-- A flushed answer is one that is underway. -/
theorem Kept.Unread.flush {payload : Bytes} (unread : kept.Unread json inside)
    (owes : kept.cm.phase.unsent = [payload])
    (flight : after.stream.fromCm = kept.stream.fromCm ++ [payload])
    (unsent : after.cm.phase.unsent = []) (reads : after.reads = kept.reads)
    (answered : after.answered = kept.answered) : after.Unread json inside := by
  obtain ⟨values, whole, replies, others⟩ := unread
  refine ⟨values, ?_, by rw [reads, answered, replies], others⟩
  rw [owes] at whole
  rw [flight, unsent]
  cases inside with
  | none => exact Framing.Whole.flush whole
  | some first => exact Framing.Inside.flush whole

/-- A call stands where it stood when the other end moves. -/
theorem Kept.Position.move {call : Call} (position : kept.Position json call)
    (asked : after.asked = kept.asked) (answered : after.answered = kept.answered)
    (reads : kept.reads <+: after.reads)
    (unread : ∀ inside, kept.Unread json inside → after.Unread json inside) :
    after.Position json call := by
  cases call with
  | idle =>
      intro same
      rw [asked, answered] at same
      exact unread none (position same)
  | header =>
      refine ⟨?_, unread none position.2⟩
      rw [asked, answered]
      exact position.1
  | raw contents =>
      obtain ⟨same, clipboards, main, read, inside⟩ := position
      refine ⟨?_, clipboards, main, ?_, unread _ inside⟩
      · rw [asked, answered]
        exact same
      · rw [asked]
        obtain ⟨more, split⟩ := reads
        obtain ⟨bound, -⟩ := List.getElem?_eq_some_iff.mp read
        rw [← split, List.getElem?_append_left bound]
        exact read

/-- What a step of the other end does to the stream. -/
inductive Kept.Moves (json : Json α) (kept : Kept α) : Kept α → Prop where
  | quiet (phase : Phase α) (unsent : phase.unsent = kept.cm.phase.unsent)
      (waits : phase.pending = none) :
      Moves json kept { kept with cm := { kept.cm with phase := phase } }
  | value (data : Data α) (rx : List (Data α)) (phase : Phase α) (idle : kept.cm.phase.unsent = [])
      (queued : kept.cm.rx = data :: rx ∨ (data = .clipboardFile .monitorReady ∧ kept.cm.rx = rx))
      (unsent : phase.unsent = ((cmFraming json).body data).toList) (waits : phase.pending = none) :
      Moves json kept
        { kept with
          cm := ⟨rx, phase⟩
          stream := { kept.stream with
            fromCm := kept.stream.fromCm ++ [(cmFraming json).header data] } }
  | reply (outcome : Except (List Char) (List Clipboard)) (phase : Phase α) (frame : Bytes)
      (rest : List Bytes) (idle : kept.cm.phase.unsent = []) (toCm : kept.stream.toCm = frame :: rest)
      (unsent : phase.unsent = (clipboardReply (α := α) outcome).2.toList)
      (waits : phase.pending = none) (text : ∀ err, outcome = .error err → err ≠ []) :
      Moves json kept
        { kept with
          cm := { kept.cm with phase := phase }
          stream := ⟨rest, kept.stream.fromCm ++ [json.encode (clipboardReply outcome).1]⟩
          reads := kept.reads ++ [outcome] }
  | flush (payload : Bytes) (owes : kept.cm.phase.unsent = [payload]) :
      Moves json kept
        { kept with
          cm := { kept.cm with phase := .idle }
          stream := { kept.stream with fromCm := kept.stream.fromCm ++ [payload] } }

theorem Kept.moves_refl (sound : kept.Sound json) : kept.Moves json kept :=
  .quiet kept.cm.phase rfl sound.waits

theorem Kept.moved_nil (kept : Kept α) (task : Task α) (stream : Stream) :
    kept.moved (task, stream, []) = { kept with cm := task, stream := stream } := by
  simp [Kept.moved, checkedIn]

theorem Kept.moved_sent (kept : Kept α) (task : Task α) (stream : Stream) (own : Bool) (data : Data α) :
    kept.moved (task, stream, [.sent .cm own data]) = { kept with cm := task, stream := stream } := by
  simp [Kept.moved, checkedIn]

/-- The start of the manager moves by the rules. -/
theorem Kept.cmStart_moves (sound : kept.Sound json) (enabled : Bool) :
    kept.Moves json (kept.moved (cmStart json true enabled kept.cm kept.stream)) := by
  obtain ⟨⟨rx, phase⟩, ⟨toCm, fromCm⟩, alive, asked, answered, reads⟩ := kept
  cases phase with
  | starting =>
      cases enabled with
      | false =>
          simp only [cmStart, Bool.and_false, Bool.false_eq_true, if_false, moved_nil]
          exact .quiet .idle rfl rfl
      | true =>
          simp only [cmStart, Bool.and_true, if_true, moved_sent]
          exact .value (.clipboardFile .monitorReady) rx .idle rfl (.inr ⟨rfl, rfl⟩) rfl rfl
  | _ =>
      simp only [cmStart, moved_nil]
      exact moves_refl sound

/-- A send of the manager moves by the rules. -/
theorem Kept.cmSend_moves (sound : kept.Sound json) :
    kept.Moves json (kept.moved (cmSend json kept.cm kept.stream)) := by
  obtain ⟨⟨rx, phase⟩, ⟨toCm, fromCm⟩, alive, asked, answered, reads⟩ := kept
  cases phase with
  | idle =>
      cases rx with
      | nil =>
          simp only [cmSend, moved_nil]
          exact moves_refl sound
      | cons data rest =>
          rw [cmSend_cons, moved_sent]
          obtain ⟨unsent, waits⟩ := unsent_elim (α := α) ((cmFraming json).body data)
          exact .value data rest _ rfl (.inl rfl) unsent waits
  | block payload =>
      simp only [cmSend, moved_nil]
      exact .flush payload rfl
  | _ =>
      simp only [cmSend, moved_nil]
      exact moves_refl sound

/-- A receipt of it moves by the rules. -/
theorem Kept.cmReceive_moves (sound : kept.Sound json)
    (outcome : Except (List Char) (List Clipboard)) (text : ∀ err, outcome = .error err → err ≠ []) :
    kept.Moves json (kept.moved (cmReceive json true outcome kept.cm kept.stream)) := by
  have requests := sound.requests
  have waits := sound.waits
  obtain ⟨⟨rx, phase⟩, ⟨toCm, fromCm⟩, alive, asked, answered, reads⟩ := kept
  cases phase with
  | attach header => cases waits
  | idle =>
      cases toCm with
      | nil =>
          simp only [cmReceive, moved_nil]
          exact moves_refl sound
      | cons frame rest =>
          have member : frame ∈ frame :: rest := List.mem_cons_self
          dsimp only at requests
          rw [requests] at member
          have request := List.eq_of_mem_replicate member
          have decoded : json.decode frame = some (.clipboardNonFile none) := by
            rw [request, json.decode_encode]
            rfl
          obtain ⟨unsent, waits⟩ := unsent_elim (α := α) (clipboardReply (α := α) outcome).2
          let kept : Kept α :=
            ⟨⟨rx, .idle⟩, ⟨frame :: rest, fromCm⟩, alive, asked, answered, reads⟩
          have move : kept.Moves json _ :=
            .reply outcome _ frame rest rfl rfl unsent waits text
          simpa [cmReceive, decoded, Kept.moved, checkedIn] using move
  | _ =>
      simp only [cmReceive, moved_nil]
      exact moves_refl sound

/-- A step of the other end keeps what holds of a live stream. -/
theorem Kept.Moves.sound {call : Call} (moves : kept.Moves json after) (sound : kept.Sound json)
    (position : kept.Position json call) : after.Sound json ∧ after.Position json call := by
  obtain ⟨requests, inOrder, waiting, others, texts⟩ := sound
  cases moves with
  | quiet phase unsent waits =>
      refine ⟨⟨requests, inOrder, waits, others, texts⟩,
        position.move rfl rfl (List.prefix_refl _) fun inside unread => ?_⟩
      obtain ⟨values, whole, replies⟩ := unread
      refine ⟨values, ?_, replies⟩
      dsimp only
      rw [unsent]
      exact whole
  | value data rx phase idle queued unsent waits =>
      have other : data.isClipboardNonFile = false := by
        obtain member | ⟨rfl, -⟩ := queued
        · exact others data (member ▸ List.mem_cons_self)
        · rfl
      have rest : ∀ data ∈ rx, data.isClipboardNonFile = false := by
        intro later member
        obtain split | ⟨-, same⟩ := queued
        · exact others later (split ▸ List.mem_cons_of_mem _ member)
        · exact others later (same ▸ member)
      refine ⟨⟨requests, inOrder, waits, rest, texts⟩,
        position.move rfl rfl (List.prefix_refl _) fun inside unread =>
          unread.write (.value data) idle inOrder.1 rfl unsent (List.append_nil _).symm rfl ?_⟩
      intro value same
      cases same
      exact other
  | reply outcome phase frame rest idle toCm unsent waits text =>
      have count : 0 < kept.asked - kept.reads.length := by
        have length := congrArg List.length requests
        rw [toCm, List.length_replicate, List.length_cons] at length
        omega
      refine ⟨⟨?_, ?_, waits, others, ?_⟩,
        position.move rfl rfl (List.prefix_append _ _) fun inside unread =>
          unread.write (.reply outcome) idle inOrder.1 rfl unsent rfl rfl (by simp)⟩
      · rw [toCm, ← Nat.succ_pred_eq_of_pos count, List.replicate_succ, List.cons.injEq] at requests
        dsimp only
        rw [requests.2, List.length_append, List.length_singleton]
        congr 1
      · dsimp only
        rw [List.length_append, List.length_singleton]
        omega
      · intro err member
        rw [List.mem_append, List.mem_singleton] at member
        obtain member | same := member
        · exact texts err member
        · exact text err same.symm
  | flush payload owes =>
      exact ⟨⟨requests, inOrder, rfl, others, texts⟩,
        position.move rfl rfl (List.prefix_refl _) fun inside unread =>
          unread.flush owes rfl rfl rfl rfl⟩

end OtherEnd

section Calls

variable {service : ClipboardService α}

/-- A step keeps the service sound, and its outcomes are good. -/
def Keeps (json : Json α) (stepped : ClipboardService α × List CallOutcome) : Prop :=
  stepped.1.Sound json ∧ ∀ outcome ∈ stepped.2, outcome.Good

theorem Keeps.same (sound : service.Sound json) : Keeps json (service, []) :=
  ⟨sound, fun _ none_ => nomatch none_⟩

theorem Keeps.failed (sound : service.Sound json) : Keeps json (service, [.failed]) :=
  ⟨sound, List.forall_mem_singleton.mpr trivial⟩

/-- A good outcome keeps the service. -/
theorem Keeps.live {kept : Kept α} {call : Call} {outcomes : List CallOutcome}
    (sound : kept.Sound json) (position : kept.Position json call)
    (good : ∀ outcome ∈ outcomes, outcome.Good) :
    Keeps json (({ stream := some kept, call := call } : ClipboardService α), outcomes) := by
  refine ⟨fun other same _ => ?_, good⟩
  obtain rfl := Option.some.inj same
  exact ⟨sound, position⟩

/-- A new connection is sound. -/
theorem Kept.connected_sound : (Kept.connected : Kept α).Sound json ∧
    (Kept.connected : Kept α).Position json .idle :=
  ⟨⟨rfl, ⟨le_rfl, le_rfl⟩, rfl, by simp [Kept.connected], by simp [Kept.connected]⟩,
    fun _ => ⟨[], Framing.whole_nil _, rfl, by simp⟩⟩

/-- A request on a stream without an outstanding answer. -/
theorem Kept.ask_sound {kept : Kept α} (sound : kept.Sound json) (position : kept.Position json .idle)
    (answered : kept.asked = kept.answered) :
    (kept.ask json).Sound json ∧ (kept.ask json).Position json .header := by
  obtain ⟨requests, inOrder, waits, others, texts⟩ := sound
  refine ⟨⟨?_, ?_, waits, others, texts⟩, congrArg (· + 1) answered, position answered⟩
  · have count : kept.asked + 1 - kept.reads.length = (kept.asked - kept.reads.length) + 1 := by omega
    change kept.stream.toCm ++ [_] = List.replicate (kept.asked + 1 - kept.reads.length) _
    rw [count, List.replicate_succ', requests]
  · change kept.answered ≤ kept.reads.length ∧ kept.reads.length ≤ kept.asked + 1
    omega

/-- A new connection keeps the service. -/
theorem reconnect_keeps (sound : service.Sound json) (connect : Connect) :
    Keeps json (reconnect json service connect) := by
  cases connect with
  | ready =>
      have connected : (Kept.connected : Kept α).Sound json ∧
          (Kept.connected : Kept α).Position json .idle := Kept.connected_sound
      obtain ⟨sound, position⟩ := Kept.ask_sound connected.1 connected.2 rfl
      exact .live sound position (by simp)
  | refused => exact .failed sound
  | broken => exact .failed sound

/-- A careful call keeps the service. -/
theorem beginCall_keeps (sound : service.Sound json) (sent : Bool) (connect : Connect)
    (careful : Careful service (.call sent connect)) :
    Keeps json (beginCall json service sent connect) := by
  obtain ⟨stream, call⟩ := service
  cases call with
  | header => exact .same sound
  | raw contents => exact .same sound
  | idle =>
      cases stream with
      | none => exact reconnect_keeps sound connect
      | some kept =>
          cases sent with
          | false => exact reconnect_keeps sound connect
          | true =>
              refine ⟨fun other same alive => ?_, fun _ none_ => nomatch none_⟩
              obtain rfl := Option.some.inj same
              obtain ⟨before, position⟩ := sound kept rfl alive
              exact Kept.ask_sound before position (careful rfl kept rfl alive)

/-- A careful timeout keeps the service. -/
theorem timeout_keeps (sound : service.Sound json) (careful : Careful service .timeout) :
    Keeps json (timeout service) := by
  obtain ⟨stream, call⟩ := service
  cases call with
  | idle => exact .same sound
  | raw contents => exact absurd rfl (careful contents)
  | header =>
      refine .failed fun kept same alive => ?_
      obtain ⟨before, position⟩ := sound kept same alive
      refine ⟨before, fun answered => ?_⟩
      have asked := position.1
      omega

/-- A reset keeps the service. -/
theorem reset_keeps (sound : service.Sound json) : Keeps json (reset service) := by
  obtain ⟨stream, call⟩ := service
  cases call with
  | idle => exact .same sound
  | raw contents => exact .failed fun kept none_ => nomatch none_
  | header =>
      refine .failed fun kept same alive => ?_
      cases stream with
      | none => cases same
      | some before =>
          obtain rfl := Option.some.inj same
          cases alive

/-- A sound move keeps the service. -/
theorem onKept_keeps (sound : service.Sound json) (move : Kept α → Kept α)
    (moves : ∀ kept, kept.Sound json → kept.Position json service.call →
      (move kept).Sound json ∧ (move kept).Position json service.call) :
    Keeps json (onKept service move) := by
  refine ⟨fun after same alive => ?_, fun _ none_ => nomatch none_⟩
  obtain ⟨stream, call⟩ := service
  cases stream with
  | none => cases same
  | some kept =>
      simp only [onKept, Option.map_some, Option.some.injEq] at same
      by_cases live : kept.alive = true
      · rw [if_pos live] at same
        obtain ⟨before, position⟩ := sound kept rfl live
        exact same ▸ moves kept before position
      · rw [if_neg live] at same
        exact absurd (same ▸ alive) live

/-- A raw content keeps the service. -/
theorem onRaw_keeps {kept : Kept α} {contents : List ClipboardNonFile} {data : Bytes}
    {rest : List Bytes} (sound : kept.Sound json) (position : kept.Position json (.raw contents))
    (flight : kept.stream.fromCm = data :: rest) :
    Keeps json (onRaw { kept with stream := { kept.stream with fromCm := rest } } contents data) := by
  obtain ⟨requests, inOrder, waits, others, texts⟩ := sound
  obtain ⟨asked, clipboards, rfl, read, values, inside, replies, noAnswers⟩ := position
  dsimp only at inside
  rw [flight] at inside
  obtain ⟨body, whole⟩ := inside.read
  have same : data = rawContents clipboards := by
    by_cases empty : rawContents clipboards = []
    · simp [sentFraming, clipboardReply, empty] at body
    · simpa [sentFraming, clipboardReply, empty] using body.symm
  obtain ⟨contents, split, complete⟩ := splitRaw_mainData clipboards
  rw [same, onRaw, split]
  refine .live ⟨requests, inOrder, waits, others, texts⟩
    (fun _ => ⟨values, whole, replies, noAnswers⟩) (List.forall_mem_singleton.mpr ?_)
  exact ⟨asked.symm, clipboards, read, complete⟩

/-- The first unread answer belongs to the request that the call has made. -/
theorem Kept.first_reply {kept : Kept α} {outcome : Except (List Char) (List Clipboard)}
    {later : List (Sent α)} (replies : repliesIn (.reply outcome :: later) =
      kept.reads.drop kept.answered) :
    kept.reads[kept.answered]? = some outcome ∧ kept.answered < kept.reads.length ∧
      repliesIn later = kept.reads.drop (kept.answered + 1) := by
  change outcome :: repliesIn later = _ at replies
  have first : kept.reads[kept.answered]? = some outcome := by
    rw [← List.head?_drop, ← replies, List.head?_cons]
  refine ⟨first, (List.getElem?_eq_some_iff.mp first).1, ?_⟩
  rw [← List.tail_drop, ← replies, List.tail_cons]

/-- A reply keeps the service. -/
theorem onMessage_reply_keeps {kept : Kept α} {rest : List Bytes} {later : List (Sent α)}
    {outcome : Except (List Char) (List Clipboard)} (sound : kept.Sound json)
    (asked : kept.asked = kept.answered + 1)
    (replies : repliesIn (.reply outcome :: later) = kept.reads.drop kept.answered)
    (noAnswers : ∀ data, .value data ∈ later → data.isClipboardNonFile = false)
    (read : ((sentFraming json).body (.reply outcome) = none ∧
        (sentFraming json).Whole rest kept.cm.phase.unsent later) ∨
      (((sentFraming json).body (.reply outcome)).isSome = true ∧
        (sentFraming json).Inside rest kept.cm.phase.unsent (.reply outcome) later)) :
    Keeps json (onMessage { kept with stream := { kept.stream with fromCm := rest } }
      (some (clipboardReply outcome).1)) := by
  obtain ⟨requests, inOrder, waits, others, texts⟩ := sound
  obtain ⟨first, bound, left⟩ := Kept.first_reply replies
  have own : kept.reads[kept.asked - 1]? = some outcome := by
    rw [asked, Nat.add_sub_cancel]
    exact first
  have after : Kept.Sound json { kept with
      stream := { kept.stream with fromCm := rest }
      answered := kept.answered + 1 } :=
    ⟨requests, ⟨bound, inOrder.2⟩, waits, others, texts⟩
  cases outcome with
  | error err =>
      have text := texts err (List.mem_of_getElem? first)
      obtain ⟨-, whole⟩ | ⟨some_, -⟩ := read
      · simp only [clipboardReply, onMessage, ne_eq, text, not_false_eq_true, if_true]
        exact .live after (fun _ => ⟨later, whole, left, noAnswers⟩) (List.forall_mem_singleton.mpr trivial)
      · cases some_
  | ok clipboards =>
      simp only [clipboardReply, onMessage, ne_eq, not_true_eq_false, if_false]
      by_cases large : (mainData clipboards).any (·.nextRaw) = true
      · have filled : rawContents clipboards ≠ [] := by
          rw [ne_eq, rawContents_eq_nil_iff, large]
          exact Bool.noConfusion
        rw [if_pos large]
        obtain ⟨none_, -⟩ | ⟨-, inside⟩ := read
        · simp [sentFraming, clipboardReply, filled] at none_
        · exact .live after ⟨asked, clipboards, rfl, own, later, inside, left, noAnswers⟩ (by simp)
      · rw [Bool.not_eq_true] at large
        have empty := (rawContents_eq_nil_iff clipboards).mpr large
        rw [large, if_neg Bool.false_ne_true]
        obtain ⟨-, whole⟩ | ⟨some_, -⟩ := read
        · refine .live after (fun _ => ⟨later, whole, left, noAnswers⟩) (List.forall_mem_singleton.mpr ?_)
          exact ⟨asked.symm, clipboards, own, mainData_complete clipboards large⟩
        · simp [sentFraming, clipboardReply, empty] at some_

/-- Another message is the announcement, or ends the call before its answer has been read. -/
theorem onMessage_other_keeps {kept : Kept α} {data : Data α} (sound : kept.Sound json)
    (asked : kept.asked = kept.answered + 1) (other : data.isClipboardNonFile = false)
    (unread : data = .clipboardFile .monitorReady → kept.Unread json none) :
    Keeps json (onMessage kept (some data)) := by
  have ends : Keeps json (({ stream := some kept, call := .idle } : ClipboardService α), [.failed]) :=
    .live sound (fun answered => by omega) (List.forall_mem_singleton.mpr trivial)
  cases data with
  | clipboardNonFile reply => cases other
  | clipboardFile file =>
      cases file with
      | monitorReady => exact .live sound ⟨asked, unread rfl⟩ (by simp)
      | other file => exact ends
  | _ => exact ends

/-- A header keeps the service. -/
theorem header_keeps {kept : Kept α} {frame : Bytes} {rest : List Bytes} (sound : kept.Sound json)
    (position : kept.Position json .header) (flight : kept.stream.fromCm = frame :: rest) :
    Keeps json (onMessage { kept with stream := { kept.stream with fromCm := rest } }
      (json.decode frame)) := by
  obtain ⟨asked, values, whole, replies, noAnswers⟩ := position
  dsimp only at whole
  rw [flight] at whole
  obtain ⟨value, later, rfl, rfl, read⟩ := whole.read
  have noLater : ∀ data, .value data ∈ later → data.isClipboardNonFile = false :=
    fun data member => noAnswers data (List.mem_cons_of_mem _ member)
  cases value with
  | reply outcome =>
      have decoded : json.decode ((sentFraming json).header (.reply outcome)) =
          some (clipboardReply outcome).1 := by
        cases outcome <;> exact json.decode_encode _
      rw [decoded]
      exact onMessage_reply_keeps sound asked replies noLater read
  | value data =>
      have other := noAnswers data List.mem_cons_self
      obtain ⟨requests, inOrder, waits, others, texts⟩ := sound
      have after : Kept.Sound json { kept with stream := { kept.stream with fromCm := rest } } :=
        ⟨requests, inOrder, waits, others, texts⟩
      change Keeps json (onMessage _ (json.decode ((cmFraming json).header data)))
      obtain ⟨bare, decoded, -⟩ | ⟨id, fileNum, block, compressed, connId, rfl, decoded⟩ :=
        cmFraming_cases json data
      · rw [decoded]
        refine onMessage_other_keeps after asked other fun _ => ?_
        obtain ⟨-, whole⟩ | ⟨some_, -⟩ := read
        · exact ⟨later, whole, replies, noLater⟩
        · change ((cmFraming json).body data).isSome = true at some_
          rw [bare] at some_
          cases some_
      · rw [decoded]
        exact onMessage_other_keeps after asked rfl fun same => nomatch same

/-- A receipt keeps the service. -/
theorem receive_keeps (sound : service.Sound json) : Keeps json (receive json service) := by
  obtain ⟨stream, call⟩ := service
  cases stream with
  | none => exact .same sound
  | some kept =>
      obtain ⟨cm, ⟨toCm, fromCm⟩, alive, asked, answered, reads⟩ := kept
      cases alive with
      | false => cases call <;> exact .same sound
      | true =>
          obtain ⟨before, position⟩ := sound _ rfl rfl
          cases fromCm with
          | nil => cases call <;> exact .same sound
          | cons frame rest =>
              cases call with
              | idle => exact .same sound
              | header => exact header_keeps before position rfl
              | raw contents => exact onRaw_keeps before position rfl

/-- One careful input keeps the service. -/
theorem step_keeps (sound : service.Sound json) (input : ServiceInput α)
    (careful : Careful service input) : Keeps json ((clipboardService json).step service input) := by
  cases input with
  | call sent connect => exact beginCall_keeps sound sent connect careful
  | receive => exact receive_keeps sound
  | timeout => exact timeout_keeps sound careful
  | reset => exact reset_keeps sound
  | queue data =>
      refine onKept_keeps sound _ fun kept before position => ⟨?_, ?_⟩
      · obtain ⟨requests, inOrder, waits, others, texts⟩ := before
        refine ⟨requests, inOrder, waits, ?_, texts⟩
        exact List.forall_mem_append.mpr ⟨others, List.forall_mem_singleton.mpr careful⟩
      · exact position.move rfl rfl (List.prefix_refl _) fun _ unread => unread
  | cmStart enabled =>
      exact onKept_keeps sound _ fun kept before position =>
        (Kept.cmStart_moves before enabled).sound before position
  | cmReceive outcome =>
      exact onKept_keeps sound _ fun kept before position =>
        (Kept.cmReceive_moves before outcome careful).sound before position
  | cmSend =>
      exact onKept_keeps sound _ fun kept before position =>
        (Kept.cmSend_moves before).sound before position

end Calls

/-- Every contents that a careful run returns is what the connection manager read for that request. -/
theorem answers_own_request (json : Json α) (inputs : List (ServiceInput α))
    (careful : (clipboardService json).Guarded Careful (.start α) inputs) :
    ∀ outcome ∈ ((clipboardService json).run (.start α) inputs).2, outcome.Good := by
  have kept := (clipboardService json).run_invariant Careful
    (fun service past => service.Sound json ∧ ∀ outcome ∈ past, outcome.Good)
    (fun service past input fine both =>
      ⟨(step_keeps both.1 input fine).1,
        List.forall_mem_append.mpr ⟨both.2, (step_keeps both.1 input fine).2⟩⟩)
    (.start α) [] inputs ⟨fun _ none_ => (nomatch none_), by simp⟩ careful
  exact kept.2

def text (content : Bytes) : Clipboard where
  compress := false
  content := content
  width := 0
  height := 0
  format := 0
  specialName := []

def largeItemRun : List CallOutcome :=
  ((clipboardService numbered).run (.start Nat)
    [.call false .ready, .cmStart true, .receive, .cmReceive (.ok [text (.replicate 4000 7)]), .receive,
      .cmSend, .receive]).2

/-- A call that announces, answers and completes a large item. -/
theorem large_item_answered :
    largeItemRun.length = 1 ∧ ∀ outcome ∈ largeItemRun, outcome.Good := by
  constructor
  · decide +kernel
  · refine answers_own_request numbered _
      ⟨?_, trivial, trivial, ?_, trivial, trivial, trivial, trivial⟩
    · intro sent
      cases sent
    · intro err same
      cases same

/-- A late answer stays on the stream. -/
theorem late_answer_run (json : Json α) :
    ((clipboardService json).run (.start α)
      [.call false .ready, .cmStart false, .timeout, .cmReceive (.ok [text [1]]), .call true .ready,
        .receive]).2 = [.failed, .ok 2 1 none (mainData [text [1]])] := by
  simp [Machine.run, clipboardService, ClipboardService.start, beginCall, reconnect, Kept.connected,
    Kept.ask, onKept, Kept.moved, cmStart, cmReceive, timeout, receive, onMessage, Kept.ok, checkedIn,
    clipboardReply, json.decode_encode, Data.skipped, mainData, rawContents, text, rawThreshold]

/-- A late raw content stays on the stream. -/
theorem late_raw_run (json : Json α) (content : Bytes) (large : rawThreshold < content.length) :
    ((clipboardService json).run (.start α)
      [.call false .ready, .cmStart false, .cmReceive (.ok [text content]), .receive, .timeout]).2 =
        [.ok 1 1 (some (.ok [text content])) (mainData [text content])] := by
  have filled : content ≠ [] := List.ne_nil_of_length_pos (by omega)
  simp [Machine.run, clipboardService, ClipboardService.start, beginCall, reconnect, Kept.connected,
    Kept.ask, onKept, Kept.moved, cmStart, cmReceive, timeout, receive, onMessage, Kept.ok, checkedIn,
    clipboardReply, json.decode_encode, Data.skipped, mainData, rawContents, text, large]

theorem late_raw_bad (content : Bytes) (large : rawThreshold < content.length) :
    (mainData [text content]).map (·.content) = [[]] ∧
    ¬ (CallOutcome.ok 1 1 (some (.ok [text content])) (mainData [text content])).Good := by
  have filled : content ≠ [] := List.ne_nil_of_length_pos (by omega)
  refine ⟨by simp [mainData, text, large], ?_⟩
  rintro ⟨-, clipboards, own, contents⟩
  cases own
  simp [mainData, text, large, ClipboardNonFile.clipboard, filled.symm] at contents

/-- A call returns the late answer to the call before it, and a call returns a large item without its
content. -/
theorem late_frames_returned :
    (∃ inputs, ∃ outcome ∈ ((clipboardService numbered).run (.start Nat) inputs).2,
      (∃ contents, outcome = .ok 2 1 none contents) ∧ ¬ outcome.Good) ∧
    ∃ inputs, ∃ outcome ∈ ((clipboardService numbered).run (.start Nat) inputs).2,
      (∃ own contents, outcome = .ok 1 1 own contents ∧ contents.map (·.content) = [[]]) ∧
        ¬ outcome.Good := by
  have large : rawThreshold < (List.replicate 4000 (7 : UInt8)).length := by
    rw [List.length_replicate]
    decide
  constructor
  · refine ⟨_, _, late_answer_run numbered ▸ List.mem_cons_of_mem _ List.mem_cons_self, ⟨_, rfl⟩, ?_⟩
    rintro ⟨same, -⟩
    cases same
  · obtain ⟨missing, bad⟩ := late_raw_bad _ large
    exact ⟨_, _, late_raw_run numbered _ large ▸ List.mem_cons_self, ⟨_, _, rfl, missing⟩, bad⟩

end SubnetDesk.Ipc
