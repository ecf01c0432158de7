import SubnetDesk.Construction.Terminal.Output

namespace SubnetDesk.Terminal

theorem storeAt_nil (buf : Bytes) (pos : Nat) : storeAt buf pos [] = buf := by
  simp [storeAt]

theorem storeAt_whole (buf bytes : Bytes) (fits : buf.length = bytes.length) :
    storeAt buf 0 bytes = bytes := by
  simp [storeAt, ← fits]

/-- Stored bytes are read back. -/
theorem storeAt_take (buf bytes : Bytes) : (storeAt buf 0 bytes).take bytes.length = bytes := by
  simp [storeAt]

/-- Two parts are stored as one. -/
theorem storeAt_storeAt (buf first second : Bytes) (pos : Nat) (inside : pos ≤ buf.length) :
    storeAt (storeAt buf pos first) (pos + first.length) second =
      storeAt buf pos (first ++ second) := by
  have placed : (buf.take pos ++ first).length = pos + first.length := by
    simp [inside]
  unfold storeAt
  rw [List.take_left' placed, List.drop_append, placed, List.drop_eq_nil_of_le (by omega),
    List.nil_append, List.drop_drop]
  simp only [List.append_assoc, List.length_append, List.append_cancel_left_eq]
  congr 1
  omega

/-- A pipe with enough bytes fills the buffer and keeps the rest. -/
theorem readExactOrEof_filled (length : Nat) (pipe : Pipe) (buf : Bytes) (pos : Nat)
    (started : pos ≤ length) (room : length ≤ buf.length)
    (enough : length - pos ≤ pipe.bytes.length) :
    ∃ rest : Pipe, readExactOrEof length pipe buf pos =
        (.filled, storeAt buf pos (pipe.bytes.take (length - pos)), rest) ∧
      rest.bytes = pipe.bytes.drop (length - pos) := by
  induction pipe generalizing buf pos with
  | nil =>
      have done : length ≤ pos := by
        simp only [Pipe.bytes, List.length_nil] at enough
        omega
      exact ⟨[], by simp [readExactOrEof, done, Pipe.bytes, storeAt_nil], by simp [Pipe.bytes]⟩
  | cons read rest ih =>
      by_cases done : length ≤ pos
      · have none_ : length - pos = 0 := by omega
        refine ⟨read :: rest, ?_, by rw [none_, List.drop_zero]⟩
        rw [none_, List.take_zero, storeAt_nil]
        cases read <;> rw [readExactOrEof, if_pos done]
      · cases read with
        | interrupted =>
            rw [readExactOrEof, if_neg done]
            exact ih buf pos started room enough
        | failed =>
            simp only [Pipe.bytes, List.length_nil] at enough
            omega
        | data first more =>
            have bytes : Pipe.bytes (.data first more :: rest) =
                (first :: more) ++ Pipe.bytes rest := rfl
            rw [readExactOrEof, if_neg done, bytes]
            rw [bytes, List.length_append] at enough
            dsimp only
            split
            next drained =>
              have short : (first :: more).length ≤ length - pos :=
                List.drop_eq_nil_iff.mp drained
              have stored : length ≤ (storeAt buf pos (first :: more)).length := by
                simp only [storeAt, List.length_append, List.length_take, List.length_drop]
                omega
              rw [List.take_of_length_le short]
              obtain ⟨left, eq, leftBytes⟩ := ih (storeAt buf pos (first :: more))
                (pos + (first :: more).length) (by omega) stored (by omega)
              refine ⟨left, ?_, ?_⟩
              · rw [eq, storeAt_storeAt buf _ _ pos (by omega), List.take_append,
                  List.take_of_length_le short, Nat.sub_sub]
              · rw [leftBytes, List.drop_append, drained, List.nil_append, Nat.sub_sub]
            next next later left =>
              have long : length - pos < (first :: more).length := by
                by_contra short
                rw [List.drop_eq_nil_of_le (by omega)] at left
                simp at left
              refine ⟨.data next later :: rest, ?_, ?_⟩
              · rw [List.take_append_of_le_length (by omega)]
              · rw [List.drop_append_of_le_length (by omega), left]
                rfl

/-- A pipe that ends early does not fill the buffer. -/
theorem readExactOrEof_short (length : Nat) (pipe : Pipe) (buf : Bytes) (pos : Nat)
    (short : pipe.bytes.length < length - pos) :
    (readExactOrEof length pipe buf pos).1 ≠ .filled := by
  induction pipe generalizing buf pos with
  | nil =>
      rw [readExactOrEof, if_neg (by omega)]
      simp
  | cons read rest ih =>
      have open_ : ¬ length ≤ pos := by omega
      cases read with
      | interrupted =>
          rw [readExactOrEof, if_neg open_]
          exact ih buf pos short
      | failed =>
          rw [readExactOrEof, if_neg open_]
          simp
      | data first more =>
          have bytes : (Pipe.bytes (.data first more :: rest)).length =
              (first :: more).length + (Pipe.bytes rest).length := by
            simp [Pipe.bytes]
            omega
          rw [bytes] at short
          rw [readExactOrEof, if_neg open_]
          have drained : (first :: more).drop (length - pos) = [] :=
            List.drop_eq_nil_of_le (by omega)
          rw [drained]
          dsimp only
          rw [List.take_of_length_le (by omega)]
          exact ih _ _ (by omega)

/-- A length survives its four bytes. -/
theorem u32_roundTrip (value : Nat) (small : value < 2 ^ 32) :
    u32FromLeBytes (UInt8.ofNat value) (UInt8.ofNat (value / 2 ^ 8))
      (UInt8.ofNat (value / 2 ^ 16)) (UInt8.ofNat (value / 2 ^ 24)) = value := by
  simp only [u32FromLeBytes, UInt8.toNat_ofNat']
  omega

/-- A size survives its two bytes. -/
theorem u16_roundTrip (value : UInt16) :
    u16FromLeBytes (UInt8.ofNat value.toNat) (UInt8.ofNat (value.toNat / 2 ^ 8)) = value := by
  have small := value.toNat_lt
  have eq : value.toNat % 2 ^ 8 + 2 ^ 8 * (value.toNat / 2 ^ 8 % 2 ^ 8) = value.toNat := by omega
  simp only [u16FromLeBytes, UInt8.toNat_ofNat', eq, UInt16.ofNat_toNat]

def HelperMessage.msgType : HelperMessage → UInt8
  | .data _ _ => msgTypeData
  | .resize _ _ => msgTypeResize

def HelperMessage.payload : HelperMessage → Bytes
  | .data payload _ => payload
  | .resize rows cols => u16ToLeBytes rows ++ u16ToLeBytes cols

theorem HelperMessage.encode_eq (message : HelperMessage) :
    message.encode = encodeHelperMessage message.msgType message.payload := by
  cases message <;> rfl

/-- A payload fits the limit. -/
theorem HelperMessage.payload_small (message : HelperMessage) :
    message.payload.length ≤ maxPayloadSize := by
  cases message with
  | data payload small => exact small
  | resize rows cols => simp [payload, u16ToLeBytes, maxPayloadSize]

/-- The terminal call that a message asks for. -/
def HelperMessage.call : HelperMessage → PtyCall
  | .data payload _ => .write payload
  | .resize rows cols => .resize rows cols

/-- The thread stops before a turn after the shell has ended and after a failed write. -/
def performed (turns : Nat → HelperTurn) : Nat → List HelperMessage → List PtyCall
  | _, [] => []
  | index, message :: rest =>
      if (turns index).exiting then []
      else
        message.call ::
          if message.msgType = msgTypeData ∧ (turns index).writeFails then []
          else performed turns (index + 1) rest

/-- The messages of a stream that are complete in its first bytes. -/
def completeMessages : List HelperMessage → Nat → List HelperMessage
  | [], _ => []
  | message :: rest, length =>
      if message.encode.length ≤ length then
        message :: completeMessages rest (length - message.encode.length)
      else []

theorem HelperMessage.encode_length (message : HelperMessage) :
    message.encode.length = msgHeaderSize + message.payload.length := by
  rw [encode_eq]
  simp [encodeHelperMessage, u32ToLeBytes, msgHeaderSize]
  omega

/-- The header of a message as it stands in the header buffer. -/
def HelperMessage.header (message : HelperMessage) : Bytes :=
  message.msgType :: u32ToLeBytes message.payload.length

/-- A message is a header and a payload. -/
theorem HelperMessage.encode_header (message : HelperMessage) :
    message.encode = message.header ++ message.payload := by
  rw [encode_eq, encodeHelperMessage, header, List.cons_append]

theorem HelperMessage.header_length (message : HelperMessage) :
    message.header.length = msgHeaderSize := by
  simp [header, u32ToLeBytes, msgHeaderSize]

/-- The header tells the length. -/
theorem HelperMessage.header_payloadLen (message : HelperMessage) :
    u32FromLeBytes (message.header.getD 1 0) (message.header.getD 2 0)
      (message.header.getD 3 0) (message.header.getD 4 0) = message.payload.length := by
  have small := message.payload_small
  simp only [maxPayloadSize] at small
  exact u32_roundTrip message.payload.length (by omega)

/-- A whole header is read whatever the header buffer held before. -/
theorem readHeader (message : HelperMessage) (pipe : Pipe) (headerBuf later : Bytes)
    (room : headerBuf.length = msgHeaderSize) (bytes : pipe.bytes = message.header ++ later) :
    ∃ rest : Pipe, readExactOrEof msgHeaderSize pipe headerBuf 0 =
        (.filled, message.header, rest) ∧ rest.bytes = later := by
  have length := message.header_length
  obtain ⟨rest, eq, left⟩ := readExactOrEof_filled msgHeaderSize pipe headerBuf 0
    (Nat.zero_le _) (by omega) (by rw [bytes, List.length_append]; omega)
  refine ⟨rest, ?_, ?_⟩
  · rw [eq, bytes, Nat.sub_zero, List.take_left' length, storeAt_whole _ _ (by omega)]
  · rw [left, bytes, Nat.sub_zero, List.drop_left' length]

def grownBuf (payloadBuf : Bytes) (payloadLen : Nat) : Bytes :=
  if payloadBuf.length < payloadLen then
    payloadBuf ++ List.replicate (payloadLen - payloadBuf.length) 0
  else payloadBuf

theorem le_grownBuf (payloadBuf : Bytes) (payloadLen : Nat) :
    payloadLen ≤ (grownBuf payloadBuf payloadLen).length := by
  unfold grownBuf
  split
  next short =>
    rw [List.length_append, List.length_replicate]
    omega
  next => omega

def readPayload (payloadLen : Nat) (pipe : Pipe) (payloadBuf : Bytes) : ReadEnd × Bytes × Pipe :=
  if 0 < payloadLen then readExactOrEof payloadLen pipe (grownBuf payloadBuf payloadLen) 0
  else (.filled, grownBuf payloadBuf payloadLen, pipe)

/-- A whole payload is read into the front of the reused buffer. -/
theorem readPayload_filled (payload later : Bytes) (pipe : Pipe) (payloadBuf : Bytes)
    (bytes : pipe.bytes = payload ++ later) :
    ∃ (stored : Bytes) (rest : Pipe),
      readPayload payload.length pipe payloadBuf = (.filled, stored, rest) ∧
        stored.take payload.length = payload ∧ rest.bytes = later := by
  unfold readPayload
  split
  next filled =>
    obtain ⟨rest, eq, left⟩ := readExactOrEof_filled payload.length pipe
      (grownBuf payloadBuf payload.length) 0 (Nat.zero_le _) (le_grownBuf _ _)
      (by rw [bytes, List.length_append]; omega)
    refine ⟨_, rest, eq, ?_, ?_⟩
    · rw [bytes, Nat.sub_zero, List.take_left, storeAt_take]
    · rw [left, bytes, Nat.sub_zero, List.drop_left]
  next empty =>
    obtain rfl := List.length_eq_zero_iff.mp (show payload.length = 0 by omega)
    exact ⟨_, pipe, rfl, by simp, by simpa using bytes⟩

/-- A turn of the loop that reads a whole header. -/
theorem inputLoop_header (turns : Nat → HelperTurn) (fuel index : Nat) (message : HelperMessage)
    (pipe rest : Pipe) (headerBuf payloadBuf : Bytes)
    (running : (turns index).exiting = false)
    (read : readExactOrEof msgHeaderSize pipe headerBuf 0 = (.filled, message.header, rest)) :
    inputLoop turns (fuel + 1) index pipe headerBuf payloadBuf =
      if (readPayload message.payload.length rest payloadBuf).1 ≠ .filled then []
      else
        let payload := (readPayload message.payload.length rest payloadBuf).2.1
        let next := inputLoop turns fuel (index + 1)
          (readPayload message.payload.length rest payloadBuf).2.2 message.header payload
        if message.msgType = msgTypeData then
          .write (payload.take message.payload.length) ::
            if (turns index).writeFails then [] else next
        else if message.msgType = msgTypeResize then
          (if 4 ≤ message.payload.length then
            [PtyCall.resize (u16FromLeBytes (payload.getD 0 0) (payload.getD 1 0))
              (u16FromLeBytes (payload.getD 2 0) (payload.getD 3 0))]
          else []) ++ next
        else [] := by
  have small : ¬ maxPayloadSize < message.payload.length := by
    have bound := message.payload_small
    omega
  rw [inputLoop, running, read]
  simp only [Bool.false_eq_true, if_false, message.header_payloadLen, if_neg small]
  rfl

/-- A complete message is passed to the terminal and the loop goes on behind it. -/
theorem inputLoop_message (turns : Nat → HelperTurn) (fuel index : Nat) (message : HelperMessage)
    (pipe : Pipe) (headerBuf payloadBuf later : Bytes)
    (running : (turns index).exiting = false) (room : headerBuf.length = msgHeaderSize)
    (bytes : pipe.bytes = message.encode ++ later) :
    ∃ (rest : Pipe) (stored : Bytes), rest.bytes = later ∧
      inputLoop turns (fuel + 1) index pipe headerBuf payloadBuf =
        message.call ::
          if message.msgType = msgTypeData ∧ (turns index).writeFails then []
          else inputLoop turns fuel (index + 1) rest message.header stored := by
  rw [message.encode_header, List.append_assoc] at bytes
  obtain ⟨behind, read, behindBytes⟩ := readHeader message pipe headerBuf _ room bytes
  obtain ⟨stored, rest, filled, front, restBytes⟩ :=
    readPayload_filled message.payload later behind payloadBuf behindBytes
  refine ⟨rest, stored, restBytes, ?_⟩
  rw [inputLoop_header turns fuel index message pipe behind headerBuf payloadBuf running read,
    filled]
  cases message with
  | data payload small =>
      simp only [HelperMessage.payload] at front
      simp [HelperMessage.msgType, HelperMessage.call, HelperMessage.payload, front]
  | resize rows cols =>
      have split : ∃ tail, stored = u16ToLeBytes rows ++ u16ToLeBytes cols ++ tail :=
        ⟨_, by rw [← List.take_append_drop _ stored, front]; rfl⟩
      obtain ⟨tail, rfl⟩ := split
      have long : 4 ≤ (HelperMessage.resize rows cols).payload.length := Nat.le_refl 4
      have other : ¬ (HelperMessage.resize rows cols).msgType = msgTypeData := by
        simp [HelperMessage.msgType, msgTypeData, msgTypeResize]
      have here : (HelperMessage.resize rows cols).msgType = msgTypeResize := rfl
      simp only [ne_eq, not_true_eq_false, if_false, if_pos here, if_pos long, other,
        false_and, HelperMessage.call, List.singleton_append, List.cons.injEq, and_true]
      exact congrArg₂ PtyCall.resize (u16_roundTrip rows) (u16_roundTrip cols)

/-- A message that is cut off ends the loop without a call. -/
theorem inputLoop_cut (turns : Nat → HelperTurn) (fuel index : Nat) (message : HelperMessage)
    (pipe : Pipe) (headerBuf payloadBuf : Bytes) (length : Nat)
    (room : headerBuf.length = msgHeaderSize) (cut : length < message.encode.length)
    (bytes : pipe.bytes = message.encode.take length) :
    inputLoop turns (fuel + 1) index pipe headerBuf payloadBuf = [] := by
  have whole := message.encode_length
  by_cases ended : (turns index).exiting = true
  · rw [inputLoop, if_pos ended]
  · have running : (turns index).exiting = false := by simpa using ended
    by_cases short : length < msgHeaderSize
    · have unread := readExactOrEof_short msgHeaderSize pipe headerBuf 0
        (by rw [bytes, List.length_take]; omega)
      rw [inputLoop, if_neg ended]
      generalize readExactOrEof msgHeaderSize pipe headerBuf 0 = result at unread
      obtain ⟨ending, header, rest⟩ := result
      cases ending with
      | filled => exact absurd rfl unread
      | eof => rfl
      | error => rfl
    · rw [message.encode_header, List.take_append, message.header_length,
        List.take_of_length_le (by rw [message.header_length]; omega)] at bytes
      obtain ⟨behind, read, behindBytes⟩ := readHeader message pipe headerBuf _ room bytes
      rw [inputLoop_header turns fuel index message pipe behind headerBuf payloadBuf running read]
      have unread : (readPayload message.payload.length behind payloadBuf).1 ≠ .filled := by
        rw [readPayload, if_pos (by omega)]
        refine readExactOrEof_short _ _ _ _ ?_
        rw [behindBytes, List.length_take]
        omega
      rw [if_pos unread]

/-- A drained pipe ends the loop. -/
theorem inputLoop_drained (turns : Nat → HelperTurn) (fuel index : Nat) (pipe : Pipe)
    (headerBuf payloadBuf : Bytes) (empty : pipe.bytes = []) :
    inputLoop turns (fuel + 1) index pipe headerBuf payloadBuf = [] := by
  have unread := readExactOrEof_short msgHeaderSize pipe headerBuf 0
    (by rw [empty]; decide)
  rw [inputLoop]
  split
  next => rfl
  next =>
    generalize readExactOrEof msgHeaderSize pipe headerBuf 0 = result at unread
    obtain ⟨ending, header, rest⟩ := result
    cases ending with
    | filled => exact absurd rfl unread
    | eof => rfl
    | error => rfl

/-- The loop performs the complete messages of every cut of the stream. -/
theorem inputLoop_performs (turns : Nat → HelperTurn) (messages : List HelperMessage)
    (length fuel index : Nat) (pipe : Pipe) (headerBuf payloadBuf : Bytes)
    (room : headerBuf.length = msgHeaderSize)
    (bytes : pipe.bytes = (messages.flatMap HelperMessage.encode).take length)
    (enough : pipe.bytes.length < fuel) :
    inputLoop turns fuel index pipe headerBuf payloadBuf =
      performed turns index (completeMessages messages length) := by
  obtain ⟨fuel, rfl⟩ : ∃ smaller, fuel = smaller + 1 := ⟨fuel - 1, by omega⟩
  induction messages generalizing length fuel index pipe headerBuf payloadBuf with
  | nil => exact inputLoop_drained turns fuel index pipe headerBuf payloadBuf (by simpa using bytes)
  | cons message rest ih =>
      rw [List.flatMap_cons] at bytes
      by_cases complete : message.encode.length ≤ length
      · rw [completeMessages, if_pos complete, performed]
        split
        next ended => rw [inputLoop, if_pos ended]
        next running =>
          rw [List.take_append, List.take_of_length_le complete] at bytes
          obtain ⟨behind, stored, behindBytes, eq⟩ := inputLoop_message turns fuel index message
            pipe headerBuf payloadBuf _ (by simpa using running) room bytes
          have consumed := message.encode_length
          rw [bytes, List.length_append, ← behindBytes] at enough
          have positive : 0 < msgHeaderSize := by decide
          obtain ⟨fuel, rfl⟩ : ∃ smaller, fuel = smaller + 1 := ⟨fuel - 1, by omega⟩
          rw [eq, ih _ (index + 1) behind message.header stored message.header_length behindBytes
            fuel (by omega)]
      · rw [completeMessages, if_neg complete, performed]
        rw [List.take_append_of_le_length (by omega)] at bytes
        exact inputLoop_cut turns fuel index message pipe headerBuf payloadBuf length room
          (by omega) bytes

/-- The whole stream is every message. -/
theorem completeMessages_all (messages : List HelperMessage) :
    completeMessages messages (messages.flatMap HelperMessage.encode).length = messages := by
  induction messages with
  | nil => rfl
  | cons message rest ih =>
      rw [completeMessages, List.flatMap_cons, List.length_append, if_pos (by omega),
        Nat.add_sub_cancel_left, ih]

theorem performed_quiet (index : Nat) (messages : List HelperMessage) :
    performed (fun _ => {}) index messages = messages.map HelperMessage.call := by
  induction messages generalizing index with
  | nil => rfl
  | cons message rest ih => simp [performed, ih]

/-- However the pipe cuts the stream into reads, the helper performs its complete messages. -/
theorem inputThread_performs (messages : List HelperMessage) (pipe : Pipe) :
    (pipe.bytes = messages.flatMap HelperMessage.encode →
      inputThread (fun _ => {}) pipe = messages.map HelperMessage.call) ∧
    (∀ length, pipe.bytes = (messages.flatMap HelperMessage.encode).take length →
      inputThread (fun _ => {}) pipe =
        (completeMessages messages length).map HelperMessage.call) ∧
    (∀ turns length, pipe.bytes = (messages.flatMap HelperMessage.encode).take length →
      inputThread turns pipe = performed turns 0 (completeMessages messages length)) := by
  have general (turns : Nat → HelperTurn) (length : Nat)
      (bytes : pipe.bytes = (messages.flatMap HelperMessage.encode).take length) :
      inputThread turns pipe = performed turns 0 (completeMessages messages length) :=
    inputLoop_performs turns messages length _ 0 pipe _ _ (List.length_replicate ..) bytes
      (Nat.lt_succ_self _)
  refine ⟨fun bytes => ?_, fun length bytes => ?_, general⟩
  · rw [general _ (messages.flatMap HelperMessage.encode).length (by rw [bytes, List.take_length]),
      completeMessages_all, performed_quiet]
  · rw [general _ length bytes, performed_quiet]

def resizeAndText : List HelperMessage := [.resize 24 80, .data [7, 8, 9] (by decide)]

/-- The reads end in the text of the second message, or bring all of it. -/
def partReads : Pipe :=
  [.data 2 [4], .interrupted, .data 0 [0, 0, 24, 0], .data 80 [0, 1, 3, 0, 0, 0, 7]]

def wholeReads : Pipe := partReads ++ [.interrupted, .data 8 [9]]

theorem inputThread_performs_wholeReads :
    inputThread (fun _ => {}) wholeReads = [.resize 24 80, .write [7, 8, 9]] ∧
      inputThread (fun _ => {}) partReads = [.resize 24 80] ∧
      inputThread (fun index => { exiting := index = 1 }) wholeReads = [.resize 24 80] := by
  obtain ⟨all, -, shell⟩ := inputThread_performs resizeAndText wholeReads
  obtain ⟨-, part, -⟩ := inputThread_performs resizeAndText partReads
  refine ⟨all (by decide +kernel), part 15 (by decide +kernel), ?_⟩
  exact shell (fun index => { exiting := index = 1 }) 17 (by decide +kernel)

end SubnetDesk.Terminal
