import SubnetDesk.Construction.Drm.Wire

namespace SubnetDesk.Drm

variable {Data Fd : Type}

/-- A length survives its four bytes. -/
theorem u32FromBeBytes_toBeBytes {value : Nat} (small : value < 2 ^ 32) :
    u32FromBeBytes (u32ToBeBytes value) = value := by
  simp only [u32FromBeBytes, u32ToBeBytes, List.foldl_cons, List.foldl_nil, UInt8.toNat_ofNat']
  omega

/-- The bytes of a call are counted from its beginning, and an unconsumed call has eaten none. -/
def Honest (state : WireState Fd) : Prop :=
  match state.phase with
  | .waiting => state.eaten = 0
  | .heading call _ off _ => off = state.eaten ∧ off < 4 ∧
      (call ≠ .raw → state.consumed = false → state.eaten = 0)
  | .body call _ _ _ => call ≠ .raw → state.consumed = true
  | _ => True

/-- A call without a result ate nothing, and a rejected one ate only the length. -/
def WireOutput.Clean : WireOutput Data Fd → Prop
  | .nothing eaten => eaten = 0
  | .rejected call len eaten => eaten = 4 ∧ call.maxBytes < len
  | _ => True

/-- A read takes no more than there is room for. -/
theorem readSize_le (socket : List (Cell Fd)) (room size : Nat) :
    readSize socket room size ≤ room := by
  unfold readSize
  omega

variable (codec : Codec Data)

/-- A finished frame is clean. -/
theorem finish_clean (state : WireState Fd) (call : RxCall) (len : Nat) (fd : Option Fd) :
    Honest (finish codec state call len fd).1 ∧
      ∀ output ∈ (finish codec state call len fd).2, output.Clean := by
  unfold finish
  split
  next => exact ⟨trivial, by simp [WireOutput.Clean]⟩
  next =>
    split
    next => exact ⟨trivial, by simp [WireOutput.Clean]⟩
    next => exact ⟨trivial, by simp [WireOutput.Clean]⟩

theorem reserve_consumed (state : WireState Fd) (call : RxCall) (len : Nat) :
    (reserve state call len).consumed = state.consumed := by
  unfold reserve
  split
  next => rfl
  next =>
    split
    next => rfl
    next => rfl

/-- The start of a body is clean. -/
theorem beginBody_clean {state : WireState Fd} (call : RxCall) (buf : Bytes) (fd : Option Fd)
    (consumed : state.consumed = true) (whole : state.eaten = 4) :
    Honest (beginBody codec state call buf fd).1 ∧
      ∀ output ∈ (beginBody codec state call buf fd).2, output.Clean := by
  simp only [beginBody]
  split
  next above =>
    refine ⟨trivial, ?_⟩
    intro output member
    rw [List.mem_singleton] at member
    rw [member]
    exact ⟨whole, above⟩
  next =>
    split
    next => exact finish_clean codec _ call _ fd
    next =>
      refine ⟨?_, by simp⟩
      intro _
      exact (reserve_consumed state call _).trans consumed

/-- A read keeps the stream clean. -/
theorem drmReadFull_clean {state : WireState Fd} (size : Nat) (honest : Honest state) :
    Honest (drmReadFull codec state size).1 ∧
      ∀ output ∈ (drmReadFull codec state size).2, output.Clean := by
  unfold drmReadFull
  split
  next => exact ⟨honest, by simp⟩
  next first rest call buf off fd _ phase =>
    have bound := readSize_le state.socket (4 - off) size
    simp only [Honest, phase] at honest
    dsimp only
    split
    next short =>
      refine ⟨⟨?_, short, ?_⟩, by simp⟩
      · rw [honest.1]
        rfl
      · intro _ unconsumed
        contradiction
    next long =>
      apply beginBody_clean codec call _ _ rfl
      show state.eaten + readSize state.socket (4 - off) size = 4
      omega
  next first rest call len off fd _ phase =>
    dsimp only
    split
    next =>
      refine ⟨?_, by simp⟩
      intro _
      cases call with
      | raw => rfl
      | msg limited => rfl
    next => exact finish_clean codec _ call len fd
  next => exact ⟨honest, by simp⟩

/-- A timeout keeps the stream clean. -/
theorem expire_clean {state : WireState Fd} (honest : Honest state)
    {outcome : WireState Fd × List (WireOutput Data Fd)} (expired : expire state = outcome) :
    Honest outcome.1 ∧ ∀ output ∈ outcome.2, output.Clean := by
  rw [← expired]
  unfold expire
  split
  next phase =>
    simp only [Honest, phase] at honest
    exact ⟨trivial, by simpa [WireOutput.Clean] using honest⟩
  next buf off fd phase =>
    simp only [Honest, phase] at honest
    split
    next => exact ⟨trivial, by simp [WireOutput.Clean]⟩
    next unconsumed =>
      have none_ := honest.2.2 nofun (by simpa using unconsumed)
      exact ⟨trivial, by simpa [WireOutput.Clean] using none_⟩
  next len off fd phase =>
    simp only [Honest, phase] at honest
    split
    next => exact ⟨trivial, by simp [WireOutput.Clean]⟩
    next unconsumed => exact absurd (honest nofun) unconsumed
  next => exact ⟨trivial, by simp [WireOutput.Clean]⟩
  next => exact ⟨trivial, by simp [WireOutput.Clean]⟩
  next => exact ⟨honest, by simp⟩

theorem begin_honest (state : WireState Fd) (call : RxCall) : Honest (state.begin_ call) := by
  refine ⟨rfl, Nat.zero_lt_succ 3, ?_⟩
  intro _ _
  rfl

/-- One input keeps the stream clean. -/
theorem wire_clean_step (state : WireState Fd) (past : List (WireOutput Data Fd))
    (input : WireInput)
    (clean : Honest state ∧ ∀ output ∈ past, output.Clean) :
    Honest ((wire codec).step state input).1 ∧
      ∀ output ∈ past ++ ((wire codec).step state input).2, output.Clean := by
  obtain ⟨honest, before⟩ := clean
  have silent : ∀ output ∈ past ++ [], output.Clean := by simpa using before
  cases input with
  | write size => exact ⟨honest, silent⟩
  | recvMsg =>
      refine ⟨?_, silent⟩
      simp only [wire]
      split
      next => exact begin_honest state _
      next => exact honest
  | recvMsgTimeout2 =>
      refine ⟨?_, silent⟩
      simp only [wire]
      split
      next => exact rfl
      next => exact honest
  | nextRawInto =>
      refine ⟨?_, silent⟩
      simp only [wire]
      split
      next => exact begin_honest state _
      next => exact honest
  | ready =>
      refine ⟨?_, silent⟩
      simp only [wire]
      split
      next => exact begin_honest state _
      next => exact honest
  | read size =>
      have clean := drmReadFull_clean codec size honest
      exact ⟨clean.1, List.forall_mem_append.mpr ⟨before, clean.2⟩⟩
  | expire =>
      have clean := expire_clean honest (rfl : expire state = ((wire codec).step state .expire))
      exact ⟨clean.1, List.forall_mem_append.mpr ⟨before, clean.2⟩⟩
  | broken => exact ⟨trivial, silent⟩

/-- Every run is clean. -/
theorem wire_clean_run {state : WireState Fd} (honest : Honest state) (inputs : List WireInput) :
    ∀ output ∈ ((wire codec).run state inputs).2, output.Clean := by
  have clean := (wire codec).run_invariant (fun _ _ => True)
    (fun state past => Honest state ∧ ∀ output ∈ past, output.Clean)
    (fun state past input _ clean => wire_clean_step codec state past input clean) state [] inputs
    ⟨honest, by simp⟩ ((wire codec).guarded_true state inputs)
  simpa using clean.2

def Send.payload : Send Data Fd → Bytes
  | .msg data _ => codec.encode data
  | .raw bytes => bytes

def Send.passFd : Send Data Fd → Option Fd
  | .msg _ fd => fd
  | .raw _ => none

def Send.isRaw : Send Data Fd → Bool
  | .msg _ _ => false
  | .raw _ => true

def RxCall.isRaw : RxCall → Bool
  | .msg _ => false
  | .raw => true

def Send.expected : Send Data Fd → WireOutput Data Fd
  | .msg data fd => .message data fd
  | .raw bytes => .rawBody bytes

/-- The payload fits into the cap of the call that receives it. -/
def Send.Within (send : Send Data Fd) : Prop :=
  (send.payload codec).length ≤ if send.isRaw then maxDrmRawBytes else maxDrmJsonBytes

/-- The bytes of a frame are its length and its payload. -/
def Send.bytes (send : Send Data Fd) : Bytes :=
  u32ToBeBytes (send.payload codec).length ++ send.payload codec

def Send.frame (send : Send Data Fd) : List (Cell Fd) :=
  cellsOf send.passFd (send.bytes codec)

def frames (sends : List (Send Data Fd)) : List (Cell Fd) := sends.flatMap (·.frame codec)

def unsentCells (unsent : List (Piece Fd)) : List (Cell Fd) :=
  unsent.flatMap fun piece => cellsOf piece.fd piece.bytes

/-- All bytes that are still to be read. -/
def WireState.stream (state : WireState Fd) : List (Cell Fd) :=
  state.socket ++ unsentCells state.unsent

theorem cellsOf_none (bytes : Bytes) :
    cellsOf (none : Option Fd) bytes = bytes.map fun byte => ⟨byte, none⟩ := by
  cases bytes with
  | nil => rfl
  | cons byte rest => rfl

/-- The descriptor comes with the first byte. -/
theorem cellsOf_append (fd : Option Fd) {first : Bytes} (filled : first ≠ []) (second : Bytes) :
    cellsOf fd (first ++ second) = cellsOf fd first ++ cellsOf none second := by
  cases first with
  | nil => contradiction
  | cons byte rest =>
      rw [cellsOf_none]
      simp only [List.cons_append, cellsOf, List.map_append]

theorem cellsOf_bytes (fd : Option Fd) (bytes : Bytes) :
    (cellsOf fd bytes).map (·.byte) = bytes := by
  cases bytes with
  | nil => rfl
  | cons byte rest => simp [cellsOf, Function.comp_def]

theorem cellsOf_length (fd : Option Fd) (bytes : Bytes) :
    (cellsOf fd bytes).length = bytes.length := by
  have same := congrArg List.length (cellsOf_bytes fd bytes)
  rwa [List.length_map] at same

/-- Only the first byte carries the descriptor. -/
theorem cellsOf_drop (fd : Option Fd) (bytes : Bytes) {off : Nat} (later : 0 < off) :
    (cellsOf fd bytes).drop off = cellsOf none (bytes.drop off) := by
  cases bytes with
  | nil => simp [cellsOf]
  | cons byte rest =>
      cases off with
      | zero => contradiction
      | succ off =>
          rw [cellsOf_none]
          simp only [cellsOf, List.drop_succ_cons, List.map_drop]

/-- A write moves bytes into the socket and changes nothing about the stream. -/
theorem drmWriteAll_cells (unsent : List (Piece Fd)) (size : Nat) :
    (drmWriteAll unsent size).1 ++ unsentCells (drmWriteAll unsent size).2 =
      unsentCells unsent := by
  unfold drmWriteAll
  split
  next => rfl
  next fd rest => simp [unsentCells, cellsOf]
  next byte bytes fd rest =>
    have filled : (byte :: bytes).take (min (max size 1) (bytes.length + 1)) ≠ [] := by
      rw [Ne, List.take_eq_nil_iff]
      simp only [reduceCtorEq, or_false]
      omega
    simp only [unsentCells, List.flatMap_cons]
    rw [← List.append_assoc, ← cellsOf_append fd filled, List.take_append_drop]

theorem u32ToBeBytes_length (value : Nat) : (u32ToBeBytes value).length = 4 := rfl

theorem bytes_length (send : Send Data Fd) :
    (send.bytes codec).length = 4 + (send.payload codec).length := by
  rw [Send.bytes, List.length_append, u32ToBeBytes_length]

/-- A frame is its payload and four bytes. -/
theorem frame_length (send : Send Data Fd) :
    (send.frame codec).length = 4 + (send.payload codec).length := by
  rw [Send.frame, cellsOf_length, bytes_length]

/-- A frame within its bounds has a small length. -/
theorem within_small {send : Send Data Fd} (within : send.Within codec) :
    (send.payload codec).length < 2 ^ 32 := by
  unfold Send.Within at within
  split at within
  next =>
    simp only [maxDrmRawBytes] at within
    omega
  next =>
    simp only [maxDrmJsonBytes] at within
    omega

/-- What is sent is the length and the payload. -/
theorem drmSendFrame_cells {payload : Bytes} (small : payload.length < 2 ^ 32)
    (fd : Option Fd) :
    unsentCells ((drmSendFrame payload fd).getD []) =
      cellsOf fd (u32ToBeBytes payload.length ++ payload) := by
  rw [drmSendFrame, if_neg (by omega), cellsOf_append fd (by simp [u32ToBeBytes])]
  simp [unsentCells]

/-- The pieces of a frame are the frame. -/
theorem pieces_cells {send : Send Data Fd} (within : send.Within codec) :
    unsentCells ((send.pieces codec).getD []) = send.frame codec := by
  have small := within_small codec within
  cases send with
  | msg data fd => exact drmSendFrame_cells small fd
  | raw bytes => exact drmSendFrame_cells small none

/-- A read with room takes at least one byte. -/
theorem readSize_bounds (first : Cell Fd) (rest : List (Cell Fd)) {room : Nat} (size : Nat)
    (some_ : 0 < room) :
    0 < readSize (first :: rest) room size ∧ readSize (first :: rest) room size ≤ room ∧
      readSize (first :: rest) room size ≤ (first :: rest).length := by
  have short := (List.takeWhile_prefix (l := rest) (·.fd.isNone)).length_le
  simp only [readSize, readable, List.length_cons]
  omega

/-- A read inside a frame gives the next bytes of the frame, and its first byte carries the
descriptor only at the beginning. -/
theorem read_frame {first : Cell Fd} {rest cells more : List (Cell Fd)} {fd : Option Fd}
    {whole : Bytes} {off count : Nat}
    (stream : (first :: rest) ++ cells = (cellsOf fd whole).drop off ++ more)
    (positive : 0 < count) (inside : off + count ≤ whole.length)
    (available : count ≤ (first :: rest).length) :
    ((first :: rest).take count).map (·.byte) = (whole.drop off).take count ∧
      (first :: rest).drop count ++ cells = (cellsOf fd whole).drop (off + count) ++ more ∧
      first.fd = if off = 0 then fd else none := by
  have room : count ≤ ((cellsOf fd whole).drop off).length := by
    rw [List.length_drop, cellsOf_length]
    omega
  have taken : (first :: rest).take count = ((cellsOf fd whole).drop off).take count := by
    have both := congrArg (List.take count) stream
    rw [List.take_append_of_le_length available, List.take_append_of_le_length room] at both
    exact both
  refine ⟨?_, ?_, ?_⟩
  · rw [taken, List.map_take, List.map_drop, cellsOf_bytes]
  · have both := congrArg (List.drop count) stream
    rw [List.drop_append_of_le_length available, List.drop_append_of_le_length room,
      List.drop_drop] at both
    exact both
  · have head : first :: (rest ++ cells) = (cellsOf fd whole).drop off ++ more := stream
    cases off with
    | zero =>
        cases whole with
        | nil =>
            simp only [List.length_nil] at inside
            omega
        | cons byte bytes =>
            simp only [List.drop_zero, cellsOf, List.cons_append, List.cons.injEq] at head
            rw [head.1]
            rfl
    | succ off =>
        rw [cellsOf_drop fd whole (Nat.succ_pos off), cellsOf_none] at head
        cases left : whole.drop (off + 1) with
        | nil =>
            rw [List.drop_eq_nil_iff] at left
            omega
        | cons byte bytes =>
            rw [left] at head
            simp only [List.map_cons, List.cons_append, List.cons.injEq] at head
            rw [head.1, if_neg (Nat.succ_ne_zero off)]

/-- A filled buffer agrees up to its end. -/
theorem fillAt_take {buf whole : Bytes} {off count : Nat} (inside : off + count ≤ whole.length)
    (room : off ≤ buf.length) (before : buf.take off = whole.take off) :
    (fillAt buf off ((whole.drop off).take count)).take (off + count) =
      whole.take (off + count) := by
  have length : ((whole.drop off).take count).length = count := by
    rw [List.length_take, List.length_drop]
    omega
  have start : (buf.take off).length = off := by
    rw [List.length_take]
    omega
  rw [fillAt, List.take_append_of_le_length (by rw [List.length_append, start, length]),
    List.take_of_length_le (by rw [List.length_append, start, length]), before, ← List.take_add]

theorem fillAt_length {buf bytes : Bytes} {off : Nat} (room : off + bytes.length ≤ buf.length) :
    (fillAt buf off bytes).length = buf.length := by
  rw [fillAt, List.length_append, List.length_append, List.length_take, List.length_drop]
  omega

/-- The buffer of the body of a call. -/
def bodyBuf (state : WireState Fd) : RxCall → Bytes
  | .raw => state.out
  | .msg _ => state.readBuf

section Matched

variable (sends : List (Send Data Fd))

/-- The next call receives the next payload. -/
def Fitting (received : Nat) (call : RxCall) : Prop :=
  ∀ send ∈ sends[received]?, call.isRaw = send.isRaw

/-- The receiver stands at the beginning of a frame, or inside of the next frame with the bytes and
the descriptor before its place. -/
def Synced (state : WireState Fd) : Prop :=
  match state.phase with
  | .idle => state.stream = frames codec (sends.drop state.received)
  | .waiting => state.stream = frames codec (sends.drop state.received) ∧
      Fitting sends state.received (.msg true)
  | .heading call buf off fd => buf.length = 4 ∧ Fitting sends state.received call ∧
      ((off = 0 ∧ fd = none ∧ state.stream = frames codec (sends.drop state.received)) ∨
        ∃ send, sends[state.received]? = some send ∧ 0 < off ∧ fd = send.passFd ∧
          buf.take off = (send.bytes codec).take off ∧
          state.stream = (send.frame codec).drop off ++
            frames codec (sends.drop (state.received + 1)))
  | .body call len off fd =>
      ∃ send, sends[state.received]? = some send ∧ call.isRaw = send.isRaw ∧
        fd = send.passFd ∧ len = (send.payload codec).length ∧ off < len ∧
        (bodyBuf state call).take off = (send.payload codec).take off ∧
        len ≤ (bodyBuf state call).length ∧
        (call.isRaw = true → (bodyBuf state call).length = len) ∧
        state.stream = (send.frame codec).drop (4 + off) ++
          frames codec (sends.drop (state.received + 1))
  | .failed => True

/-- A step receives nothing, or exactly the next payload with its own descriptor. -/
structure Progressed (state : WireState Fd)
    (outcome : WireState Fd × List (WireOutput Data Fd)) : Prop where
  synced : Synced codec sends outcome.1
  received : (outcome.2 = [] ∧ outcome.1.received = state.received) ∨
    ∃ send, sends[state.received]? = some send ∧ outcome.2 = [send.expected] ∧
      outcome.1.received = state.received + 1

variable {codec sends}

/-- A whole payload is what the sender sent. -/
theorem finish_expected (inverts : ∀ data, codec.decode (codec.encode data) = some data)
    {state : WireState Fd} {call : RxCall} {send : Send Data Fd}
    (same : call.isRaw = send.isRaw)
    (filled : (bodyBuf state call).take (send.payload codec).length = send.payload codec)
    (exact_ : call.isRaw = true → (bodyBuf state call).length = (send.payload codec).length) :
    finish codec state call (send.payload codec).length send.passFd =
      ({ state with phase := .idle, received := state.received + 1 }, [send.expected]) := by
  cases call with
  | raw =>
      cases send with
      | msg data fd => contradiction
      | raw bytes =>
          have whole : state.out = bytes := by
            calc
              state.out = state.out.take bytes.length :=
                (List.take_of_length_le (Nat.le_of_eq (exact_ rfl))).symm
              _ = bytes := filled
          simp only [finish, Send.expected, whole]
  | msg limited =>
      cases send with
      | raw bytes => contradiction
      | msg data fd =>
          have read : state.readBuf.take (codec.encode data).length = codec.encode data := filled
          simp only [finish, Send.payload, Send.passFd, Send.expected]
          rw [read, inverts]

/-- A finished frame moves the stream on. -/
theorem finish_progressed (inverts : ∀ data, codec.decode (codec.encode data) = some data)
    (state : WireState Fd) {call : RxCall} {send : Send Data Fd}
    (next : sends[state.received]? = some send) (same : call.isRaw = send.isRaw)
    (filled : (bodyBuf state call).take (send.payload codec).length = send.payload codec)
    (exact_ : call.isRaw = true → (bodyBuf state call).length = (send.payload codec).length)
    (stream : state.stream = frames codec (sends.drop (state.received + 1))) :
    Progressed codec sends state
      (finish codec state call (send.payload codec).length send.passFd) := by
  rw [finish_expected inverts same filled exact_]
  exact ⟨stream, .inr ⟨send, next, rfl, rfl⟩⟩

theorem resize_length (buffer : Bytes) (size : Nat) : (resize buffer size).length = size := by
  rw [resize, List.length_append, List.length_take, List.length_replicate]
  omega

/-- The buffer has room for the payload. -/
theorem reserve_buffer (state : WireState Fd) (call : RxCall) (len : Nat) :
    len ≤ (bodyBuf (reserve state call len) call).length ∧
      (call.isRaw = true → (bodyBuf (reserve state call len) call).length = len) := by
  cases call with
  | raw =>
      have length := resize_length state.out len
      exact ⟨Nat.le_of_eq length.symm, fun _ => length⟩
  | msg limited =>
      refine ⟨?_, nofun⟩
      simp only [reserve, bodyBuf]
      split
      next => exact Nat.le_of_eq (resize_length state.readBuf len).symm
      next enough => exact Nat.le_of_not_lt enough

/-- A buffer keeps the stream. -/
theorem reserve_keeps (state : WireState Fd) (call : RxCall) (len : Nat) :
    (reserve state call len).stream = state.stream ∧
      (reserve state call len).received = state.received := by
  unfold reserve
  split
  next => exact ⟨rfl, rfl⟩
  next =>
    split
    next => exact ⟨rfl, rfl⟩
    next => exact ⟨rfl, rfl⟩

theorem maxBytes_within {call : RxCall} {send : Send Data Fd} (within : send.Within codec)
    (same : call.isRaw = send.isRaw) : (send.payload codec).length ≤ call.maxBytes := by
  unfold Send.Within at within
  rw [← same] at within
  cases call with
  | raw => exact within
  | msg limited => exact within

/-- The start of a body keeps the stream. -/
theorem beginBody_progressed (inverts : ∀ data, codec.decode (codec.encode data) = some data)
    (state : WireState Fd) {call : RxCall} {send : Send Data Fd}
    (next : sends[state.received]? = some send) (same : call.isRaw = send.isRaw)
    (within : send.Within codec)
    (stream : state.stream = (send.frame codec).drop 4 ++
      frames codec (sends.drop (state.received + 1))) :
    Progressed codec sends state
      (beginBody codec state call (u32ToBeBytes (send.payload codec).length) send.passFd) := by
  have length := u32FromBeBytes_toBeBytes (within_small codec within)
  obtain ⟨room, exact_⟩ := reserve_buffer state call (send.payload codec).length
  obtain ⟨streamKept, receivedKept⟩ := reserve_keeps state call (send.payload codec).length
  simp only [beginBody, length]
  rw [if_neg (Nat.not_lt_of_le (maxBytes_within within same))]
  split
  next empty =>
    have nothing : send.payload codec = [] := List.eq_nil_of_length_eq_zero empty
    have behind : (send.frame codec).drop 4 = [] := by
      rw [List.drop_eq_nil_iff, frame_length, empty]
    have progressed := finish_progressed inverts
      (reserve state call (send.payload codec).length) (by rw [receivedKept]; exact next) same
      (by rw [nothing]; exact List.take_zero) exact_
      (by rw [streamKept, receivedKept, stream, behind, List.nil_append])
    refine ⟨progressed.synced, ?_⟩
    have received := progressed.received
    rw [receivedKept] at received
    exact received
  next filled =>
    refine ⟨⟨send, ?_, same, rfl, rfl, Nat.pos_of_ne_zero filled, ?_, room, exact_, ?_⟩,
      .inl ⟨rfl, receivedKept⟩⟩
    · rw [← receivedKept] at next
      exact next
    · rw [List.take_zero, List.take_zero]
    · rw [← streamKept, ← receivedKept] at stream
      exact stream

/-- The next frame is the one after those received. -/
theorem frames_next {received : Nat} (filled : frames codec (sends.drop received) ≠ []) :
    ∃ send, sends[received]? = some send ∧ frames codec (sends.drop received) =
      send.frame codec ++ frames codec (sends.drop (received + 1)) := by
  cases left : sends.drop received with
  | nil =>
      rw [left] at filled
      contradiction
  | cons send more =>
      have next : sends[received]? = some send := by
        rw [← List.head?_drop, left, List.head?_cons]
      have later : sends.drop (received + 1) = more := by
        rw [← List.drop_drop, left, List.drop_one, List.tail_cons]
      refine ⟨send, next, ?_⟩
      rw [later]
      rfl

/-- A receiver with a byte at hand stands in the frame of the next payload. -/
theorem heading_send {state : WireState Fd} {call : RxCall} {buf : Bytes} {off : Nat}
    {fd : Option Fd} (synced : Synced codec sends state)
    (phase : state.phase = .heading call buf off fd) (filled : state.socket ≠ []) :
    ∃ send, sends[state.received]? = some send ∧ call.isRaw = send.isRaw ∧
      fd = (if off = 0 then none else send.passFd) ∧
      buf.take off = (send.bytes codec).take off ∧ buf.length = 4 ∧
      state.stream = (send.frame codec).drop off ++
        frames codec (sends.drop (state.received + 1)) := by
  simp only [Synced, phase] at synced
  obtain ⟨length, fitting, ⟨rfl, rfl, stream⟩ | ⟨send, next, later, rfl, before, stream⟩⟩ := synced
  · have some_ : frames codec (sends.drop state.received) ≠ [] := by
      rw [← stream, WireState.stream]
      simp [filled]
    obtain ⟨send, next, ahead⟩ := frames_next some_
    refine ⟨send, next, fitting send next, rfl, ?_, length, ?_⟩
    · rw [List.take_zero, List.take_zero]
    · rw [stream, ahead, List.drop_zero]
  · refine ⟨send, next, fitting send next, ?_, before, length, stream⟩
    rw [if_neg (Nat.pos_iff_ne_zero.mp later)]

/-- A read takes the front of the stream. -/
theorem eat_stream {state : WireState Fd} {count : Nat} :
    (eat state count).stream = state.socket.drop count ++ unsentCells state.unsent := rfl

/-- A read in the length moves the stream on. -/
theorem heading_progressed (inverts : ∀ data, codec.decode (codec.encode data) = some data)
    (within : ∀ send ∈ sends, send.Within codec) {state : WireState Fd} {first : Cell Fd}
    {rest : List (Cell Fd)} {call : RxCall} {buf : Bytes} {off : Nat} {fd : Option Fd}
    (size : Nat) (synced : Synced codec sends state) (honest : Honest state)
    (socket : state.socket = first :: rest) (phase : state.phase = .heading call buf off fd) :
    Progressed codec sends state (drmReadFull codec state size) := by
  obtain ⟨send, next, same, got, before, length, stream⟩ :=
    heading_send synced phase (by simp [socket])
  simp only [Honest, phase] at honest
  obtain ⟨positive, inRoom, available⟩ := readSize_bounds first rest size
    (Nat.sub_pos_of_lt honest.2.1)
  have inside : off + readSize (first :: rest) (4 - off) size ≤ (send.bytes codec).length := by
    rw [bytes_length]
    omega
  rw [WireState.stream, socket] at stream
  obtain ⟨bytes, left, carried⟩ := read_frame stream positive inside available
  have carriesFd : (if fd.isNone then first.fd else fd) = send.passFd := by
    rw [carried, got]
    by_cases start : off = 0
    · simp [start]
    · simp only [if_neg start]
      cases send.passFd with
      | none => rfl
      | some passed => rfl
  simp only [drmReadFull, socket, phase]
  rw [bytes, carriesFd]
  have filled := fillAt_take inside (Nat.le_of_lt (length ▸ honest.2.1)) before
  have sameLength : (fillAt buf off
      (((send.bytes codec).drop off).take (readSize (first :: rest) (4 - off) size))).length =
        4 := by
    rw [fillAt_length _, length]
    rw [List.length_take, List.length_drop, length]
    omega
  split
  next short =>
    refine ⟨⟨sameLength, ?_, .inr ⟨send, next, ?_, rfl, filled, ?_⟩⟩, .inl ⟨rfl, rfl⟩⟩
    · intro other atOther
      have equal : other = send := Option.some.inj (atOther.symm.trans next)
      rw [equal]
      exact same
    · omega
    · show (eat state _).stream = _
      rw [eat_stream, socket]
      exact left
  next long =>
    have whole : off + readSize (first :: rest) (4 - off) size = 4 := by omega
    have heading : fillAt buf off
        (((send.bytes codec).drop off).take (readSize (first :: rest) (4 - off) size)) =
          u32ToBeBytes (send.payload codec).length := by
      rw [whole] at filled
      rw [← List.take_of_length_le (Nat.le_of_eq sameLength), filled, Send.bytes]
      rfl
    rw [heading]
    have progressed := beginBody_progressed inverts
      (eat state (readSize (first :: rest) (4 - off) size)) next same
      (within send (List.mem_of_getElem? next)) (by
        rw [eat_stream, socket, left, whole]
        rfl)
    exact ⟨progressed.synced, progressed.received⟩

theorem storeBody_buffer (state : WireState Fd) (call : RxCall) (off : Nat) (bytes : Bytes) :
    bodyBuf (storeBody state call off bytes) call = fillAt (bodyBuf state call) off bytes := by
  cases call with
  | raw => rfl
  | msg limited => rfl

/-- A stored body keeps the stream. -/
theorem storeBody_keeps (state : WireState Fd) (call : RxCall) (off : Nat) (bytes : Bytes) :
    (storeBody state call off bytes).stream = state.stream ∧
      (storeBody state call off bytes).received = state.received := by
  cases call with
  | raw => exact ⟨rfl, rfl⟩
  | msg limited => exact ⟨rfl, rfl⟩

theorem drop_bytes (send : Send Data Fd) (off : Nat) :
    (send.bytes codec).drop (4 + off) = (send.payload codec).drop off := by
  rw [Send.bytes, ← List.drop_drop]
  rfl

/-- A read in the body moves the stream on. -/
theorem body_progressed (inverts : ∀ data, codec.decode (codec.encode data) = some data)
    {state : WireState Fd} {first : Cell Fd} {rest : List (Cell Fd)} {call : RxCall}
    {len off : Nat} {fd : Option Fd} (size : Nat) (synced : Synced codec sends state)
    (socket : state.socket = first :: rest) (phase : state.phase = .body call len off fd) :
    Progressed codec sends state (drmReadFull codec state size) := by
  simp only [Synced, phase] at synced
  obtain ⟨send, next, same, rfl, rfl, inBody, before, room, exact_, stream⟩ := synced
  obtain ⟨positive, inRoom, available⟩ := readSize_bounds first rest size
    (Nat.sub_pos_of_lt inBody)
  have inside : 4 + off + readSize (first :: rest) ((send.payload codec).length - off) size ≤
      (send.bytes codec).length := by
    rw [bytes_length]
    omega
  rw [WireState.stream, socket] at stream
  obtain ⟨bytes, left, _⟩ := read_frame stream positive inside available
  simp only [drmReadFull, socket, phase]
  rw [bytes, drop_bytes]
  generalize counted : readSize (first :: rest) ((send.payload codec).length - off) size = count
    at positive inRoom available inside left
  obtain ⟨streamKept, receivedKept⟩ := storeBody_keeps (eat state count) call off
    (((send.payload codec).drop off).take count)
  have stored := storeBody_buffer (eat state count) call off
    (((send.payload codec).drop off).take count)
  have filled : (fillAt (bodyBuf (eat state count) call) off
      (((send.payload codec).drop off).take count)).take (off + count) =
        (send.payload codec).take (off + count) := by
    have unread : bodyBuf (eat state count) call = bodyBuf state call := by
      cases call with
      | raw => rfl
      | msg limited => rfl
    rw [unread]
    exact fillAt_take (by omega) (by omega) before
  have sameLength : (fillAt (bodyBuf (eat state count) call) off
      (((send.payload codec).drop off).take count)).length = (bodyBuf state call).length := by
    have unread : bodyBuf (eat state count) call = bodyBuf state call := by
      cases call with
      | raw => rfl
      | msg limited => rfl
    rw [unread, fillAt_length]
    rw [List.length_take, List.length_drop]
    omega
  rw [← stored] at filled sameLength
  have behind : (storeBody (eat state count) call off
      (((send.payload codec).drop off).take count)).stream =
        (send.frame codec).drop (4 + (off + count)) ++
          frames codec (sends.drop (state.received + 1)) := by
    rw [streamKept, eat_stream, socket, left, Nat.add_assoc]
    rfl
  have goesOn : sends[(storeBody (eat state count) call off
      (((send.payload codec).drop off).take count)).received]? = some send := by
    rw [receivedKept]
    exact next
  generalize storeBody (eat state count) call off
    (((send.payload codec).drop off).take count) = written at *
  have receivedSame : written.received = state.received := receivedKept
  split
  next short =>
    have unread : ∀ phase, bodyBuf { written with phase := phase } call = bodyBuf written call := by
      intro phase
      cases call with
      | raw => rfl
      | msg limited => rfl
    refine ⟨⟨send, goesOn, same, rfl, rfl, short, ?_, ?_, ?_, ?_⟩, .inl ⟨rfl, receivedKept⟩⟩
    · rw [unread]
      exact filled
    · rw [unread, sameLength]
      exact room
    · intro raw
      rw [unread, sameLength]
      exact exact_ raw
    · rw [← receivedSame] at behind
      exact behind
  next long =>
    have whole : off + count = (send.payload codec).length := by omega
    rw [whole, List.take_length] at filled
    have ended : (send.frame codec).drop (4 + (off + count)) = [] := by
      rw [List.drop_eq_nil_iff, frame_length, whole]
    have progressed := finish_progressed inverts written goesOn same filled
      (fun raw => sameLength.trans (exact_ raw))
      (by rw [behind, ended, receivedSame, List.nil_append])
    have received := progressed.received
    rw [receivedSame] at received
    exact ⟨progressed.synced, received⟩

/-- A read moves the stream on. -/
theorem drmReadFull_progressed
    (inverts : ∀ data, codec.decode (codec.encode data) = some data)
    (within : ∀ send ∈ sends, send.Within codec) {state : WireState Fd} (size : Nat)
    (synced : Synced codec sends state) (honest : Honest state) :
    Progressed codec sends state (drmReadFull codec state size) := by
  cases socket : state.socket with
  | nil =>
      have blocked : drmReadFull codec state size = (state, []) := by
        simp only [drmReadFull, socket]
      rw [blocked]
      exact ⟨synced, .inl ⟨rfl, rfl⟩⟩
  | cons first rest =>
      cases phase : state.phase with
      | heading call buf off fd =>
          exact heading_progressed inverts within size synced honest socket phase
      | body call len off fd => exact body_progressed inverts size synced socket phase
      | idle =>
          have unread : drmReadFull codec state size = (state, []) := by
            simp only [drmReadFull, socket, phase]
          rw [unread]
          exact ⟨synced, .inl ⟨rfl, rfl⟩⟩
      | waiting =>
          have unread : drmReadFull codec state size = (state, []) := by
            simp only [drmReadFull, socket, phase]
          rw [unread]
          exact ⟨synced, .inl ⟨rfl, rfl⟩⟩
      | failed =>
          have unread : drmReadFull codec state size = (state, []) := by
            simp only [drmReadFull, socket, phase]
          rw [unread]
          exact ⟨synced, .inl ⟨rfl, rfl⟩⟩

variable (sends) in
/-- A call that begins matches the next payload. -/
def Matching (state : WireState Fd) : WireInput → Prop
  | .recvMsg => state.phase.isIdle = true → Fitting sends state.received (.msg false)
  | .recvMsgTimeout2 => state.phase.isIdle = true → Fitting sends state.received (.msg true)
  | .nextRawInto => state.phase.isIdle = true → Fitting sends state.received .raw
  | _ => True

instance (state : WireState Fd) : ∀ input, Decidable (Matching sends state input)
  | .recvMsg => inferInstanceAs (Decidable (_ → ∀ send ∈ sends[state.received]?, _ = _))
  | .recvMsgTimeout2 => inferInstanceAs (Decidable (_ → ∀ send ∈ sends[state.received]?, _ = _))
  | .nextRawInto => inferInstanceAs (Decidable (_ → ∀ send ∈ sends[state.received]?, _ = _))
  | .write _ | .ready | .read _ | .expire | .broken => inferInstanceAs (Decidable True)

/-- Between the frames the stream is whole frames. -/
theorem idle_stream {state : WireState Fd} (synced : Synced codec sends state)
    (idle : state.phase.isIdle = true) :
    state.stream = frames codec (sends.drop state.received) := by
  cases phase : state.phase with
  | idle => simpa only [Synced, phase] using synced
  | waiting => simp [phase, RxPhase.isIdle] at idle
  | heading call buf off fd => simp [phase, RxPhase.isIdle] at idle
  | body call len off fd => simp [phase, RxPhase.isIdle] at idle
  | failed => simp [phase, RxPhase.isIdle] at idle

/-- A call begins at the start of a frame. -/
theorem begin_synced {state : WireState Fd} {call : RxCall}
    (stream : state.stream = frames codec (sends.drop state.received))
    (fitting : Fitting sends state.received call) :
    Synced codec sends (state.begin_ call) :=
  ⟨rfl, fitting, .inl ⟨rfl, rfl, stream⟩⟩

/-- A write does not move the receiver. -/
theorem write_synced {state : WireState Fd} (size : Nat) (synced : Synced codec sends state) :
    Synced codec sends { state with
      unsent := (drmWriteAll state.unsent size).2
      socket := state.socket ++ (drmWriteAll state.unsent size).1 } := by
  have stream : ({ state with
      unsent := (drmWriteAll state.unsent size).2
      socket := state.socket ++ (drmWriteAll state.unsent size).1 } : WireState Fd).stream =
        state.stream := by
    show (state.socket ++ _) ++ unsentCells _ = _
    rw [List.append_assoc, drmWriteAll_cells]
    rfl
  unfold Synced at synced ⊢
  rw [stream]
  cases phase : state.phase with
  | idle => simpa only [phase] using synced
  | waiting => simpa only [phase] using synced
  | heading call buf off fd => simpa only [phase] using synced
  | body call len off fd =>
      rw [phase] at synced
      cases call with
      | raw => exact synced
      | msg limited => exact synced
  | failed => trivial

/-- A timeout keeps the place in the stream. -/
theorem expire_synced {state : WireState Fd} (synced : Synced codec sends state)
    (honest : Honest state) {outcome : WireState Fd × List (WireOutput Data Fd)}
    (expired : expire state = outcome) :
    Synced codec sends outcome.1 ∧ outcome.1.received = state.received ∧
      (outcome.2 = [] ∨ outcome.2 = [.nothing 0] ∨ outcome.2 = [.stalled]) := by
  rw [← expired]
  unfold expire
  split
  next phase =>
    simp only [Synced, Honest, phase] at synced honest
    refine ⟨synced.1, rfl, .inr (.inl ?_)⟩
    rw [honest]
  next buf off fd phase =>
    split
    next => exact ⟨trivial, rfl, .inr (.inr rfl)⟩
    next unconsumed =>
      simp only [Synced, Honest, phase] at synced honest
      have none_ := honest.2.2 nofun (by simpa using unconsumed)
      have atStart : off = 0 := honest.1.trans none_
      obtain ⟨_, _, ⟨_, _, stream⟩ | ⟨_, _, later, _⟩⟩ := synced
      · exact ⟨stream, rfl, .inr (.inl (by rw [none_]))⟩
      · omega
  next len off fd phase =>
    simp only [Honest, phase] at honest
    split
    next => exact ⟨trivial, rfl, .inr (.inr rfl)⟩
    next unconsumed => exact absurd (honest nofun) unconsumed
  next => exact ⟨trivial, rfl, .inr (.inr rfl)⟩
  next => exact ⟨trivial, rfl, .inr (.inr rfl)⟩
  next => exact ⟨synced, rfl, .inl rfl⟩

def WireOutput.isDelivery : WireOutput Data Fd → Bool
  | .message _ _ | .rawBody _ => true
  | _ => false

theorem expected_isDelivery (send : Send Data Fd) : send.expected.isDelivery = true := by
  cases send with
  | msg data fd => rfl
  | raw bytes => rfl

variable (codec sends) in
/-- The payloads so far are the first sent ones, and every other output is a time limit. -/
structure Delivered (state : WireState Fd) (past : List (WireOutput Data Fd)) : Prop where
  honest : Honest state
  synced : Synced codec sends state
  deliveries : past.filter (·.isDelivery) = (sends.take state.received).map (·.expected)
  benign : ∀ output ∈ past, output.isDelivery = true ∨ output = .nothing 0 ∨ output = .stalled

/-- A step that receives nothing keeps the payloads so far. -/
theorem Delivered.quiet {state next : WireState Fd} {past : List (WireOutput Data Fd)}
    (delivered : Delivered codec sends state past) (honest : Honest next)
    (synced : Synced codec sends next) (received : next.received = state.received) :
    Delivered codec sends next (past ++ []) := by
  rw [List.append_nil]
  refine ⟨honest, synced, ?_, delivered.benign⟩
  rw [received]
  exact delivered.deliveries

/-- A limit that is passed delivers nothing. -/
theorem Delivered.limit {state next : WireState Fd} {past : List (WireOutput Data Fd)}
    (delivered : Delivered codec sends state past) (honest : Honest next)
    (synced : Synced codec sends next) (received : next.received = state.received)
    {output : WireOutput Data Fd} (limit : output = .nothing 0 ∨ output = .stalled) :
    Delivered codec sends next (past ++ [output]) := by
  have quiet : output.isDelivery = false := by
    rcases limit with rfl | rfl
    · rfl
    · rfl
  refine ⟨honest, synced, ?_, ?_⟩
  · rw [List.filter_append, delivered.deliveries, received, List.filter_cons_of_neg (by simp [quiet]),
      List.filter_nil, List.append_nil]
  · intro other member
    rcases List.mem_append.mp member with old | new
    · exact delivered.benign other old
    · rw [List.mem_singleton.mp new]
      exact .inr limit

/-- A read delivers the next frame at most. -/
theorem Delivered.progress {state : WireState Fd} {past : List (WireOutput Data Fd)}
    (delivered : Delivered codec sends state past)
    {outcome : WireState Fd × List (WireOutput Data Fd)} (honest : Honest outcome.1)
    (progressed : Progressed codec sends state outcome) :
    Delivered codec sends outcome.1 (past ++ outcome.2) := by
  rcases progressed.received with ⟨silent, received⟩ | ⟨send, next, output, received⟩
  · rw [silent]
    exact delivered.quiet honest progressed.synced received
  · refine ⟨honest, progressed.synced, ?_, ?_⟩
    · rw [List.filter_append, delivered.deliveries, output, received, List.take_add_one, next,
        List.map_append, List.filter_cons_of_pos (expected_isDelivery send)]
      rfl
    · rw [output]
      intro other member
      rcases List.mem_append.mp member with old | new
      · exact delivered.benign other old
      · rw [List.mem_singleton.mp new]
        exact .inl (expected_isDelivery send)

/-- One input delivers the next frame at most. -/
theorem wire_delivered_step
    (inverts : ∀ data, codec.decode (codec.encode data) = some data)
    (within : ∀ send ∈ sends, send.Within codec) (state : WireState Fd)
    (past : List (WireOutput Data Fd)) (input : WireInput) (matching : Matching sends state input)
    (delivered : Delivered codec sends state past) :
    Delivered codec sends ((wire codec).step state input).1
      (past ++ ((wire codec).step state input).2) := by
  have honest := (wire_clean_step codec state [] input ⟨delivered.honest, by simp⟩).1
  cases input with
  | write size => exact delivered.quiet honest (write_synced size delivered.synced) rfl
  | recvMsg =>
      cases idle : state.phase.isIdle with
      | true =>
          have begun : ((wire codec).step state .recvMsg).1 = state.begin_ (.msg false) := by
            simp only [wire, idle, if_true]
          rw [begun] at honest ⊢
          exact delivered.quiet honest
            (begin_synced (idle_stream delivered.synced idle) (matching idle)) rfl
      | false =>
          have same : ((wire codec).step state .recvMsg).1 = state := by
            simp only [wire, idle, Bool.false_eq_true, if_false]
          rw [same] at honest ⊢
          exact delivered.quiet honest delivered.synced rfl
  | recvMsgTimeout2 =>
      cases idle : state.phase.isIdle with
      | true =>
          have begun : ((wire codec).step state .recvMsgTimeout2).1 =
              { state with phase := .waiting, eaten := 0 } := by
            simp only [wire, idle, if_true]
          have stream := idle_stream delivered.synced idle
          rw [begun] at honest ⊢
          exact delivered.quiet honest ⟨stream, matching idle⟩ rfl
      | false =>
          have same : ((wire codec).step state .recvMsgTimeout2).1 = state := by
            simp only [wire, idle, Bool.false_eq_true, if_false]
          rw [same] at honest ⊢
          exact delivered.quiet honest delivered.synced rfl
  | nextRawInto =>
      cases idle : state.phase.isIdle with
      | true =>
          have begun : ((wire codec).step state .nextRawInto).1 = state.begin_ .raw := by
            simp only [wire, idle, if_true]
          rw [begun] at honest ⊢
          exact delivered.quiet honest
            (begin_synced (idle_stream delivered.synced idle) (matching idle)) rfl
      | false =>
          have same : ((wire codec).step state .nextRawInto).1 = state := by
            simp only [wire, idle, Bool.false_eq_true, if_false]
          rw [same] at honest ⊢
          exact delivered.quiet honest delivered.synced rfl
  | ready =>
      cases waits : state.phase.isWaiting with
      | true =>
          have begun : ((wire codec).step state .ready).1 = state.begin_ (.msg true) := by
            simp only [wire, waits, if_true]
          have synced := delivered.synced
          rw [begun] at honest ⊢
          cases phase : state.phase with
          | waiting =>
              simp only [Synced, phase] at synced
              exact delivered.quiet honest (begin_synced synced.1 synced.2) rfl
          | idle => simp [phase, RxPhase.isWaiting] at waits
          | heading call buf off fd => simp [phase, RxPhase.isWaiting] at waits
          | body call len off fd => simp [phase, RxPhase.isWaiting] at waits
          | failed => simp [phase, RxPhase.isWaiting] at waits
      | false =>
          have same : ((wire codec).step state .ready).1 = state := by
            simp only [wire, waits, Bool.false_eq_true, if_false]
          rw [same] at honest ⊢
          exact delivered.quiet honest delivered.synced rfl
  | read size =>
      exact delivered.progress honest
        (drmReadFull_progressed inverts within size delivered.synced delivered.honest)
  | expire =>
      have expired : expire state = (wire codec).step state .expire := rfl
      obtain ⟨synced, received, silent | limit | limit⟩ := expire_synced delivered.synced
        delivered.honest expired
      · rw [silent]
        exact delivered.quiet honest synced received
      · rw [limit]
        exact delivered.limit honest synced received (.inl rfl)
      · rw [limit]
        exact delivered.limit honest synced received (.inr rfl)
  | broken => exact delivered.quiet honest trivial rfl

end Matched

/-- The bytes of all calls wait with the sender, and the receiver is new. -/
def startWire (sends : List (Send Data Fd)) (out : Bytes) : WireState Fd where
  unsent := sends.flatMap fun send => (send.pieces codec).getD []
  socket := []
  readBuf := []
  out := out
  consumed := false
  phase := .idle
  received := 0
  eaten := 0

/-- At the start nothing is delivered. -/
theorem start_delivered {sends : List (Send Data Fd)}
    (within : ∀ send ∈ sends, send.Within codec) (out : Bytes) :
    Delivered codec sends (startWire codec sends out) [] := by
  refine ⟨trivial, ?_, rfl, by simp⟩
  show [] ++ unsentCells (sends.flatMap fun send => (send.pieces codec).getD []) =
    frames codec sends
  rw [List.nil_append, unsentCells, List.flatMap_assoc, frames]
  apply List.flatMap_congr
  intro send member
  exact pieces_cells codec (within send member)

/-- Everything was received where no byte is left. -/
theorem all_received {sends : List (Send Data Fd)} {state : WireState Fd}
    (synced : Synced codec sends state) (honest : Honest state) (alive : state.phase ≠ .failed)
    (empty : state.stream = []) : sends.length ≤ state.received := by
  by_contra behind
  have present : state.received < sends.length := Nat.lt_of_not_le behind
  have ahead : frames codec (sends.drop state.received) ≠ [] := by
    rw [List.drop_eq_getElem_cons present, frames, List.flatMap_cons]
    intro none_
    have length := congrArg List.length none_
    rw [List.length_append, frame_length] at length
    simp only [List.length_nil] at length
    omega
  unfold Synced at synced
  split at synced
  next => exact ahead (synced ▸ empty)
  next => exact ahead (synced.1 ▸ empty)
  next call buf off fd phase =>
    obtain ⟨_, _, ⟨_, _, stream⟩ | ⟨send, _, _, _, _, stream⟩⟩ := synced
    · exact ahead (stream ▸ empty)
    · simp only [Honest, phase] at honest
      rw [stream] at empty
      have length := congrArg List.length empty
      rw [List.length_append, List.length_drop, frame_length] at length
      simp only [List.length_nil] at length
      omega
  next call len off fd phase =>
    obtain ⟨send, _, _, _, lenEq, inBody, _, _, _, stream⟩ := synced
    rw [stream] at empty
    have length := congrArg List.length empty
    rw [List.length_append, List.length_drop, frame_length] at length
    simp only [List.length_nil] at length
    omega
  next phase => exact alive phase

theorem finish_stream (state : WireState Fd) (call : RxCall) (len : Nat) (fd : Option Fd) :
    (finish codec state call len fd).1.stream = state.stream := by
  unfold finish
  split
  next => rfl
  next =>
    split
    next => rfl
    next => rfl

theorem beginBody_stream (state : WireState Fd) (call : RxCall) (buf : Bytes)
    (fd : Option Fd) : (beginBody codec state call buf fd).1.stream = state.stream := by
  simp only [beginBody]
  split
  next => rfl
  next =>
    have kept := (reserve_keeps state call (u32FromBeBytes buf)).1
    split
    next => exact (finish_stream codec _ call _ fd).trans kept
    next => exact kept

def RxPhase.isReading : RxPhase Fd → Bool
  | .heading _ _ _ _ | .body _ _ _ _ => true
  | _ => false

/-- A call in progress reads as long as the socket has a byte. -/
theorem drmReadFull_shorter {sends : List (Send Data Fd)} {state : WireState Fd} (size : Nat)
    (synced : Synced codec sends state) (honest : Honest state)
    (reading : state.phase.isReading = true) (filled : state.socket ≠ []) :
    (drmReadFull codec state size).1.stream.length < state.stream.length := by
  obtain ⟨first, rest, socket⟩ := List.exists_cons_of_ne_nil filled
  have shorter : ∀ count, 0 < count →
      (state.socket.drop count ++ unsentCells state.unsent).length < state.stream.length := by
    intro count positive
    rw [WireState.stream, List.length_append, List.length_append, List.length_drop, socket,
      List.length_cons]
    omega
  cases phase : state.phase with
  | heading call buf off fd =>
      simp only [Honest, phase] at honest
      have positive := (readSize_bounds first rest size (Nat.sub_pos_of_lt honest.2.1)).1
      have less := shorter _ positive
      simp only [drmReadFull, phase]
      rw [socket] at less ⊢
      dsimp only
      split
      next =>
        show ((eat state _).stream).length < _
        rw [eat_stream, socket]
        exact less
      next =>
        rw [beginBody_stream, eat_stream, socket]
        exact less
  | body call len off fd =>
      simp only [Synced, phase] at synced
      obtain ⟨send, _, _, _, _, inBody, _⟩ := synced
      have positive := (readSize_bounds first rest size (Nat.sub_pos_of_lt inBody)).1
      have less := shorter _ positive
      simp only [drmReadFull, phase]
      rw [socket] at less ⊢
      dsimp only
      split
      next =>
        show ((storeBody (eat state _) call off _).stream).length < _
        rw [(storeBody_keeps _ call off _).1, eat_stream, socket]
        exact less
      next =>
        rw [finish_stream, (storeBody_keeps _ call off _).1, eat_stream, socket]
        exact less
  | idle => simp [phase, RxPhase.isReading] at reading
  | waiting => simp [phase, RxPhase.isReading] at reading
  | failed => simp [phase, RxPhase.isReading] at reading

/-- The receiver gets the sent payloads in order, each with its own descriptor, and all of them when
the stream is used up, which every read of a call brings nearer. Whatever the peer sends, a call
without a result ate no byte, and a length above the cap is rejected before the body. -/
theorem wire_delivers (inverts : ∀ data, codec.decode (codec.encode data) = some data)
    (sends : List (Send Data Fd)) (within : ∀ send ∈ sends, send.Within codec) (out : Bytes)
    (inputs : List WireInput)
    (matching : (wire codec).Guarded (Matching sends) (startWire codec sends out) inputs) :
    let final := (wire codec).run (startWire codec sends out) inputs
    final.2.filter (·.isDelivery) = (sends.take final.1.received).map (·.expected) ∧
      (∀ output ∈ final.2, output.isDelivery = true ∨ output = .nothing 0 ∨ output = .stalled) ∧
      (final.1.phase ≠ .failed → final.1.stream = [] →
        final.2.filter (·.isDelivery) = sends.map (·.expected)) ∧
      (final.1.phase.isReading = true → final.1.socket ≠ [] → ∀ size,
        ((wire codec).step final.1 (.read size)).1.stream.length < final.1.stream.length) ∧
      ∀ (peer : List (Piece Fd)) (others : List WireInput),
        ∀ output ∈ ((wire codec).run { startWire codec [] out with unsent := peer } others).2,
          output.Clean := by
  intro final
  have delivered : Delivered codec sends final.1 ([] ++ final.2) :=
    (wire codec).run_invariant (Matching sends) (Delivered codec sends)
      (fun state past input matching delivered =>
        wire_delivered_step inverts within state past input matching delivered)
      (startWire codec sends out) [] inputs (start_delivered codec within out) matching
  rw [List.nil_append] at delivered
  refine ⟨delivered.deliveries, delivered.benign, ?_, ?_, ?_⟩
  · intro alive empty
    have all := all_received codec delivered.synced delivered.honest alive empty
    rw [delivered.deliveries, List.take_of_length_le all]
  · intro reading filled size
    exact drmReadFull_shorter codec size delivered.synced delivered.honest reading filled
  · intro peer others
    apply wire_clean_run codec
    trivial

/-- The text of a frame message without pixels. -/
def frameText : Bytes :=
  "\x7b\"t\":\"DrmFrame\",\"c\":\x7b\"width\":1,\"height\":1\x7d\x7d".toList.map fun letter =>
    UInt8.ofNat letter.toNat

/-- The coding of this one message. -/
def frameCodec : Codec Unit where
  encode _ := frameText
  decode bytes := if bytes = frameText then some () else none

def sampleSends : List (Send Unit Nat) := [.msg () (some 7), .raw [1, 2, 3]]

/-- The length is split, a time limit expires before the first byte, and the bodies come in parts. -/
def sampleInputs : List WireInput :=
  [.recvMsgTimeout2, .ready, .expire, .write 2, .recvMsgTimeout2, .ready, .read 1, .write 9,
    .read 9, .write 9, .read 9, .write 9, .write 20, .read 5, .write 40, .read 40, .read 40,
    .write 9, .nextRawInto, .write 9, .read 9, .write 9, .write 2, .read 9, .write 9, .read 9]

theorem wire_delivers_sample :
    ((wire frameCodec).run (startWire frameCodec sampleSends []) sampleInputs).2 =
        [.nothing 0, .message () (some 7), .rawBody [1, 2, 3]] ∧
      ((wire frameCodec).run (startWire frameCodec sampleSends []) sampleInputs).2.filter
        (·.isDelivery) = sampleSends.map (·.expected) := by
  refine ⟨by decide +kernel, ?_⟩
  apply (wire_delivers frameCodec (fun _ => by simp [frameCodec]) sampleSends
    (by unfold Send.Within; decide +kernel) [] sampleInputs (by decide +kernel)).2.2.1
  · decide +kernel
  · decide +kernel

end SubnetDesk.Drm
