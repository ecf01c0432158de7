import SubnetDesk.Construction.Input.KeyboardGrab
import SubnetDesk.Foundation.Machine

namespace SubnetDesk.Keyboard

open Threads

variable {Key Event : Type}

/-- The window that was entered last and has not been left since, by the calls alone. -/
structure Focus where
  rdevEnabled : Bool
  window : Option SessionId
deriving DecidableEq

def Focus.call (focus : Focus) (call : Call) : Focus :=
  if focus.rdevEnabled then
    match call.state with
    | .run => { focus with window := some call.session }
    | .wait => if focus.window = some call.session then { focus with window := none } else focus
    | .ready => focus
    | .exit => focus
  else focus

def Focus.next (focus : Focus) : Threads.Event Call Nat (Change Key Event) → Focus
  | .call call => focus.call call
  | .disturb (.setRdevEnabled enabled) => { focus with rdevEnabled := enabled }
  | _ => focus

def focusOf (rdevEnabled : Bool) (events : List (Threads.Event Call Nat (Change Key Event))) : Focus :=
  events.foldl Focus.next ⟨rdevEnabled, none⟩

/-- The clock advances before a window takes the grab. -/
def Advances : Threads.Event Call Nat (Change Key Event) → Prop
  | .call call => call.state = .run → 0 < call.elapsed
  | _ => True

/-- The thread sleeps and will release the grab as it stands. -/
def Thread.Releases (grab : GrabOwnerState) : Thread Key Event → Prop
  | .sleeping session snapshot _ _ => grab.owner = some session ∧ grab.lastGrab = snapshot
  | _ => False

/-- The thread has seen a grab of the past. -/
def Thread.Slept (now : Nat) : Thread Key Event → Prop
  | .sleeping _ snapshot _ _ => ∃ time, snapshot = some time ∧ time ≤ now
  | _ => True

/-- The thread will bring the keyboard in line with the owner. -/
def Thread.Aligns (owner : Option SessionId) : Thread Key Event → Prop
  | .disabling _ _ => owner = none
  | .regrabbing session _ => owner = some session
  | _ => False

def Thread.operates : Thread Key Event → Bool
  | .operating _ => true
  | _ => false

/-- The keyboard after the calls that the holder of the lock still has to make. -/
def Shared.grabbedAtEnd (shared : Shared Key Event) : Bool :=
  (shared.grabOpLock.getD []).foldl (fun _ call => decide (call = .enableGrab)) shared.grabbed

/-- What a call does while it holds the lock of the grab state. -/
inductive Entered (shared : Shared Key Event) (call : Call) :
    Shared Key Event → Thread Key Event → Prop
  | disabled (off : shared.rdevEnabled = false) : Entered shared call shared .done
  | nothing (other : call.state = .ready ∨ call.state = .exit) : Entered shared call shared .done
  | refreshed (runs : call.state = .run) (enabled : shared.rdevEnabled = true)
      (owner : shared.grab.owner = some call.session) :
      Entered shared call
        { shared with grab := ⟨some call.session, some shared.now, false⟩ } .done
  | grabbed (runs : call.state = .run) (enabled : shared.rdevEnabled = true)
      (other : shared.grab.owner ≠ some call.session) :
      Entered shared call
        { shared with
          keyboardHooked := true
          grab := ⟨some call.session, some shared.now, false⟩ }
        (.regrabbing call.session shared.grab.owner.isSome)
  | stale (waits : call.state = .wait) (enabled : shared.rdevEnabled = true)
      (other : shared.grab.owner ≠ some call.session) : Entered shared call shared .done
  | repeated (waits : call.state = .wait) (enabled : shared.rdevEnabled = true)
      (owner : shared.grab.owner = some call.session)
      (pending : shared.grab.deferredPending = true) : Entered shared call shared .done
  | deferred (waits : call.state = .wait) (enabled : shared.rdevEnabled = true)
      (owner : shared.grab.owner = some call.session)
      (first : shared.grab.deferredPending = false) (due : Nat) :
      Entered shared call
        { shared with grab := { shared.grab with deferredPending := true } }
        (.sleeping call.session shared.grab.lastGrab due call.keyboardMode)
  | released (waits : call.state = .wait) (enabled : shared.rdevEnabled = true)
      (owner : shared.grab.owner = some call.session) :
      Entered shared call shared.letGo (.disabling call.keyboardMode shared.toRelease)

/-- A call enters by the rules. -/
theorem changeGrabStatus_entered (shared : Shared Key Event) (call : Call) :
    Entered (shared.after call.elapsed) call (changeGrabStatus shared call).1
      (changeGrabStatus shared call).2 := by
  unfold changeGrabStatus
  dsimp only
  generalize shared.after call.elapsed = shared
  split
  next enabled =>
    cases state : call.state with
    | ready => exact .nothing (.inl state)
    | exit => exact .nothing (.inr state)
    | run =>
        simp only [run]
        split
        next owner => exact .refreshed state enabled owner
        next other => exact .grabbed state enabled other
    | wait =>
        simp only [wait]
        split
        next other => exact .stale state enabled other
        next owned =>
          have owner : shared.grab.owner = some call.session := not_not.mp owned
          split
          next time =>
            split
            next =>
              split
              next pending => exact .repeated state enabled owner pending
              next first => exact .deferred state enabled owner (by simpa using first) _
            next => exact .released state enabled owner
          next => exact .released state enabled owner
  next off => exact .disabled (by simpa using off)

/-- What one step of a thread does. -/
inductive Moved (shared : Shared Key Event) :
    Thread Key Event → Shared Key Event → Thread Key Event → Prop
  | stays (thread : Thread Key Event) : Moved shared thread shared thread
  | awoken (session : SessionId) (snapshot : Option Nat) (due : Nat) (mode : String)
      (same : shared.grab.owner = some session ∧ shared.grab.lastGrab = snapshot) :
      Moved shared (.sleeping session snapshot due mode) shared.letGo
        (.disabling mode shared.toRelease)
  | cancelled (session : SessionId) (snapshot : Option Nat) (due : Nat) (mode : String)
      (other : ¬ (shared.grab.owner = some session ∧ shared.grab.lastGrab = snapshot)) :
      Moved shared (.sleeping session snapshot due mode) shared .done
  | disables (mode : String) (keys : List (Key × Event)) (free : shared.grabOpLock = none)
      (released : shared.grab.owner = none) :
      Moved shared (.disabling mode keys) { shared with grabOpLock := some [.disableGrab] }
        (.operating (some (mode, keys)))
  | skipped (mode : String) (keys : List (Key × Event)) (free : shared.grabOpLock = none)
      (taken : ¬ (shared.grab.owner = none ∧ shared.grab.lastGrab = none)) :
      Moved shared (.disabling mode keys) shared (.releasing mode keys)
  | regrabs (session : SessionId) (disableFirst : Bool) (calls : List GrabCall)
      (free : shared.grabOpLock = none) (owner : shared.grab.owner = some session)
      (enables : calls.getLast? = some .enableGrab) :
      Moved shared (.regrabbing session disableFirst) { shared with grabOpLock := some calls }
        (.operating none)
  | ignored (session : SessionId) (disableFirst : Bool) (free : shared.grabOpLock = none)
      (other : shared.grab.owner ≠ some session) :
      Moved shared (.regrabbing session disableFirst) shared .done
  | calls (release : Option (String × List (Key × Event))) (call : GrabCall)
      (rest : List GrabCall) (held : shared.grabOpLock = some (call :: rest)) :
      Moved shared (.operating release)
        { shared with
          grabOpLock := some rest
          grabbed := decide (call = .enableGrab) }
        (.operating release)
  | unlocks (release : Option (String × List (Key × Event)))
      (idle : shared.grabOpLock.getD [] = []) :
      Moved shared (.operating release) { shared with grabOpLock := none } (.afterwards release)
  | ends (mode : String) (keys : List (Key × Event)) : Moved shared (.releasing mode keys) shared .done

/-- A thread moves by the rules. -/
theorem move_moved (shared : Shared Key Event) (thread : Thread Key Event) (elapsed : Nat) :
    Moved (shared.after elapsed) thread (move shared thread elapsed).1
      (move shared thread elapsed).2.1 := by
  unfold move
  dsimp only
  generalize shared.after elapsed = shared
  cases thread with
  | sleeping session snapshot due mode =>
      dsimp only
      split
      next => exact .stays _
      next =>
        unfold deferredRelease
        split
        next same => exact .awoken session snapshot due mode same
        next other => exact .cancelled session snapshot due mode other
  | disabling mode keys =>
      dsimp only
      split
      next free =>
        unfold disableGrabIfReleased
        split
        next released => exact .disables mode keys free released.1
        next taken => exact .skipped mode keys free taken
      next => exact .stays _
  | regrabbing session disableFirst =>
      dsimp only
      split
      next free =>
        unfold applyRunGrabIfOwner
        split
        next owner =>
          refine .regrabs session disableFirst _ free owner ?_
          cases disableFirst <;> rfl
        next other => exact .ignored session disableFirst free other
      next => exact .stays _
  | operating release =>
      dsimp only [operate]
      split
      next call rest held => exact .calls release call rest held
      next idle =>
        refine .unlocks release ?_
        cases held : shared.grabOpLock with
        | none => rfl
        | some calls =>
            cases calls with
            | nil => rfl
            | cons call rest => exact absurd held (idle call rest)
  | releasing mode keys => exact .ends mode keys
  | done => exact .stays _

theorem exists_set_iff {Item : Type} {items : List Item} {index : Nat} {item next : Item}
    {good : Item → Prop} (found : items[index]? = some item) (same : good next ↔ good item) :
    (∃ other ∈ items.set index next, good other) ↔ ∃ other ∈ items, good other := by
  obtain ⟨inside, rfl⟩ := List.getElem?_eq_some_iff.mp found
  constructor
  · rintro ⟨other, member, holds⟩
    rcases List.mem_or_eq_of_mem_set member with old | rfl
    · exact ⟨other, old, holds⟩
    · exact ⟨items[index], List.getElem_mem inside, same.mp holds⟩
  · rintro ⟨other, member, holds⟩
    by_cases differs : other = items[index]
    · exact ⟨next, List.mem_set inside next, same.mpr (differs ▸ holds)⟩
    · exact ⟨other, mem_set_of_ne found member differs, holds⟩

/-- A thread that slept has slept later. -/
theorem Thread.Slept.mono {thread : Thread Key Event} {now later : Nat} (slept : thread.Slept now)
    (advanced : now ≤ later) : thread.Slept later := by
  cases thread with
  | sleeping session snapshot due mode =>
      obtain ⟨time, taken, before⟩ := slept
      exact ⟨time, taken, before.trans advanced⟩
  | disabling mode keys => trivial
  | regrabbing session disableFirst => trivial
  | operating release => trivial
  | releasing mode keys => trivial
  | done => trivial

/-- A grab that is newer than the snapshot cancels the release. -/
theorem Thread.Slept.not_releases {thread : Thread Key Event} {now : Nat} (slept : thread.Slept now)
    {grab : GrabOwnerState} {time : Nat} (newer : now < time) (taken : grab.lastGrab = some time) :
    ¬ thread.Releases grab := by
  intro releases
  cases thread with
  | sleeping session snapshot due mode =>
      obtain ⟨past, rfl, before⟩ := slept
      have same : some time = some past := taken.symm.trans releases.2
      cases same
      omega
  | disabling mode keys => exact releases
  | regrabbing session disableFirst => exact releases
  | operating release => exact releases
  | releasing mode keys => exact releases
  | done => exact releases

/-- A free grab is not released. -/
theorem Thread.not_releases_free (thread : Thread Key Event) {grab : GrabOwnerState}
    (free : grab.owner = none) : ¬ thread.Releases grab := by
  intro releases
  cases thread with
  | sleeping session snapshot due mode =>
      rw [Thread.Releases, free] at releases
      cases releases.1
  | disabling mode keys => exact releases
  | regrabbing session disableFirst => exact releases
  | operating release => exact releases
  | releasing mode keys => exact releases
  | done => exact releases

/-- The owner of the grab follows the windows, except that its release may be put off. -/
structure Tracks (world : World Key Event) (focus : Focus) : Prop where
  enabled : world.shared.rdevEnabled = focus.rdevEnabled
  hooked : world.shared.keyboardHooked = world.shared.grab.owner.isSome
  owned : world.shared.grab.lastGrab.isSome = world.shared.grab.owner.isSome
  grabbed : ∀ time, world.shared.grab.lastGrab = some time → time ≤ world.shared.now
  slept : ∀ thread ∈ world.threads, thread.Slept world.shared.now
  pending : world.shared.grab.deferredPending = true ↔
    ∃ thread ∈ world.threads, thread.Releases world.shared.grab
  waiting : world.shared.grab.deferredPending = true → focus.window = none
  agrees : world.shared.grab.deferredPending = false → world.shared.grab.owner = focus.window

variable {shared changed : Shared Key Event} {threads : List (Thread Key Event)}
  {thread next : Thread Key Event} {focus : Focus} {call : Call} {index : Nat}

theorem tracks_start (rdevEnabled : Bool) :
    Tracks (World.start rdevEnabled : World Key Event) ⟨rdevEnabled, none⟩ where
  enabled := rfl
  hooked := rfl
  owned := rfl
  grabbed := by simp [World.start]
  slept := by simp [World.start]
  pending := by simp [World.start]
  waiting := fun _ => rfl
  agrees := fun _ => rfl

/-- Time keeps the owner tracked. -/
theorem Tracks.after (tracks : Tracks ⟨shared, threads⟩ focus) (elapsed : Nat) :
    Tracks ⟨shared.after elapsed, threads⟩ focus where
  enabled := tracks.enabled
  hooked := tracks.hooked
  owned := tracks.owned
  grabbed := fun time taken => (tracks.grabbed time taken).trans (Nat.le_add_right _ _)
  slept := fun thread member => (tracks.slept thread member).mono (Nat.le_add_right _ _)
  pending := tracks.pending
  waiting := tracks.waiting
  agrees := tracks.agrees

/-- A thread that releases nothing joins. -/
theorem Tracks.joined (tracks : Tracks ⟨shared, threads⟩ focus) (slept : thread.Slept shared.now)
    (idle : ¬ thread.Releases shared.grab) : Tracks ⟨shared, threads ++ [thread]⟩ focus where
  enabled := tracks.enabled
  hooked := tracks.hooked
  owned := tracks.owned
  grabbed := tracks.grabbed
  slept := by
    intro other member
    rcases List.mem_append.mp member with old | new
    · exact tracks.slept other old
    · rw [List.mem_singleton.mp new]
      exact slept
  pending := by
    rw [tracks.pending]
    simp [idle]
  waiting := tracks.waiting
  agrees := tracks.agrees

/-- A thread goes on without a change of what it releases. -/
theorem Tracks.replaced (tracks : Tracks ⟨shared, threads⟩ focus)
    (found : threads[index]? = some thread) (slept : next.Slept shared.now)
    (same : next.Releases shared.grab ↔ thread.Releases shared.grab) :
    Tracks ⟨shared, threads.set index next⟩ focus where
  enabled := tracks.enabled
  hooked := tracks.hooked
  owned := tracks.owned
  grabbed := tracks.grabbed
  slept := by
    intro other member
    rcases List.mem_or_eq_of_mem_set member with old | rfl
    · exact tracks.slept other old
    · exact slept
  pending := by
    rw [tracks.pending]
    exact (exists_set_iff found same).symm
  waiting := tracks.waiting
  agrees := tracks.agrees

/-- A release leaves no window. -/
theorem Tracks.letGo (tracks : Tracks ⟨shared, threads⟩ focus) :
    Tracks ⟨shared.letGo, threads⟩ { focus with window := none } where
  enabled := tracks.enabled
  hooked := rfl
  owned := rfl
  grabbed := by simp [Shared.letGo]
  slept := tracks.slept
  pending := by
    refine iff_of_false Bool.false_ne_true ?_
    rintro ⟨thread, -, releases⟩
    exact thread.not_releases_free rfl releases
  waiting := fun _ => rfl
  agrees := fun _ => rfl

/-- A window takes the grab, and the releases that were put off are cancelled. -/
theorem Tracks.taken (tracks : Tracks ⟨shared, threads⟩ focus) {elapsed : Nat}
    (advances : 0 < elapsed) (session : SessionId) :
    Tracks
      ⟨{ shared.after elapsed with
          keyboardHooked := true
          grab := ⟨some session, some (shared.after elapsed).now, false⟩ }, threads⟩
      { focus with window := some session } where
  enabled := tracks.enabled
  hooked := rfl
  owned := rfl
  grabbed := by
    rintro time taken
    cases taken
    exact le_rfl
  slept := (tracks.after elapsed).slept
  pending := by
    refine iff_of_false Bool.false_ne_true ?_
    rintro ⟨thread, member, releases⟩
    exact (tracks.slept thread member).not_releases (Nat.lt_add_of_pos_right advances) rfl releases
  waiting := by simp
  agrees := fun _ => rfl

/-- A call keeps the owner tracked. -/
theorem Tracks.entered (tracks : Tracks ⟨shared, threads⟩ focus)
    (advances : call.state = .run → 0 < call.elapsed)
    (entered : Entered (shared.after call.elapsed) call changed thread) :
    Tracks ⟨changed, threads ++ [thread]⟩ (focus.call call) := by
  have later := tracks.after call.elapsed
  have unchanged : focus.call call = focus →
      Tracks ⟨shared.after call.elapsed, threads ++ [.done]⟩ (focus.call call) := by
    intro same
    rw [same]
    exact later.joined trivial id
  cases entered with
  | disabled off => exact unchanged (by simp [Focus.call, ← later.enabled, off])
  | nothing other =>
      refine unchanged ?_
      rcases other with ready | exit
      · simp [Focus.call, ready]
      · simp [Focus.call, exit]
  | refreshed runs enabled owner =>
      have hooked : (shared.after call.elapsed).keyboardHooked = true := by
        rw [later.hooked, owner]
        rfl
      have moved : focus.call call = { focus with window := some call.session } := by
        simp [Focus.call, ← later.enabled, enabled, runs]
      have taken := tracks.taken (advances runs) call.session
      rw [← hooked] at taken
      rw [moved]
      exact taken.joined trivial id
  | grabbed runs enabled other =>
      have moved : focus.call call = { focus with window := some call.session } := by
        simp [Focus.call, ← later.enabled, enabled, runs]
      rw [moved]
      exact (tracks.taken (advances runs) call.session).joined trivial id
  | stale waits enabled other =>
      refine unchanged ?_
      have apart : focus.window ≠ some call.session := by
        intro inside
        cases pending : (shared.after call.elapsed).grab.deferredPending with
        | true => rw [later.waiting pending] at inside; cases inside
        | false => exact other ((later.agrees pending).trans inside)
      simp [Focus.call, waits, apart]
  | repeated waits enabled owner pending =>
      refine unchanged ?_
      have outside := later.waiting pending
      simp [Focus.call, waits, outside]
  | deferred waits enabled owner first due =>
      have inside : focus.window = some call.session := (later.agrees first).symm.trans owner
      have left : focus.call call = { focus with window := none } := by
        simp [Focus.call, ← later.enabled, enabled, waits, inside]
      rw [left]
      obtain ⟨time, taken⟩ : ∃ time, (shared.after call.elapsed).grab.lastGrab = some time := by
        rw [← Option.isSome_iff_exists, later.owned, owner]
        rfl
      exact {
        enabled := later.enabled
        hooked := later.hooked
        owned := later.owned
        grabbed := later.grabbed
        slept := by
          intro other member
          rcases List.mem_append.mp member with old | new
          · exact later.slept other old
          · rw [List.mem_singleton.mp new]
            exact ⟨time, taken, later.grabbed time taken⟩
        pending := by
          refine iff_of_true rfl ⟨_, List.mem_append_right _ (List.mem_singleton_self _), ?_⟩
          exact ⟨owner, rfl⟩
        waiting := fun _ => rfl
        agrees := by simp }
  | released waits enabled owner =>
      have left : focus.call call = { focus with window := none } := by
        cases pending : (shared.after call.elapsed).grab.deferredPending with
        | true =>
            have outside := later.waiting pending
            have same : focus.call call = focus := by simp [Focus.call, waits, outside]
            rw [same, ← outside]
        | false =>
            have inside : focus.window = some call.session := (later.agrees pending).symm.trans owner
            simp [Focus.call, ← later.enabled, enabled, waits, inside]
      rw [left]
      exact later.letGo.joined trivial id

/-- A thread keeps the owner tracked. -/
theorem Tracks.moved (tracks : Tracks ⟨shared, threads⟩ focus)
    (found : threads[index]? = some thread) (moved : Moved shared thread changed next) :
    Tracks ⟨changed, threads.set index next⟩ focus := by
  have member := List.mem_of_getElem? found
  have going : next.Slept shared.now → (next.Releases shared.grab ↔ thread.Releases shared.grab) →
      Tracks ⟨shared, threads.set index next⟩ focus := tracks.replaced found
  cases moved with
  | stays thread => exact going (tracks.slept thread member) Iff.rfl
  | awoken session snapshot due mode same =>
      have pending := tracks.pending.mpr ⟨_, member, same⟩
      have outside : { focus with window := none } = focus := by rw [← tracks.waiting pending]
      have released := tracks.letGo
      rw [outside] at released
      refine released.replaced found trivial ?_
      exact iff_of_false (Thread.not_releases_free _ rfl) (Thread.not_releases_free _ rfl)
  | cancelled session snapshot due mode other => exact going trivial (iff_of_false id other)
  | disables mode keys free released =>
      have next := going trivial Iff.rfl
      exact ⟨next.enabled, next.hooked, next.owned, next.grabbed, next.slept, next.pending,
        next.waiting, next.agrees⟩
  | skipped mode keys free taken => exact going trivial Iff.rfl
  | regrabs session disableFirst calls free owner enables =>
      have next := going trivial Iff.rfl
      exact ⟨next.enabled, next.hooked, next.owned, next.grabbed, next.slept, next.pending,
        next.waiting, next.agrees⟩
  | ignored session disableFirst free other => exact going trivial Iff.rfl
  | calls release call rest held =>
      have next := going trivial Iff.rfl
      exact ⟨next.enabled, next.hooked, next.owned, next.grabbed, next.slept, next.pending,
        next.waiting, next.agrees⟩
  | unlocks release idle =>
      have next := going (by cases release <;> trivial) (by cases release <;> exact Iff.rfl)
      exact ⟨next.enabled, next.hooked, next.owned, next.grabbed, next.slept, next.pending,
        next.waiting, next.agrees⟩
  | ends mode keys => exact going trivial Iff.rfl

theorem Shared.grabbedAtEnd_of_enables {calls : List GrabCall}
    (enables : calls.getLast? = some .enableGrab) :
    ({ shared with grabOpLock := some calls } : Shared Key Event).grabbedAtEnd = true := by
  obtain ⟨before, rfl⟩ := List.getLast?_eq_some_iff.mp enables
  simp [Shared.grabbedAtEnd]

/-- At most one thread makes calls, and the keyboard ends in line with the owner. -/
structure Settles (world : World Key Event) : Prop where
  single : world.threads.countP Thread.operates = world.shared.grabOpLock.isSome.toNat
  follows : world.shared.grabbedAtEnd = world.shared.grab.owner.isSome ∨
    ∃ thread ∈ world.threads, thread.Aligns world.shared.grab.owner

theorem Settles.after (settles : Settles ⟨shared, threads⟩) (elapsed : Nat) :
    Settles ⟨shared.after elapsed, threads⟩ := ⟨settles.single, settles.follows⟩

theorem settles_start (rdevEnabled : Bool) :
    Settles (World.start rdevEnabled : World Key Event) := ⟨rfl, .inl rfl⟩

/-- A step that leaves the owner alone adds a thread that makes no call. -/
theorem Settles.joined (settles : Settles ⟨shared, threads⟩)
    (lock : changed.grabOpLock = shared.grabOpLock) (kept : changed.grabbed = shared.grabbed)
    (aligned : changed.grab.owner = shared.grab.owner ∨ thread.Aligns changed.grab.owner)
    (idle : thread.operates = false) : Settles ⟨changed, threads ++ [thread]⟩ where
  single := by
    rw [List.countP_append, settles.single, lock]
    simp [idle]
  follows := by
    rcases aligned with same | aligns
    · rcases settles.follows with follows | ⟨other, member, aligns⟩
      · left
        rw [Shared.grabbedAtEnd, lock, kept, same]
        exact follows
      · right
        rw [same]
        exact ⟨other, List.mem_append_left _ member, aligns⟩
    · exact .inr ⟨thread, List.mem_append_right _ (List.mem_singleton_self thread), aligns⟩

/-- A call leaves the grab to settle. -/
theorem Settles.entered (settles : Settles ⟨shared, threads⟩)
    (entered : Entered shared call changed thread) : Settles ⟨changed, threads ++ [thread]⟩ := by
  cases entered with
  | disabled off => exact settles.joined rfl rfl (.inl rfl) rfl
  | nothing other => exact settles.joined rfl rfl (.inl rfl) rfl
  | refreshed runs enabled owner => exact settles.joined rfl rfl (.inl owner.symm) rfl
  | grabbed runs enabled other => exact settles.joined rfl rfl (.inr rfl) rfl
  | stale waits enabled other => exact settles.joined rfl rfl (.inl rfl) rfl
  | repeated waits enabled owner pending => exact settles.joined rfl rfl (.inl rfl) rfl
  | deferred waits enabled owner first due => exact settles.joined rfl rfl (.inl rfl) rfl
  | released waits enabled owner => exact settles.joined rfl rfl (.inr rfl) rfl

/-- One thread at most holds the lock. -/
theorem Settles.counted (settles : Settles ⟨shared, threads⟩)
    (found : threads[index]? = some thread)
    (lock : changed.grabOpLock.isSome.toNat + thread.operates.toNat =
      shared.grabOpLock.isSome.toNat + next.operates.toNat) :
    (threads.set index next).countP Thread.operates = changed.grabOpLock.isSome.toNat := by
  have counted := countP_set found next Thread.operates
  have before := settles.single
  dsimp only at before
  omega

/-- After the step the keyboard is in line with the owner, or the thread brings it there. -/
theorem Settles.settled (settles : Settles ⟨shared, threads⟩)
    (found : threads[index]? = some thread)
    (lock : changed.grabOpLock.isSome.toNat + thread.operates.toNat =
      shared.grabOpLock.isSome.toNat + next.operates.toNat)
    (ends : changed.grabbedAtEnd = changed.grab.owner.isSome ∨ next.Aligns changed.grab.owner) :
    Settles ⟨changed, threads.set index next⟩ where
  single := settles.counted found lock
  follows := by
    obtain ⟨inside, -⟩ := List.getElem?_eq_some_iff.mp found
    exact ends.imp_right fun aligns => ⟨next, List.mem_set inside next, aligns⟩

/-- The step changes neither the owner nor what the keyboard ends in. -/
theorem Settles.unchanged (settles : Settles ⟨shared, threads⟩)
    (found : threads[index]? = some thread)
    (lock : changed.grabOpLock.isSome.toNat + thread.operates.toNat =
      shared.grabOpLock.isSome.toNat + next.operates.toNat)
    (ends : changed.grabbedAtEnd = shared.grabbedAtEnd)
    (owner : changed.grab.owner = shared.grab.owner)
    (aligned : thread.Aligns shared.grab.owner → next.Aligns shared.grab.owner) :
    Settles ⟨changed, threads.set index next⟩ where
  single := settles.counted found lock
  follows := by
    obtain ⟨inside, -⟩ := List.getElem?_eq_some_iff.mp found
    dsimp only
    rw [ends, owner]
    refine settles.follows.imp_right ?_
    rintro ⟨other, member, aligns⟩
    by_cases same : other = thread
    · exact ⟨next, List.mem_set inside next, aligned (same ▸ aligns)⟩
    · exact ⟨other, mem_set_of_ne found member same, aligns⟩

/-- A thread leaves the grab to settle. -/
theorem Settles.moved (settles : Settles ⟨shared, threads⟩)
    (owned : shared.grab.lastGrab.isSome = shared.grab.owner.isSome)
    (found : threads[index]? = some thread) (moved : Moved shared thread changed next) :
    Settles ⟨changed, threads.set index next⟩ := by
  have holds : thread.operates = true → shared.grabOpLock.isSome = true := by
    intro operates
    have positive := List.countP_pos_iff.mpr ⟨thread, List.mem_of_getElem? found, operates⟩
    have counted := settles.single
    dsimp only at counted
    rw [counted] at positive
    cases locked : shared.grabOpLock.isSome with
    | true => rfl
    | false => simp [locked] at positive
  cases moved with
  | stays thread => exact settles.unchanged found rfl rfl rfl id
  | awoken session snapshot due mode same => exact settles.settled found rfl (.inr rfl)
  | cancelled session snapshot due mode other =>
      exact settles.unchanged found rfl rfl rfl False.elim
  | disables mode keys free released =>
      refine settles.settled found ?_ (.inl ?_)
      · rw [free]
        rfl
      · dsimp only
        rw [released]
        rfl
  | skipped mode keys free taken =>
      refine settles.unchanged found rfl rfl rfl fun released => absurd ⟨released, ?_⟩ taken
      rw [show shared.grab.owner = none from released] at owned
      exact Option.not_isSome_iff_eq_none.mp (by simp [owned])
  | regrabs session disableFirst calls free owner enables =>
      refine settles.settled found ?_ (.inl ?_)
      · rw [free]
        rfl
      · dsimp only
        rw [owner]
        exact Shared.grabbedAtEnd_of_enables enables
  | ignored session disableFirst free other =>
      exact settles.unchanged found rfl rfl rfl fun aligns => absurd aligns other
  | calls release call rest held =>
      refine settles.unchanged found ?_ ?_ rfl False.elim
      · rw [held]
        rfl
      · simp [Shared.grabbedAtEnd, held]
  | unlocks release idle =>
      have quiet : (Thread.afterwards release : Thread Key Event).operates = false := by
        cases release <;> rfl
      refine settles.unchanged found ?_ ?_ rfl False.elim
      · rw [quiet, holds rfl]
        rfl
      · simp [Shared.grabbedAtEnd, idle]
  | ends mode keys => exact settles.unchanged found rfl rfl rfl False.elim

/-- A key leaves the grab to settle. -/
theorem Settles.disturbed [DecidableEq Key] (settles : Settles ⟨shared, threads⟩)
    (change : Change Key Event) : Settles ⟨disturb shared change, threads⟩ := by
  cases change with
  | setRdevEnabled enabled => exact ⟨settles.single, settles.follows⟩
  | press key event => exact ⟨settles.single, settles.follows⟩
  | lift key => exact ⟨settles.single, settles.follows⟩

/-- A key keeps the owner tracked. -/
theorem Tracks.disturbed [DecidableEq Key] (tracks : Tracks ⟨shared, threads⟩ focus)
    (change : Change Key Event) :
    Tracks ⟨disturb shared change, threads⟩ (focus.next (.disturb change)) := by
  cases change with
  | setRdevEnabled enabled =>
      exact ⟨rfl, tracks.hooked, tracks.owned, tracks.grabbed, tracks.slept, tracks.pending,
        tracks.waiting, tracks.agrees⟩
  | press key event => exact ⟨tracks.enabled, tracks.hooked, tracks.owned, tracks.grabbed,
      tracks.slept, tracks.pending, tracks.waiting, tracks.agrees⟩
  | lift key => exact ⟨tracks.enabled, tracks.hooked, tracks.owned, tracks.grabbed,
      tracks.slept, tracks.pending, tracks.waiting, tracks.agrees⟩

/-- One event keeps both invariants. -/
theorem tracks_step [DecidableEq Key] {world : World Key Event}
    (event : Threads.Event Call Nat (Change Key Event)) (advances : Advances event)
    (tracks : Tracks world focus) (settles : Settles world) :
    Tracks ((program Key Event).machine.step world event).1 (focus.next event) ∧
      Settles ((program Key Event).machine.step world event).1 := by
  obtain ⟨shared, threads⟩ := world
  cases event with
  | call call =>
      have entered := changeGrabStatus_entered shared call
      exact ⟨tracks.entered advances entered,
        (settles.after call.elapsed).entered entered⟩
  | advance index elapsed =>
      cases found : threads[index]? with
      | none =>
          rw [(program Key Event).machine_absent elapsed found]
          exact ⟨tracks, settles⟩
      | some thread =>
          have moved := move_moved shared thread elapsed
          rw [(program Key Event).machine_advance elapsed found]
          exact ⟨(tracks.after elapsed).moved found moved,
            (settles.after elapsed).moved tracks.owned found moved⟩
  | disturb change => exact ⟨tracks.disturbed change, settles.disturbed change⟩

/-- The steps that a thread needs at most, without the calls it holds the lock for. -/
def Thread.remaining : Thread Key Event → Nat
  | .sleeping _ _ _ _ => 6
  | .disabling _ _ => 5
  | .regrabbing _ _ => 5
  | .operating _ => 2
  | .releasing _ _ => 1
  | .done => 0

def Shared.callsLeft (shared : Shared Key Event) : Nat := (shared.grabOpLock.getD []).length

/-- A busy thread can move on. -/
theorem move_progress (shared : Shared Key Event) (thread : Thread Key Event)
    (busy : thread ≠ .done) (ready : thread.operates = true ∨ shared.grabOpLock = none) :
    ∃ elapsed : Nat,
      (move shared thread elapsed).2.1.remaining + (move shared thread elapsed).1.callsLeft <
        thread.remaining + shared.callsLeft := by
  cases thread with
  | sleeping session snapshot due mode =>
      refine ⟨due, ?_⟩
      have awake : ¬ (shared.after due).now < due := Nat.not_lt.mpr (Nat.le_add_left due shared.now)
      simp only [move, awake, if_false, deferredRelease]
      split
      next => simp [Thread.remaining, Shared.callsLeft, Shared.letGo, Shared.after]
      next => simp [Thread.remaining, Shared.callsLeft, Shared.after]
  | disabling mode keys =>
      have free : shared.grabOpLock = none := ready.resolve_left Bool.false_ne_true
      refine ⟨0, ?_⟩
      simp only [move, Shared.after, free, if_true, disableGrabIfReleased]
      split
      next => simp [Thread.remaining, Shared.callsLeft, free]
      next => simp [Thread.remaining, Shared.callsLeft, free, Thread.afterwards]
  | regrabbing session disableFirst =>
      have free : shared.grabOpLock = none := ready.resolve_left Bool.false_ne_true
      refine ⟨0, ?_⟩
      simp only [move, Shared.after, free, if_true, applyRunGrabIfOwner]
      split
      next => cases disableFirst <;> simp [Thread.remaining, Shared.callsLeft, free]
      next => simp [Thread.remaining, Shared.callsLeft, free, Thread.afterwards]
  | operating release =>
      refine ⟨0, ?_⟩
      simp only [move, Shared.after, operate]
      split
      next call rest held => simp [Thread.remaining, Shared.callsLeft, held]
      next =>
        have ended : (Thread.afterwards release : Thread Key Event).remaining ≤ 1 := by
          cases release with
          | none => exact Nat.zero_le 1
          | some keys => exact le_rfl
        show (Thread.afterwards release : Thread Key Event).remaining + 0 < 2 + shared.callsLeft
        omega
  | releasing mode keys => exact ⟨0, by simp [move, Thread.remaining, Shared.callsLeft, Shared.after]⟩
  | done => exact absurd rfl busy

theorem sum_map_set {Item : Type} {items : List Item} {index : Nat} {item : Item}
    (found : items[index]? = some item) (next : Item) (weight : Item → Nat) :
    ((items.set index next).map weight).sum + weight item =
      (items.map weight).sum + weight next := by
  induction items generalizing index with
  | nil => simp at found
  | cons head rest ih =>
      cases index with
      | zero =>
          cases found
          simp only [List.set_cons_zero, List.map_cons, List.sum_cons]
          omega
      | succ index =>
          rw [List.getElem?_cons_succ] at found
          have tail := ih found
          simp only [List.set_cons_succ, List.map_cons, List.sum_cons]
          omega

/-- A thread that is not done can go on: the holder of the lock, or else any other one. -/
theorem Settles.ready (settles : Settles ⟨shared, threads⟩) (thread : Thread Key Event)
    (member : thread ∈ threads) (busy : thread ≠ .done) :
    ∃ other ∈ threads, other ≠ .done ∧ (other.operates = true ∨ shared.grabOpLock = none) := by
  cases held : shared.grabOpLock with
  | none => exact ⟨thread, member, busy, .inr rfl⟩
  | some calls =>
      have single := settles.single
      dsimp only at single
      rw [held] at single
      obtain ⟨holder, inside, operates⟩ := List.countP_pos_iff.mp (by rw [single]; exact Nat.one_pos)
      refine ⟨holder, inside, ?_, .inl operates⟩
      rintro rfl
      exact Bool.false_ne_true operates

/-- The threads can come to their end. -/
theorem exists_finished [DecidableEq Key] (world : World Key Event) (focus : Focus)
    (tracks : Tracks world focus) (settles : Settles world) :
    ∃ schedule : List (Nat × Nat),
      ∀ thread ∈ ((program Key Event).machine.run world
        (schedule.map fun step => .advance step.1 step.2)).1.threads, thread = .done := by
  induction size : (world.threads.map Thread.remaining).sum + world.shared.callsLeft
    using Nat.strong_induction_on generalizing world with
  | _ total ih =>
      by_cases finished : ∀ thread ∈ world.threads, thread = .done
      · exact ⟨[], finished⟩
      · obtain ⟨thread, member, busy⟩ : ∃ thread ∈ world.threads, thread ≠ .done := by
          simpa using finished
        obtain ⟨other, inside, unfinished, ready⟩ := settles.ready thread member busy
        obtain ⟨index, found⟩ := List.mem_iff_getElem?.mp inside
        obtain ⟨elapsed, fewer⟩ := move_progress world.shared other unfinished ready
        obtain ⟨tracked, settled⟩ := tracks_step (.advance index elapsed) trivial tracks settles
        have stepped := (program Key Event).machine_advance elapsed found
        have weighed := sum_map_set found (move world.shared other elapsed).2.1 Thread.remaining
        obtain ⟨schedule, ends⟩ := ih _ (by
          rw [stepped]
          show ((world.threads.set index (move world.shared other elapsed).2.1).map
            Thread.remaining).sum + (move world.shared other elapsed).1.callsLeft < total
          omega) _ tracked settled rfl
        exact ⟨(index, elapsed) :: schedule, ends⟩

/-- The grab belongs to the window that was entered last and not left, or a sleeping thread is about
to release it. The threads can always come to their end, and then the keyboard is grabbed exactly for
such a window. -/
theorem grab_follows_focus [DecidableEq Key] (rdevEnabled : Bool)
    (events : List (Threads.Event Call Nat (Change Key Event)))
    (advances : ∀ event ∈ events, Advances event) :
    let world := ((program Key Event).machine.run (World.start rdevEnabled) events).1
    let window := (focusOf rdevEnabled events).window
    world.shared.keyboardHooked = world.shared.grab.owner.isSome ∧
      (world.shared.grab.owner = window ∨
        window = none ∧ ∃ thread ∈ world.threads, thread.Releases world.shared.grab) ∧
      ((∀ thread ∈ world.threads, thread = .done) →
        world.shared.grab.owner = window ∧ world.shared.grabbed = window.isSome) ∧
      ∃ schedule : List (Nat × Nat),
        ∀ thread ∈ ((program Key Event).machine.run world
          (schedule.map fun step => .advance step.1 step.2)).1.threads, thread = .done := by
  intro world window
  obtain ⟨tracks, settles⟩ := (program Key Event).machine.run_simulated Focus.next Advances
    (fun world _ focus => Tracks world focus ∧ Settles world)
    (fun world _ focus event moves both => tracks_step event moves both.1 both.2)
    (World.start rdevEnabled) [] ⟨rdevEnabled, none⟩ events
    ⟨tracks_start rdevEnabled, settles_start rdevEnabled⟩ advances
  have owner : world.shared.grab.owner = window ∨
      window = none ∧ ∃ thread ∈ world.threads, thread.Releases world.shared.grab := by
    cases pending : world.shared.grab.deferredPending with
    | false => exact .inl (tracks.agrees pending)
    | true => exact .inr ⟨tracks.waiting pending, tracks.pending.mp pending⟩
  refine ⟨tracks.hooked, owner, fun finished => ?_, exists_finished world _ tracks settles⟩
  have agrees : world.shared.grab.owner = window := by
    rcases owner with same | ⟨-, thread, member, releases⟩
    · exact same
    · rw [finished thread member] at releases
      exact releases.elim
  have unlocked : world.shared.grabOpLock = none := by
    have counted : world.threads.countP Thread.operates = 0 := by
      refine List.countP_eq_zero.mpr fun thread member => ?_
      rw [finished thread member]
      exact Bool.false_ne_true
    cases held : world.shared.grabOpLock with
    | none => rfl
    | some calls =>
        have single := settles.single
        rw [counted, held] at single
        cases single
  refine ⟨agrees, ?_⟩
  rcases settles.follows with follows | ⟨thread, member, aligns⟩
  · rw [Shared.grabbedAtEnd, unlocked, agrees] at follows
    exact follows
  · rw [finished thread member] at aligns
    exact aligns.elim

/-- Two windows are entered one after the other, and the second one is left at once. -/
def handedOver : List (Threads.Event Call Nat (Change Nat Unit)) :=
  [.call ⟨.run, "map", 1, 1⟩, .advance 0 0, .advance 0 0, .advance 0 0,
    .call ⟨.run, "map", 2, 5⟩, .call ⟨.wait, "map", 1, 0⟩, .call ⟨.wait, "map", 2, 10⟩,
    .disturb (.press 30 ()), .advance 1 0, .advance 1 0, .advance 1 0, .advance 1 0,
    .advance 3 400000000, .advance 3 0, .advance 3 0, .advance 3 0, .advance 3 0]

theorem grab_follows_focus_handedOver :
    (∀ event ∈ handedOver, Advances event) ∧ focusOf true handedOver = ⟨true, none⟩ ∧
      ((program Nat Unit).machine.run (World.start true) handedOver).2 =
        [.called .enableGrab, .called .disableGrab, .called .enableGrab, .called .disableGrab,
          .released "map" [(30, ())]] ∧
      ((program Nat Unit).machine.run (World.start true) handedOver).1.shared.grabbed = false := by
  have advances : ∀ event ∈ handedOver, Advances event := by
    simp [handedOver, Advances]
  have window : focusOf true handedOver = ⟨true, none⟩ := by decide
  have follows := grab_follows_focus true handedOver advances
  have ended := (follows.2.2.1 (by decide +kernel)).2
  rw [window] at ended
  exact ⟨advances, window, by decide +kernel, ended⟩

end SubnetDesk.Keyboard
