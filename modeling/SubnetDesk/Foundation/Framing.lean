/-
This file defines the framing of values as a header with an optional body, and a channel that is read
in the middle of a value.
-/

import Mathlib.Tactic

/-- A value is written as a header frame, and some values have a body frame behind it. -/
structure Framing (Value Frame : Type) where
  header : Value → Frame
  body : Value → Option Frame

namespace Framing

variable {Value Frame : Type} (framing : Framing Value Frame)

def frames (value : Value) : List Frame := framing.header value :: (framing.body value).toList

/-- The frames in flight and the unsent body are those of whole values. -/
def Whole (flight unsent : List Frame) (values : List Value) : Prop :=
  flight ++ unsent = values.flatMap framing.frames

/-- The body of a value whose header has been read comes first. -/
def Inside (flight unsent : List Frame) (value : Value) (values : List Value) : Prop :=
  ∃ body, framing.body value = some body ∧
    flight ++ unsent = body :: values.flatMap framing.frames

theorem whole_nil : framing.Whole [] [] [] := rfl

variable {framing} {flight unsent : List Frame} {values : List Value}

/-- A sender that owes no body writes the header of its next value. -/
theorem Whole.write (whole : framing.Whole flight [] values) (value : Value) :
    framing.Whole (flight ++ [framing.header value]) (framing.body value).toList
      (values ++ [value]) := by
  unfold Whole at *
  rw [List.append_nil] at whole
  rw [whole, List.flatMap_append, List.flatMap_singleton, List.append_assoc]
  rfl

theorem Whole.flush {body : Frame} (whole : framing.Whole flight [body] values) :
    framing.Whole (flight ++ [body]) [] values := by
  unfold Whole at *
  rw [List.append_nil, whole]

theorem Inside.write {value : Value} (inside : framing.Inside flight [] value values)
    (next : Value) : framing.Inside (flight ++ [framing.header next]) (framing.body next).toList value
      (values ++ [next]) := by
  obtain ⟨body, same, split⟩ := inside
  refine ⟨body, same, ?_⟩
  rw [List.append_nil] at split
  rw [split, List.flatMap_append, List.flatMap_singleton, List.cons_append, List.cons_append,
    List.append_assoc]
  rfl

theorem Inside.flush {value : Value} {body : Frame} (inside : framing.Inside flight [body] value values) :
    framing.Inside (flight ++ [body]) [] value values := by
  obtain ⟨first, same, split⟩ := inside
  exact ⟨first, same, by rw [List.append_nil, split]⟩

/-- The first frame of whole values is a header, and its body is the next frame. -/
theorem Whole.read {frame : Frame} {rest : List Frame}
    (whole : framing.Whole (frame :: rest) unsent values) :
    ∃ value later, values = value :: later ∧ frame = framing.header value ∧
      ((framing.body value = none ∧ framing.Whole rest unsent later) ∨
        ((framing.body value).isSome = true ∧ framing.Inside rest unsent value later)) := by
  unfold Whole at whole
  cases values with
  | nil => cases whole
  | cons value later =>
      rw [List.flatMap_cons, frames, List.cons_append, List.cons_append, List.cons.injEq] at whole
      obtain ⟨same, split⟩ := whole
      refine ⟨value, later, rfl, same, ?_⟩
      cases body : framing.body value with
      | none =>
          rw [body] at split
          exact .inl ⟨rfl, split⟩
      | some frame =>
          rw [body] at split
          exact .inr ⟨rfl, frame, body, split⟩

theorem Inside.read {value : Value} {frame : Frame} {rest : List Frame}
    (inside : framing.Inside (frame :: rest) unsent value values) :
    framing.body value = some frame ∧ framing.Whole rest unsent values := by
  obtain ⟨body, same, split⟩ := inside
  rw [List.cons_append, List.cons.injEq] at split
  obtain ⟨rfl, split⟩ := split
  exact ⟨same, split⟩

/-- A reader in the middle of a value has its body in flight, or the sender owes it. -/
theorem Inside.ne_nil {value : Value} (inside : framing.Inside flight unsent value values) :
    flight ≠ [] ∨ unsent ≠ [] := by
  obtain ⟨body, -, split⟩ := inside
  rw [← not_and_or]
  rintro ⟨rfl, rfl⟩
  cases split

theorem Whole.eq_nil (whole : framing.Whole [] [] values) : values = [] := by
  cases values with
  | nil => rfl
  | cons value later => cases whole

variable {Received : Type}

/-- The received values are carried from the first sent ones, and the frames are those of the others. A
reader that waits for a body joins it to the header that it has read. -/
def Underway (framing : Framing Value Frame) (carried : Value → Received) (flight unsent : List Frame) :
    Option (Frame → Received) → List Value → List Received → Prop
  | none, sent, received =>
      ∃ gone values, sent = gone ++ values ∧ received = gone.map carried ∧
        framing.Whole flight unsent values
  | some join, sent, received =>
      ∃ gone value values, sent = gone ++ value :: values ∧ received = gone.map carried ∧
        (∀ body, framing.body value = some body → join body = carried value) ∧
        framing.Inside flight unsent value values

variable {carried : Value → Received} {pending : Option (Frame → Received)} {sent : List Value}
  {received : List Received}

theorem underway_start : framing.Underway carried [] [] none [] [] := ⟨[], [], rfl, rfl, whole_nil framing⟩

theorem Underway.write (underway : framing.Underway carried flight [] pending sent received)
    (value : Value) :
    framing.Underway carried (flight ++ [framing.header value]) (framing.body value).toList pending
      (sent ++ [value]) received := by
  cases pending with
  | none =>
      obtain ⟨gone, values, split, same, whole⟩ := underway
      exact ⟨gone, values ++ [value], by rw [split, List.append_assoc], same, whole.write value⟩
  | some join =>
      obtain ⟨gone, first, values, split, same, joins, inside⟩ := underway
      refine ⟨gone, first, values ++ [value], ?_, same, joins, inside.write value⟩
      rw [split, List.append_assoc, List.cons_append]

theorem Underway.flush {body : Frame}
    (underway : framing.Underway carried flight [body] pending sent received) :
    framing.Underway carried (flight ++ [body]) [] pending sent received := by
  cases pending with
  | none =>
      obtain ⟨gone, values, split, same, whole⟩ := underway
      exact ⟨gone, values, split, same, whole.flush⟩
  | some join =>
      obtain ⟨gone, first, values, split, same, joins, inside⟩ := underway
      exact ⟨gone, first, values, split, same, joins, inside.flush⟩

/-- A reader between two values reads a header. It has received the value, or waits for its body. -/
theorem Underway.read {frame : Frame} {rest : List Frame}
    (underway : framing.Underway carried (frame :: rest) unsent none sent received) :
    ∃ value ∈ sent, frame = framing.header value ∧
      ((framing.body value = none ∧
        framing.Underway carried rest unsent none sent (received ++ [carried value])) ∨
      ((framing.body value).isSome = true ∧
        ∀ join : Frame → Received, (∀ body, framing.body value = some body → join body = carried value) →
          framing.Underway carried rest unsent (some join) sent received)) := by
  obtain ⟨gone, values, split, same, whole⟩ := underway
  obtain ⟨value, later, rfl, header, cases⟩ := whole.read
  refine ⟨value, ?_, header, ?_⟩
  · rw [split]
    exact List.mem_append_right gone List.mem_cons_self
  · obtain ⟨none_, whole⟩ | ⟨some_, inside⟩ := cases
    · refine .inl ⟨none_, gone ++ [value], later, ?_, ?_, whole⟩
      · rw [split, List.append_assoc, List.singleton_append]
      · rw [same, List.map_append, List.map_singleton]
    · exact .inr ⟨some_, fun join joins => ⟨gone, value, later, split, same, joins, inside⟩⟩

theorem Underway.join {frame : Frame} {rest : List Frame} {join : Frame → Received}
    (underway : framing.Underway carried (frame :: rest) unsent (some join) sent received) :
    framing.Underway carried rest unsent none sent (received ++ [join frame]) := by
  obtain ⟨gone, value, values, split, same, joins, inside⟩ := underway
  obtain ⟨body, whole⟩ := inside.read
  refine ⟨gone ++ [value], values, ?_, ?_, whole⟩
  · rw [split, List.append_assoc, List.singleton_append]
  · rw [same, joins frame body, List.map_append, List.map_singleton]

theorem Underway.sentNothing (underway : framing.Underway carried flight unsent pending sent received) :
    framing.Underway carried flight unsent pending (sent ++ []) received := by
  rwa [List.append_nil]

theorem Underway.receivedNothing
    (underway : framing.Underway carried flight unsent pending sent received) :
    framing.Underway carried flight unsent pending sent (received ++ []) := by
  rwa [List.append_nil]

theorem Underway.silent (underway : framing.Underway carried flight unsent pending sent received) :
    framing.Underway carried flight unsent pending (sent ++ []) (received ++ []) :=
  underway.sentNothing.receivedNothing

/-- The received values are a first part of the sent ones. -/
theorem Underway.isPrefix (underway : framing.Underway carried flight unsent pending sent received) :
    received <+: sent.map carried := by
  cases pending with
  | none =>
      obtain ⟨gone, values, split, same, -⟩ := underway
      rw [split, same, List.map_append]
      exact List.prefix_append _ _
  | some join =>
      obtain ⟨gone, value, values, split, same, -⟩ := underway
      rw [split, same, List.map_append]
      exact List.prefix_append _ _

/-- Where nothing is in flight or owed, all sent values have been received. -/
theorem Underway.complete (underway : framing.Underway carried [] [] pending sent received) :
    pending = none ∧ received = sent.map carried := by
  cases pending with
  | none =>
      obtain ⟨gone, values, split, same, whole⟩ := underway
      rw [whole.eq_nil, List.append_nil] at split
      exact ⟨rfl, by rw [split, same]⟩
  | some join =>
      obtain ⟨gone, value, values, split, same, -, inside⟩ := underway
      obtain filled | filled := inside.ne_nil <;> exact absurd rfl filled

end Framing
