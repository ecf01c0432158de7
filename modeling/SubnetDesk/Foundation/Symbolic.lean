/-
This file defines symbolic messages, what an attacker derives from them, and the rule that bounds its
knowledge.
-/

import Mathlib.Tactic

namespace Symbolic

/-- A word consists of bytes, and of random values and public keys that have no parts. -/
inductive Atom where
  | byte (value : UInt8)
  | nonce (id : Nat)
  | key (id : Nat)
  | boxPublic (id : Nat)
  | signPublic (id : Nat)
deriving DecidableEq

abbrev Word := List Atom

/-- The number of bytes of a word, where an atom has its own size. -/
def measure (size : Atom → Nat) (word : Word) : Nat := (word.map size).sum

/-- Two splits of a word at the same byte are equal. -/
theorem append_inj_of_measure {size : Atom → Nat} (positive : ∀ atom, 0 < size atom)
    {first second other rest : Word} (equal : first ++ second = other ++ rest)
    (same : measure size first = measure size other) : first = other ∧ second = rest := by
  induction first generalizing other with
  | nil =>
      cases other with
      | nil => exact ⟨rfl, equal⟩
      | cons atom tail =>
          have bigger := positive atom
          simp only [measure, List.map_nil, List.sum_nil, List.map_cons, List.sum_cons] at same
          omega
  | cons atom tail ih =>
      cases other with
      | nil =>
          have bigger := positive atom
          simp only [measure, List.map_nil, List.sum_nil, List.map_cons, List.sum_cons] at same
          omega
      | cons head remainder =>
          simp only [List.cons_append, List.cons.injEq] at equal
          obtain ⟨rfl, tails⟩ := equal
          simp only [measure, List.map_cons, List.sum_cons, Nat.add_left_cancel_iff] at same
          obtain ⟨rfl, rest⟩ := ih tails same
          exact ⟨rfl, rest⟩

/-- A signature carries its message. -/
structure Signature where
  signer : Nat
  message : Word
deriving DecidableEq

def verify (signature : Signature) (publicKey : Word) : Option Word :=
  if publicKey = [.signPublic signature.signer] then some signature.message else none

theorem verify_eq_some {signature : Signature} {publicKey message : Word}
    (verified : verify signature publicKey = some message) :
    publicKey = [.signPublic signature.signer] ∧ signature.message = message := by
  unfold verify at verified
  split at verified
  next own => exact ⟨own, Option.some.inj verified⟩
  next => cases verified

/-- A box is closed with a public key and a secret key. -/
structure Box where
  content : Word
  recipient : Word
  sender : Nat
deriving DecidableEq

/-- The secret key of one side and the public key of the other one open a box. -/
def openBox (box : Box) (theirs : Word) (own : Nat) : Option Word :=
  if box.recipient = [.boxPublic own] ∧ theirs = [.boxPublic box.sender] ∨
      box.sender = own ∧ theirs = box.recipient then some box.content
  else none

theorem openBox_eq_some {box : Box} {theirs content : Word} {own : Nat}
    (opened : openBox box theirs own = some content) :
    (box.recipient = [.boxPublic own] ∨ box.sender = own) ∧ box.content = content := by
  unfold openBox at opened
  split at opened
  next sides =>
    refine ⟨?_, Option.some.inj opened⟩
    obtain ⟨recipient, -⟩ | ⟨sender, -⟩ := sides
    · exact .inl recipient
    · exact .inr sender
  next => cases opened

/-- What an attacker may come to know, beside bytes and public keys. -/
inductive Fact where
  | nonce (id : Nat)
  | key (id : Nat)
  | boxSecret (id : Nat)
  | signSecret (id : Nat)
  | signature (signature : Signature)
  | box (box : Box)
deriving DecidableEq

def Atom.fact? : Atom → Option Fact
  | .nonce id => some (.nonce id)
  | .key id => some (.key id)
  | .byte _ | .boxPublic _ | .signPublic _ => none

def facts (word : Word) : List Fact := word.filterMap Atom.fact?

theorem facts_append (first second : Word) :
    facts (first ++ second) = facts first ++ facts second := List.filterMap_append

theorem facts_bytes {Item : Type} (items : List Item) (value : Item → UInt8) :
    facts (items.map fun item => .byte (value item)) = [] := by
  induction items with
  | nil => rfl
  | cons item rest ih => exact ih

inductive Derives (known : Set Fact) : Fact → Prop where
  | known {fact : Fact} (member : fact ∈ known) : Derives known fact
  | sign {signer : Nat} {message : Word} (secret : Derives known (.signSecret signer))
      (parts : ∀ fact ∈ facts message, Derives known fact) :
      Derives known (.signature ⟨signer, message⟩)
  | message {signature : Signature} {fact : Fact} (whole : Derives known (.signature signature))
      (part : fact ∈ facts signature.message) : Derives known fact
  | enclose {content recipient : Word} {sender : Nat} (secret : Derives known (.boxSecret sender))
      (parts : ∀ fact ∈ facts content, Derives known fact) :
      Derives known (.box ⟨content, recipient, sender⟩)
  | received {box : Box} {own : Nat} {fact : Fact} (whole : Derives known (.box box))
      (recipient : box.recipient = [.boxPublic own]) (secret : Derives known (.boxSecret own))
      (part : fact ∈ facts box.content) : Derives known fact
  | reopened {box : Box} {fact : Fact} (whole : Derives known (.box box))
      (secret : Derives known (.boxSecret box.sender)) (part : fact ∈ facts box.content) :
      Derives known fact

/-- A boundary of knowledge. Random values and secret keys are free to know or hidden, the holders of
hidden keys issue signatures, and some boxes hide their content. -/
structure Boundary where
  free : Fact → Prop
  issued : Signature → Prop
  made : Box → Prop

namespace Boundary

variable (boundary : Boundary)

def Allows : Fact → Prop
  | .signature signature =>
      (∀ fact ∈ facts signature.message, boundary.free fact) ∧
        (boundary.free (.signSecret signature.signer) ∨ boundary.issued signature)
  | .box box => (∀ fact ∈ facts box.content, boundary.free fact) ∨ boundary.made box
  | fact => boundary.free fact

/-- Both keys of a box that hides its content are hidden. -/
def Closed : Prop :=
  ∀ box, boundary.made box → ¬ boundary.free (.boxSecret box.sender) ∧
    ∀ own, box.recipient = [.boxPublic own] → ¬ boundary.free (.boxSecret own)

theorem allows_part {word : Word} {fact : Fact} (part : fact ∈ facts word) :
    boundary.Allows fact ↔ boundary.free fact := by
  obtain ⟨atom, -, origin⟩ := List.mem_filterMap.mp part
  cases atom with
  | nonce id =>
      cases origin
      rfl
  | key id =>
      cases origin
      rfl
  | byte value => cases origin
  | boxPublic id => cases origin
  | signPublic id => cases origin

end Boundary

/-- An attacker whose knowledge lies within a closed boundary never leaves it. -/
theorem Derives.allows {boundary : Boundary} {known : Set Fact} {fact : Fact}
    (closed : boundary.Closed) (within : ∀ fact ∈ known, boundary.Allows fact)
    (derives : Derives known fact) : boundary.Allows fact := by
  induction derives with
  | known member => exact within _ member
  | sign secret parts secretAllowed partsAllowed =>
      refine ⟨?_, .inl secretAllowed⟩
      intro fact part
      exact (boundary.allows_part part).mp (partsAllowed fact part)
  | message whole part wholeAllowed =>
      exact (boundary.allows_part part).mpr (wholeAllowed.1 _ part)
  | enclose secret parts secretAllowed partsAllowed =>
      refine .inl ?_
      intro fact part
      exact (boundary.allows_part part).mp (partsAllowed fact part)
  | received whole recipient secret part wholeAllowed secretAllowed =>
      cases wholeAllowed with
      | inl free => exact (boundary.allows_part part).mpr (free _ part)
      | inr made => exact absurd secretAllowed ((closed _ made).2 _ recipient)
  | reopened whole secret part wholeAllowed secretAllowed =>
      cases wholeAllowed with
      | inl free => exact (boundary.allows_part part).mpr (free _ part)
      | inr made => exact absurd secretAllowed (closed _ made).1

/-- A larger boundary allows more. -/
theorem Boundary.Allows.mono {boundary larger : Boundary} {fact : Fact}
    (allows : boundary.Allows fact)
    (free : ∀ fact, boundary.free fact → larger.free fact)
    (issued : ∀ signature, boundary.issued signature → larger.issued signature)
    (made : ∀ box, boundary.made box → larger.made box) : larger.Allows fact := by
  cases fact with
  | signature signature =>
      refine ⟨fun part member => free part (allows.1 part member), ?_⟩
      exact allows.2.imp (free _) (issued _)
  | box box =>
      exact allows.imp (fun parts part member => free part (parts part member)) (made _)
  | nonce id => exact free _ allows
  | key id => exact free _ allows
  | boxSecret id => exact free _ allows
  | signSecret id => exact free _ allows

section Runs

variable {Run Label : Type}

/-- No two of the concurrent runs have the same label. -/
def OneOwner (label : Run → Option Label) (runs : Nat → Run) : Prop :=
  ∀ first second value, label (runs first) = some value → label (runs second) = some value →
    first = second

/-- A changed run keeps its label or takes one that no run has. -/
theorem OneOwner.update {label : Run → Option Label} {runs : Nat → Run}
    (unique : OneOwner label runs) {index : Nat} {run : Run}
    (own : ∀ value, label run = some value →
      label (runs index) = some value ∨ ∀ other, label (runs other) ≠ some value) :
    OneOwner label (Function.update runs index run) := by
  have alone (value : Label) (here : label run = some value) (other : Nat)
      (there : label (runs other) = some value) : index = other := by
    cases own value here with
    | inl same => exact unique index other value same there
    | inr free => exact absurd there (free other)
  intro first second value hasFirst hasSecond
  by_cases atFirst : first = index
  · subst atFirst
    by_cases atSecond : second = first
    · exact atSecond.symm
    · rw [Function.update_self] at hasFirst
      rw [Function.update_of_ne atSecond] at hasSecond
      exact alone value hasFirst second hasSecond
  · rw [Function.update_of_ne atFirst] at hasFirst
    by_cases atSecond : second = index
    · subst atSecond
      rw [Function.update_self] at hasSecond
      exact (alone value hasSecond first hasFirst).symm
    · rw [Function.update_of_ne atSecond] at hasSecond
      exact unique first second value hasFirst hasSecond

end Runs

end Symbolic
