import HttpCourier.Fault

/-!
# The body of an answer on the wire

A `Wire` is the part of a body that has not arrived yet: chunks, waits, and a failure where the
connection breaks. `Wire.pull` takes the next chunk. The wire counts the chunks that were taken, the
time that passed, and how often it was asked to close; it closes by itself at the end of the body.

Requests say that a body may come compressed. The chunks here are those that come out when the
coding is taken off, and where it turns out to be broken the wire fails with `FailureKind.decoding`.
-/

namespace HttpCourier

/-- A part of a body on the wire. -/
inductive Wire.Part where
  | chunk (bytes : Bytes)
  /-- Nanoseconds pass. -/
  | wait (time : Nat)
  | fail (failure : Failure)

/-- A body that is arriving. -/
structure Wire where
  parts : List Wire.Part := []
  pulled : Nat := 0
  waited : Nat := 0
  /-- Whether the end of the body was reached. -/
  ended : Bool := false
  /-- How often the wire was asked to close. -/
  closeCalls : Nat := 0

namespace Wire

/-- What comes of asking for the next chunk. -/
inductive Pull where
  | chunk (bytes : Bytes)
  | finish
  | fail (failure : Failure)

/-- Takes the next chunk, after the waits before it. -/
def pull (w : Wire) : Pull × Wire :=
  match _h : w.parts with
  | [] => (.finish, { w with ended := true })
  | .wait time :: rest => pull { w with parts := rest, waited := w.waited + time }
  | .chunk bytes :: rest => (.chunk bytes, { w with parts := rest, pulled := w.pulled + 1 })
  | .fail failure :: rest => (.fail failure, { w with parts := rest })
termination_by w.parts.length
decreasing_by simp [_h]

/-- Asks the wire to close. -/
def close (w : Wire) : Wire := { w with closeCalls := w.closeCalls + 1 }

/-- How often the connection was closed: at most once. -/
def timesClosed (w : Wire) : Nat := if w.ended || w.closeCalls ≠ 0 then 1 else 0

/-- The bytes of a part. -/
def Part.bytes : Part → Bytes
  | .chunk b => b
  | _ => []

/-- All bytes that are still to arrive. -/
def content (w : Wire) : Bytes := w.parts.flatMap Part.bytes

/-- What a pull takes from the wire. -/
theorem pull_chunk {w w' : Wire} {b : Bytes} (h : w.pull = (.chunk b, w')) :
    w.content = b ++ w'.content ∧ w'.parts.length < w.parts.length := by
  fun_induction pull w with
  | case1 w hp => simp at h
  | case2 w time rest hp ih =>
    obtain ⟨h₁, h₂⟩ := ih h
    dsimp only at h₂
    exact ⟨by simpa [content, hp, Part.bytes] using h₁, by simp only [hp, List.length_cons]; omega⟩
  | case3 w bytes rest hp =>
    obtain ⟨rfl, rfl⟩ := by simpa using h
    exact ⟨by simp [content, hp, Part.bytes], by simp [hp]⟩
  | case4 w failure rest hp => simp at h

/-- At the end of a wire nothing is left on it. -/
theorem pull_finish {w w' : Wire} (h : w.pull = (.finish, w')) :
    w.content = [] ∧ w'.content = [] ∧ w'.parts.length ≤ w.parts.length := by
  fun_induction pull w with
  | case1 w hp =>
    obtain rfl := by simpa using h
    simp [content, hp]
  | case2 w time rest hp ih =>
    obtain ⟨h₁, h₂, h₃⟩ := ih h
    dsimp only at h₃
    exact ⟨by simpa [content, hp, Part.bytes] using h₁, h₂, by simp only [hp, List.length_cons]; omega⟩
  | case3 w bytes rest hp => simp at h
  | case4 w failure rest hp => simp at h

/-- Takes the chunks up to the end or a failure. -/
def drain (w : Wire) (taken : Bytes) : Except Failure Bytes × Wire :=
  match _h : w.pull with
  | (.finish, w') => (.ok taken, w')
  | (.fail failure, w') => (.error failure, w')
  | (.chunk bytes, w') => drain w' (taken ++ bytes)
termination_by w.parts.length
decreasing_by exact (pull_chunk _h).2

/-- Reads the whole body; after a failure the wire is closed. -/
def readAll (w : Wire) : Except Failure Bytes × Wire :=
  match w.drain [] with
  | (.ok bytes, w) => (.ok bytes, w)
  | (.error failure, w) => (.error failure, w.close)

end Wire

end HttpCourier
