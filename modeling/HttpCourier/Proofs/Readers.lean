import HttpCourier.Proofs.Streams

/-!
# Readers of a body

Whoever reads a body may ask for any sizes, zero and negative ones too, and may close it at any
time. `ByteSource.run` asks a source for several things in a row, and `ByteSource.allDue` says what
such calls are due by the bytes alone. A tee on the stream of a body that does not break off gives
exactly that, in whatever chunks the body arrives: what every call keeps (`Tee.Gave`) is that the
bytes that were given and those that are left are the front of the body, and that the sink has the
first of those given. `Tee.reads_body` is what follows for a whole run.
-/

namespace HttpCourier

/-! ## Calls -/

namespace ByteSource

/-- Something that is asked of a source. -/
inductive Call where
  | read (size : Int)
  | close
deriving DecidableEq

/-- Asks a source for several things in a row: what the reads gave, and the source afterwards. -/
def run {σ : Type} [ByteSource σ] : List Call → σ → List (Except Fault Bytes) × σ
  | [], source => ([], source)
  | .read size :: calls, source =>
    let (result, source) := read size source
    let (results, source) := run calls source
    (result :: results, source)
  | .close :: calls, source => run calls (close source)

/-- What a read of a size is due while some bytes are left: the next ones, as many as were asked for
or as there are, and all of them for a negative size. -/
def due (size : Int) (left : Bytes) : Bytes :=
  if size < 0 then left else left.take (min size.toNat left.length)

/-- What the reads among some calls are due while some bytes are left. After a close nothing is
left. -/
def allDue : List Call → Bytes → List Bytes
  | [], _ => []
  | .read size :: calls, left => due size left :: allDue calls (left.drop (due size left).length)
  | .close :: calls, _ => allDue calls []

/-- What a read is due and what it leaves are all that was left. -/
theorem due_append_drop (size : Int) (left : Bytes) :
    due size left ++ left.drop (due size left).length = left := by
  unfold due
  split
  · simp
  · simp

end ByteSource

open ByteSource

/-! ## Streams -/

namespace Wire

variable {w w' : Wire}

/-- No failure is to come. -/
def Unbroken (w : Wire) : Prop := ∀ failure, .fail failure ∉ w.parts

/-- What was taken without a failure leaves none to come. -/
theorem Unbroken.took (h : w.Unbroken) (ht : w.Took w') : w'.Unbroken := by
  obtain ⟨taken, hw, -⟩ := ht
  intro failure hm
  exact h failure (hw ▸ List.mem_append_right taken hm)

/-- A wire without a failure does not break off. -/
theorem Unbroken.not_broke (h : w.Unbroken) : ¬ w.Broke w' := by
  rintro ⟨taken, failure, hw⟩
  exact h failure (hw ▸ List.mem_append_right taken List.mem_cons_self)

end Wire

namespace BodyStream

variable {s s' : BodyStream} {size : Int} {bytes : Bytes}

/-- A read is due the front of what is left. -/
theorem due_eq_take (size : Int) (left : Bytes) : due size left = left.take (amount size left) := by
  unfold due amount
  split
  · exact List.take_length.symm
  · exact List.take_eq_take_min.symm

/-- To fill a stream gives no bytes to a reader. -/
theorem bytesRead_fill (size : Int) (s : BodyStream) : (s.fill size).2.bytesRead = s.bytesRead := by
  fun_induction fill size s with
  | case1 s hn piece pieces hp ih => exact ih
  | case2 s hn pieces hp => rfl
  | case3 s hn failure pieces hp => rfl
  | case4 s hn => rfl

/-- A read counts the bytes that it gives. -/
theorem bytesRead_read (h : s.read size = (.ok bytes, s')) :
    s'.bytesRead = s.bytesRead + bytes.length := by
  unfold read at h
  split at h
  case isTrue =>
    obtain ⟨rfl, rfl⟩ := by simpa using h
    rfl
  case isFalse =>
    have hfill := bytesRead_fill size s
    split at h
    case h_1 => simp at h
    case h_2 s₁ hf =>
      rw [hf] at hfill
      obtain ⟨rfl, rfl⟩ : (s₁.give size).1 = bytes ∧ (s₁.give size).2 = s' := by simpa using h
      exact congrArg (· + _) hfill

theorem bytesRead_close (s : BodyStream) : s.close.bytesRead = s.bytesRead := by
  unfold close
  split
  · rfl
  · rfl

/-- A closed stream has nothing left. -/
theorem rest_of_closed (h : s.closed = true) : s.rest = [] := if_pos h

/-- A stream that has given some bytes of a body: they and those that are left are the front of it,
and nothing breaks off what is left. -/
structure Gave (body given : Bytes) (s : BodyStream) : Prop where
  sound : s.Sound
  unbroken : s.wire.Unbroken
  bytesRead_eq : s.bytesRead = given.length
  ordered : given ++ s.rest <+: body

variable {body given : Bytes}

/-- A new stream has given nothing of its body. -/
theorem gave_ofWire {wire : Wire} (hw : wire.Unbroken) (chunkSize : Nat) :
    (ofWire wire chunkSize).Gave wire.content [] where
  sound := sound_ofWire wire chunkSize
  unbroken := hw
  bytesRead_eq := rfl
  ordered := by simp

/-- A read gives what is due of the bytes that are left. -/
theorem Gave.read (h : s.Gave body given) (size : Int) :
    ∃ s', s.read size = (.ok (due size s.rest), s') ∧ s'.Gave body (given ++ due size s.rest) ∧
      s'.rest = s.rest.drop (due size s.rest).length ∧ s'.closed = s.closed := by
  have hclosed := (read_keeps (f := fun _ => ()) (fun _ => rfl) size s).1
  rcases hr : s.read size with ⟨fault | bytes, s'⟩
  · exact absurd (read_error h.sound hr) h.unbroken.not_broke
  · obtain ⟨hsound, hbytes, hrest, htook⟩ := read_ok h.sound hr
    have hcount := bytesRead_read hr
    rw [← due_eq_take] at hbytes
    subst hbytes
    have hsplit : due size s.rest ++ s'.rest = s.rest := by
      rw [hrest, due_eq_take, List.take_append_drop]
    have hdrop : s'.rest = s.rest.drop (due size s.rest).length :=
      List.append_cancel_left (hsplit.trans (due_append_drop size s.rest).symm)
    refine ⟨s', rfl, ⟨hsound, h.unbroken.took htook, ?_, ?_⟩, hdrop, by rwa [hr] at hclosed⟩
    · rw [hcount, h.bytesRead_eq, List.length_append]
    · rw [List.append_assoc, hsplit]
      exact h.ordered

/-- A close leaves nothing to give. -/
theorem Gave.close (h : s.Gave body given) : s.close.Gave body given where
  sound := sound_close h.sound
  unbroken := by
    rw [Wire.Unbroken, close_parts]
    exact h.unbroken
  bytesRead_eq := (bytesRead_close s).trans h.bytesRead_eq
  ordered := by
    rw [rest_of_closed (closed_close s), List.append_nil]
    exact (List.prefix_append _ _).trans h.ordered

end BodyStream

/-! ## Tees -/

namespace Tee

variable {t : Tee BodyStream} {body given : Bytes} {capacity : Int}

/-- A tee that owns the stream of a body, before anything is read. -/
def ofWire (wire : Wire) (chunkSize : Nat) (capacity : Int) : Tee BodyStream :=
  { source := .ofWire wire chunkSize, sink := .ofCapacity capacity, owns := true }

/-- A tee whose stream has given some bytes of a body, and whose sink has as many of them as fit in.
The stream is closed when the tee is. -/
structure Gave (body : Bytes) (capacity : Int) (given : Bytes) (t : Tee BodyStream) : Prop where
  source : t.source.Gave body given
  owns : t.owns = true
  closed_eq : t.source.closed = t.closed
  capacity_eq : t.sink.capacity = capacity.toNat
  value_eq : t.sink.value = given.take t.sink.capacity

/-- A new tee has given nothing of its body, and its sink is empty. -/
theorem gave_ofWire {wire : Wire} (hw : wire.Unbroken) (chunkSize : Nat) (capacity : Int) :
    (ofWire wire chunkSize capacity).Gave wire.content capacity [] where
  source := BodyStream.gave_ofWire hw chunkSize
  owns := rfl
  closed_eq := rfl
  capacity_eq := rfl
  value_eq := List.take_nil.symm

/-- A read gives what is due of the bytes that are left, and copies it. -/
theorem Gave.read (h : t.Gave body capacity given) (size : Int) :
    ∃ t', ByteSource.read size t = (.ok (due size t.source.rest), t') ∧
      t'.Gave body capacity (given ++ due size t.source.rest) ∧
      t'.source.rest = t.source.rest.drop (due size t.source.rest).length ∧ t'.closed = t.closed := by
  obtain ⟨source, hread, hgave, hrest, hclosed⟩ := h.source.read size
  refine ⟨{ t with source, sink := t.sink.write (due size t.source.rest) }, ?_, ?_, hrest, rfl⟩
  · change Tee.read size t = _
    have hsource : ByteSource.read size t.source = _ := hread
    simp only [Tee.read, hsource]
  · exact ⟨hgave, h.owns, hclosed.trans h.closed_eq, h.capacity_eq,
      BoundedBuffer.value_write h.value_eq _⟩

/-- A closed tee gives nothing, and neither a read nor another close changes it. -/
theorem Gave.of_closed (h : t.Gave body capacity given) (hc : t.closed = true) :
    (∀ size, ByteSource.read size t = (.ok [], t)) ∧ ByteSource.close t = t := by
  refine ⟨fun size => ?_, if_pos hc⟩
  have hsource : ByteSource.read size t.source = (.ok [], t.source) :=
    BodyStream.read_of_closed (h.closed_eq.trans hc) size
  change Tee.read size t = _
  simp only [Tee.read, hsource, BoundedBuffer.write_nil]

/-- A close closes the stream and leaves the sink as it is. -/
theorem Gave.close (h : t.Gave body capacity given) :
    (ByteSource.close t).Gave body capacity given ∧ (ByteSource.close t).closed = true := by
  cases hc : t.closed with
  | true =>
    rw [(h.of_closed hc).2]
    exact ⟨h, hc⟩
  | false =>
    have hclose : ByteSource.close t = { t with closed := true, source := t.source.close } := by
      change t.close = _
      rw [Tee.close, hc, h.owns]
      rfl
    rw [hclose]
    exact ⟨⟨h.source.close, h.owns, t.source.closed_close, h.capacity_eq, h.value_eq⟩, rfl⟩

/-- Every run of calls gives what they are due, and leaves the tee closed once one of them closed
it. -/
theorem Gave.run (h : t.Gave body capacity given) (calls : List Call) :
    ∃ t', run calls t = ((allDue calls t.source.rest).map .ok, t') ∧
      t'.Gave body capacity (given ++ (allDue calls t.source.rest).flatten) ∧
      (t.closed = true ∨ .close ∈ calls → t'.closed = true) := by
  -- On the calls: what was given so far grows by what each of them is given.
  induction calls generalizing t given with
  | nil => exact ⟨t, rfl, by simpa [allDue] using h, by simp⟩
  | cons call calls ih =>
    cases call with
    | read size =>
      obtain ⟨t₁, hread, hgave, hrest, hclosed⟩ := h.read size
      obtain ⟨t', hrun, hgave', hclosed'⟩ := ih hgave
      rw [hrest] at hrun hgave'
      refine ⟨t', ?_, ?_, fun hc => hclosed' ?_⟩
      · simp only [ByteSource.run, allDue, hread, hrun, List.map_cons]
      · simpa only [allDue, List.flatten_cons, List.append_assoc] using hgave'
      · rw [hclosed]
        simpa using hc
    | close =>
      obtain ⟨hgave, hclosed⟩ := h.close
      obtain ⟨t', hrun, hgave', hclosed'⟩ := ih hgave
      rw [BodyStream.rest_of_closed (hgave.closed_eq.trans hclosed)] at hrun hgave'
      exact ⟨t', hrun, hgave', fun _ => hclosed' (.inl hclosed)⟩

/-- Whoever reads a body that does not break off through a tee, in whatever chunks it arrives and by
any calls, is given what is due of it: the reads give the bytes that come next, and together the
front of the body. The stream counts these bytes, and the sink has the first of them. Once the tee
was closed, no read gives anything, and neither a read nor another close changes it. -/
theorem reads_body {wire : Wire} (hw : wire.Unbroken) (chunkSize : Nat) (capacity : Int)
    (calls : List Call) :
    let given := allDue calls wire.content
    ∃ tee, run calls (ofWire wire chunkSize capacity) = (given.map .ok, tee) ∧
      given.flatten <+: wire.content ∧
      tee.source.bytesRead = given.flatten.length ∧
      tee.sink.value = wire.content.take (min (max capacity 0).toNat tee.source.bytesRead) ∧
      (.close ∈ calls →
        (∀ size, ByteSource.read size tee = (.ok [], tee)) ∧ ByteSource.close tee = tee) := by
  intro given
  obtain ⟨tee, hrun, hgave, hclosed⟩ := (gave_ofWire hw chunkSize capacity).run calls
  have hleft : (ofWire wire chunkSize capacity).source.rest = wire.content :=
    BodyStream.rest_ofWire wire chunkSize
  rw [hleft] at hrun hgave
  have hfront : given.flatten <+: wire.content :=
    (List.prefix_append _ _).trans hgave.source.ordered
  have hcount : tee.source.bytesRead = given.flatten.length := hgave.source.bytesRead_eq
  have hcapacity : capacity.toNat = (max capacity 0).toNat := by omega
  refine ⟨tee, hrun, hfront, hcount, ?_, fun hc => hgave.of_closed (hclosed (.inr hc))⟩
  calc tee.sink.value
    _ = given.flatten.take (max capacity 0).toNat := by
      rw [hgave.value_eq, hgave.capacity_eq, hcapacity]
      rfl
    _ = (wire.content.take given.flatten.length).take (max capacity 0).toNat := by
      rw [← List.prefix_iff_eq_take.1 hfront]
    _ = wire.content.take (min (max capacity 0).toNat tee.source.bytesRead) := by
      rw [List.take_take, hcount]

/-- A body of seven bytes that arrives in chunks. -/
def trickle : Wire where
  parts := [.chunk [1, 2], .chunk [], .wait 5, .chunk [3, 4, 5, 6], .chunk [7]]

/-- Reads of several sizes, two of them after the first close. -/
def someCalls : List Call :=
  [.read 2, .read 0, .read 3, .read (-1), .read 5, .close, .read 1, .close, .read (-1)]

/-- Reads of several sizes take a body that arrives in chunks, in order, and nothing after the
close. -/
theorem reads_body_trickle :
    trickle.Unbroken ∧ trickle.content = [1, 2, 3, 4, 5, 6, 7] ∧
      ∃ tee, run someCalls (ofWire trickle 3 4)
          = ([[1, 2], [], [3, 4, 5], [6, 7], [], [], []].map .ok, tee) ∧
        tee.source.bytesRead = 7 ∧ tee.sink.value = [1, 2, 3, 4] ∧
        ∀ size, ByteSource.read size tee = (.ok [], tee) := by
  have hwhole : trickle.Unbroken := by simp [Wire.Unbroken, trickle]
  have hgiven : allDue someCalls trickle.content = [[1, 2], [], [3, 4, 5], [6, 7], [], [], []] := rfl
  obtain ⟨tee, hrun, -, hcount, hvalue, hclosed⟩ := reads_body hwhole 3 4 someCalls
  rw [hgiven] at hrun hcount
  rw [hcount] at hvalue
  exact ⟨hwhole, rfl, tee, hrun, hcount, hvalue, (hclosed (by decide)).1⟩

end Tee

end HttpCourier
