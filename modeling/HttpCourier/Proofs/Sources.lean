import HttpCourier.Stream.Drain

/-!
# Lawful sources

A `LawfulSource` gives its bytes in order: a read that succeeds cuts off at most as many bytes as it
was asked for, and none only at the end. A drain of such a source that succeeds delivers all of it
to one consumer and the first bytes to the other (`drain_delivers`), whatever the sizes of the
reads. `copy_keeps`, `capture_keeps`, `drain_reads` and `drain_keeps` carry an invariant of the
reads to a whole drain.
-/

namespace HttpCourier

/-- A source whose reads give its bytes in order, from the states that are `Sound`. Only reads of at
least one byte are constrained, and of those that fail nothing is known. -/
class LawfulSource (σ : Type) [ByteSource σ] where
  Sound : σ → Prop
  /-- The bytes that are still to come. -/
  rest : σ → Bytes
  sound_of_read {n : Int} {s s' : σ} {bytes : Bytes} :
    Sound s → ByteSource.read n s = (.ok bytes, s') → 0 < n → Sound s'
  rest_of_read {n : Int} {s s' : σ} {bytes : Bytes} :
    Sound s → ByteSource.read n s = (.ok bytes, s') → 0 < n → rest s = bytes ++ rest s'
  length_of_read {n : Int} {s s' : σ} {bytes : Bytes} :
    Sound s → ByteSource.read n s = (.ok bytes, s') → 0 < n → bytes.length ≤ n.toNat
  ended_of_read {n : Int} {s s' : σ} :
    Sound s → ByteSource.read n s = (.ok [], s') → 0 < n → rest s = []
  length_rest_le {s : σ} : Sound s → (rest s).length ≤ ByteSource.left s

open LawfulSource

/-! ## Buffers -/

namespace BoundedBuffer

/-- What a buffer holds after some bytes, it holds after more of them. -/
theorem value_write {b : BoundedBuffer} {taken : Bytes} (h : b.value = taken.take b.capacity)
    (bytes : Bytes) : (b.write bytes).value = (taken ++ bytes).take b.capacity := by
  simp only [write, remaining, h, List.take_append, List.length_take]
  congr 2
  omega

/-- Bytes that fit in are kept. -/
theorem value_write_of_fits {b : BoundedBuffer} {bytes : Bytes} (h : bytes.length ≤ b.remaining) :
    (b.write bytes).value = b.value ++ bytes :=
  congrArg (b.value ++ ·) (List.take_of_length_le h)

/-- What is written is taken off the room that is left. -/
theorem remaining_write_eq (b : BoundedBuffer) (bytes : Bytes) :
    (b.write bytes).remaining = b.remaining - bytes.length := by
  simp only [remaining, write, List.length_append, List.length_take]
  omega

/-- To write nothing changes nothing. -/
theorem write_nil (b : BoundedBuffer) : b.write [] = b := by
  simp [write]

end BoundedBuffer

/-! ## Tees -/

namespace Tee

variable {σ : Type} [ByteSource σ]

/-- A tee reads as its source does, and keeps a copy. -/
theorem read_ok {n : Int} {t t' : Tee σ} {bytes : Bytes}
    (h : ByteSource.read n t = (.ok bytes, t')) :
    ByteSource.read n t.source = (.ok bytes, t'.source) ∧ t'.sink = t.sink.write bytes := by
  change Tee.read n t = _ at h
  unfold Tee.read at h
  split at h
  · obtain ⟨rfl, rfl⟩ := by simpa using h
    exact ⟨‹_›, rfl⟩
  · simp at h

/-- A read of a tee fails with its source. -/
theorem read_error {n : Int} {t t' : Tee σ} {fault : Fault}
    (h : ByteSource.read n t = (.error fault, t')) :
    ByteSource.read n t.source = (.error fault, t'.source) := by
  change Tee.read n t = _ at h
  unfold Tee.read at h
  split at h
  · simp at h
  · obtain ⟨rfl, rfl⟩ := by simpa using h
    assumption

/-- A tee that owns its source and was not closed. -/
structure Opened (t : Tee σ) : Prop where
  owns : t.owns = true
  closed : t.closed = false

/-- A read leaves a tee open. -/
theorem Opened.read {t t' : Tee σ} {n : Int} {result : Except Fault Bytes} (h : t.Opened)
    (hr : ByteSource.read n t = (result, t')) : t'.Opened := by
  change Tee.read n t = _ at hr
  unfold Tee.read at hr
  split at hr
  · obtain ⟨-, rfl⟩ := by simpa using hr
    exact ⟨h.owns, h.closed⟩
  · obtain ⟨-, rfl⟩ := by simpa using hr
    exact ⟨h.owns, h.closed⟩

/-- Closing an open tee closes the source. -/
theorem Opened.close_source {t : Tee σ} (h : t.Opened) :
    t.close.source = ByteSource.close t.source := by
  simp [Tee.close, h.owns, h.closed]

end Tee

/-- A tee of a lawful source gives the bytes of the source. -/
instance {σ : Type} [ByteSource σ] [LawfulSource σ] : LawfulSource (Tee σ) where
  Sound t := Sound t.source
  rest t := rest t.source
  sound_of_read hs h := sound_of_read hs (Tee.read_ok h).1
  rest_of_read hs h := rest_of_read hs (Tee.read_ok h).1
  length_of_read hs h := length_of_read hs (Tee.read_ok h).1
  ended_of_read hs h := ended_of_read hs (Tee.read_ok h).1
  length_rest_le hs := length_rest_le (σ := σ) hs

namespace Drain

variable {σ : Type} [ByteSource σ] {chunkSize : Nat} {s s' : σ}

/-! ## Invariants of the reads -/

/-- What every read keeps holds after a copy, with the bytes that were written; `broken` holds after
a read that failed. -/
theorem copy_keeps (chunkSize : Nat) (inv broken : σ → Bytes → Prop)
    (hok : ∀ s s' bytes written, inv s written →
      ByteSource.read chunkSize s = (.ok bytes, s') → inv s' (written ++ bytes))
    (herr : ∀ s s' fault written, inv s written →
      ByteSource.read chunkSize s = (.error fault, s') → broken s' written) :
    ∀ (fuel : Nat) (s : σ) (written : Bytes), inv s written →
      match copy chunkSize fuel s written with
      | (none, content, s') => inv s' content
      | (some _, content, s') => broken s' content := by
  intro fuel
  -- On the reads that are left: `inv` is handed from each read to the next.
  induction fuel with
  | zero => exact fun _ _ h => h
  | succ fuel ih =>
    intro s written h
    rcases hr : ByteSource.read chunkSize s with ⟨fault | bytes, s'⟩
    · simp only [copy, hr]
      exact herr s s' fault written h hr
    · have hw := hok s s' bytes written h hr
      cases bytes with
      | nil => simpa [copy, hr] using hw
      | cons byte bytes =>
        simp only [copy, hr]
        exact ih s' _ hw

/-- What every read keeps holds after a capture, with the buffer; `broken` holds after a read that
failed. No read asks for more than fits into the buffer. -/
theorem capture_keeps (chunkSize : Nat) (inv : σ → BoundedBuffer → Prop) (broken : σ → Prop)
    (hok : ∀ s s' bytes b, b.isFull = false → inv s b →
      ByteSource.read (min b.remaining chunkSize) s = (.ok bytes, s') → inv s' (b.write bytes))
    (herr : ∀ s s' fault b, b.isFull = false → inv s b →
      ByteSource.read (min b.remaining chunkSize) s = (.error fault, s') → broken s')
    (b : BoundedBuffer) (s : σ) (h : inv s b) :
    match capture chunkSize b s with
    | (.ok b', s') => inv s' b'
    | (.error _, s') => broken s' := by
  fun_induction capture chunkSize b s with
  | case1 b s hf fault s' hr => exact herr _ _ _ _ hf h hr
  | case2 b s hf bytes s' hr hb ih => exact ih (hok _ _ _ _ hf h hr)
  | case3 b s hf bytes s' hr hb =>
    have hnil : bytes = [] := by simpa using hb
    have hw := hok _ _ _ _ hf h hr
    rwa [hnil, BoundedBuffer.write_nil] at hw
  | case4 b s hf => exact h

/-- A drain reads its source and closes it. What every read keeps holds before it is closed, and
`broken` holds there when a read failed. -/
theorem drain_reads (chunkSize : Nat) (inv broken : σ → Prop)
    (hok : ∀ n s s' bytes, inv s → ByteSource.read n s = (.ok bytes, s') → inv s')
    (herr : ∀ n s s' fault, inv s → ByteSource.read n s = (.error fault, s') → broken s')
    (demand : Demand) (h : inv s) :
    ∃ last, (drain chunkSize demand s).source = ByteSource.close last ∧
      match (drain chunkSize demand s).captured with
      | .ok _ => inv last
      | .error _ => broken last := by
  obtain ⟨content, capacity⟩ := demand
  cases content with
  | true =>
    cases capacity with
    | none =>
      have hc := copy_keeps chunkSize (fun s _ => inv s) (fun s _ => broken s)
        (fun s s' bytes _ hs hr => hok _ s s' bytes hs hr)
        (fun s s' fault _ hs hr => herr _ s s' fault hs hr) (ByteSource.left s + 1) s [] h
      simp only [drain, copyAll]
      revert hc
      rcases copy chunkSize _ s [] with ⟨_ | fault, content, s'⟩
      · exact fun hs => ⟨s', rfl, hs⟩
      · exact fun hs => ⟨s', rfl, hs⟩
    | some capacity =>
      let tee : Tee σ := { source := s, sink := .ofCapacity capacity }
      -- the tee stays open, so that its closing closes the source
      have hc := copy_keeps (σ := Tee σ) chunkSize (fun t _ => t.Opened ∧ inv t.source)
        (fun t _ => t.Opened ∧ broken t.source)
        (fun t t' bytes _ ht hr =>
          ⟨ht.1.read hr, hok _ _ _ bytes ht.2 (Tee.read_ok hr).1⟩)
        (fun t t' fault _ ht hr =>
          ⟨ht.1.read hr, herr _ _ _ fault ht.2 (Tee.read_error hr)⟩)
        (ByteSource.left tee + 1) tee [] ⟨⟨rfl, rfl⟩, h⟩
      simp only [drain, copyAll]
      revert hc
      rcases copy chunkSize _ tee [] with ⟨_ | fault, content, t⟩
      · exact fun ht => ⟨t.source, ht.1.close_source, ht.2⟩
      · exact fun ht => ⟨t.source, ht.1.close_source, ht.2⟩
  | false =>
    cases capacity with
    | none => exact ⟨s, rfl, h⟩
    | some capacity =>
      have hc := capture_keeps chunkSize (fun s _ => inv s) broken
        (fun s s' bytes _ _ hs hr => hok _ s s' bytes hs hr)
        (fun s s' fault _ _ hs hr => herr _ s s' fault hs hr) (.ofCapacity capacity) s h
      simp only [drain]
      revert hc
      rcases capture chunkSize _ s with ⟨fault | b, s'⟩
      · exact fun hs => ⟨s', rfl, hs⟩
      · exact fun hs => ⟨s', rfl, hs⟩

/-- What every read and the closing keep holds after a drain; `broken` holds after one that
failed. -/
theorem drain_keeps (chunkSize : Nat) (inv broken : σ → Prop)
    (hok : ∀ n s s' bytes, inv s → ByteSource.read n s = (.ok bytes, s') → inv s')
    (herr : ∀ n s s' fault, inv s → ByteSource.read n s = (.error fault, s') → broken s')
    (hinv : ∀ s, inv s → inv (ByteSource.close s))
    (hbroken : ∀ s, broken s → broken (ByteSource.close s)) (demand : Demand) (h : inv s) :
    match (drain chunkSize demand s).captured with
    | .ok _ => inv (drain chunkSize demand s).source
    | .error _ => broken (drain chunkSize demand s).source := by
  obtain ⟨last, hsource, hlast⟩ := drain_reads chunkSize inv broken hok herr demand h
  rw [hsource]
  split
  case h_1 hc =>
    rw [hc] at hlast
    exact hinv last hlast
  case h_2 hc =>
    rw [hc] at hlast
    exact hbroken last hlast

/-! ## What is delivered -/

/-- The first bytes are delivered to the one who wants them, if there is one. -/
theorem isSome_captured {demand : Demand} {captured : Option Bytes}
    (h : (drain chunkSize demand s).captured = .ok captured) :
    captured.isSome = demand.capacity.isSome := by
  obtain ⟨content, capacity⟩ := demand
  cases content with
  | true =>
    cases capacity with
    | none =>
      simp only [drain] at h
      cases hf : (copyAll chunkSize s).1 <;> simp [hf, orFault] at h
      rw [← h]
      rfl
    | some capacity =>
      simp only [drain] at h
      cases hf : (copyAll chunkSize ({ source := s, sink := .ofCapacity capacity } : Tee σ)).1 <;>
        simp [hf, orFault] at h
      rw [← h]
      rfl
  | false =>
    cases capacity with
    | none =>
      obtain rfl : none = captured := by simpa [drain] using h
      rfl
    | some capacity =>
      simp only [drain] at h
      cases hr : (capture chunkSize (.ofCapacity capacity) s).1 <;> simp [hr, Except.map] at h
      rw [← h]
      rfl

variable [LawfulSource σ]

/-- A copy that succeeds adds all that was to come. -/
theorem copy_content (hc : 0 < chunkSize) :
    ∀ (fuel : Nat) (s : σ) (written content : Bytes), Sound s → (rest s).length < fuel →
      copy chunkSize fuel s written = (none, content, s') → content = written ++ rest s := by
  intro fuel
  induction fuel with
  | zero => exact fun _ _ _ _ h => absurd h (Nat.not_lt_zero _)
  | succ fuel ih =>
    intro s written content hs hfuel h
    rcases hr : ByteSource.read chunkSize s with ⟨fault | bytes, s₁⟩
    · simp [copy, hr] at h
    · have hrest := rest_of_read hs hr (by omega)
      cases bytes with
      | nil =>
        obtain ⟨rfl, -⟩ := by simpa [copy, hr] using h
        rw [ended_of_read hs hr (by omega), List.append_nil]
      | cons byte bytes =>
        have hlen := congrArg List.length hrest
        rw [List.length_append, List.length_cons] at hlen
        simp only [copy, hr] at h
        rw [ih s₁ _ content (sound_of_read hs hr (by omega)) (by omega) h, hrest, List.append_assoc]

/-- While there is room in the buffer, a capture asks for at least one byte. -/
theorem asked_pos (hc : 0 < chunkSize) {b : BoundedBuffer} (hf : b.isFull = false) :
    0 < min (b.remaining : Int) chunkSize := by
  have hroom : b.remaining ≠ 0 := by simpa [BoundedBuffer.isFull] using hf
  omega

/-- What a capture is given fits into the buffer. -/
theorem fits_of_read (hc : 0 < chunkSize) {b : BoundedBuffer} {bytes : Bytes}
    (hf : b.isFull = false) (hs : Sound s)
    (hr : ByteSource.read (min b.remaining chunkSize) s = (.ok bytes, s')) :
    bytes.length ≤ b.remaining := by
  have := length_of_read hs hr (asked_pos hc hf)
  omega

/-- A capture that succeeds fills the buffer with what comes next. -/
theorem capture_value (hc : 0 < chunkSize) {b b' : BoundedBuffer} (hs : Sound s)
    (h : capture chunkSize b s = (.ok b', s')) :
    b'.value = (b.value ++ rest s).take b.capacity := by
  fun_induction capture chunkSize b s with
  | case1 b s hf fault s₁ hr => simp at h
  | case2 b s hf bytes s₁ hr hb ih =>
    have hn := asked_pos hc hf
    rw [ih (sound_of_read hs hr hn) h,
      BoundedBuffer.value_write_of_fits (fits_of_read hc hf hs hr), rest_of_read hs hr hn,
      List.append_assoc]
    rfl
  | case3 b s hf bytes s₁ hr hb =>
    obtain ⟨rfl, -⟩ := by simpa using h
    have hnil : bytes = [] := by simpa using hb
    rw [hnil] at hr
    rw [ended_of_read hs hr (asked_pos hc hf), List.append_nil, List.take_of_length_le b.length_le]
  | case4 b s hf =>
    obtain ⟨rfl, -⟩ := by simpa using h
    have hfull : b.capacity - b.value.length = 0 := by
      simpa [BoundedBuffer.isFull, BoundedBuffer.remaining] using hf
    have hle := b.length_le
    rw [List.take_append_of_le_length (by omega), List.take_of_length_le hle]

/-- A copy through a tee has all bytes, and its sink has the first ones. -/
theorem copy_tee (hc : 0 < chunkSize) (hs : Sound s) {capacity : Int} {content : Bytes} {t : Tee σ}
    (h : copy chunkSize (ByteSource.left s + 1)
      ({ source := s, sink := .ofCapacity capacity } : Tee σ) [] = (none, content, t)) :
    content = rest s ∧ t.sink.value = (rest s).take capacity.toNat := by
  let tee : Tee σ := { source := s, sink := .ofCapacity capacity }
  have hfuel : (rest s).length < ByteSource.left s + 1 := Nat.lt_succ_of_le (length_rest_le hs)
  -- after every read the sink has as much of what was copied as it can hold
  have hsink := copy_keeps (σ := Tee σ) chunkSize
    (fun t written => t.sink.capacity = capacity.toNat ∧
      t.sink.value = written.take t.sink.capacity)
    (fun _ _ => True)
    (fun t t' bytes written ht hr => by
      rw [(Tee.read_ok hr).2]
      exact ⟨ht.1, BoundedBuffer.value_write ht.2 bytes⟩)
    (fun _ _ _ _ _ _ => trivial) (ByteSource.left s + 1) tee [] ⟨rfl, List.take_nil.symm⟩
  rw [h] at hsink
  obtain ⟨hcap, hvalue⟩ := hsink
  have hcontent : content = rest s := copy_content (σ := Tee σ) hc _ tee [] content hs hfuel h
  exact ⟨hcontent, by rw [hvalue, hcap, hcontent]⟩

/-- A drain that succeeds delivers all bytes to the one who wants them, and the first bytes to the
other. -/
theorem drain_delivers (hc : 0 < chunkSize) (hs : Sound s) {demand : Demand} {captured : Option Bytes}
    (h : (drain chunkSize demand s).captured = .ok captured) :
    (drain chunkSize demand s).content = (if demand.content then rest s else []) ∧
      captured = demand.capacity.map fun capacity => (rest s).take capacity.toNat := by
  have hfuel : (rest s).length < ByteSource.left s + 1 := Nat.lt_succ_of_le (length_rest_le hs)
  obtain ⟨content, capacity⟩ := demand
  cases content with
  | true =>
    cases capacity with
    | none =>
      simp only [drain, copyAll] at h ⊢
      rcases hr : copy chunkSize (ByteSource.left s + 1) s [] with ⟨fault | fault, content, s'⟩
      · rw [hr] at h
        obtain rfl : none = captured := by simpa [orFault] using h
        exact ⟨copy_content hc _ s [] content hs hfuel hr, rfl⟩
      · rw [hr] at h
        simp [orFault] at h
    | some capacity =>
      simp only [drain, copyAll] at h ⊢
      rcases hr : copy chunkSize _ _ [] with ⟨fault | fault, content, t⟩
      · rw [hr] at h
        obtain rfl : some t.sink.value = captured := by simpa [orFault] using h
        obtain ⟨hcontent, hvalue⟩ := copy_tee hc hs hr
        exact ⟨hcontent, congrArg some hvalue⟩
      · rw [hr] at h
        simp [orFault] at h
  | false =>
    cases capacity with
    | none =>
      obtain rfl : none = captured := by simpa [drain] using h
      exact ⟨rfl, rfl⟩
    | some capacity =>
      simp only [drain] at h ⊢
      rcases hr : capture chunkSize (.ofCapacity capacity) s with ⟨fault | b, s'⟩
      · rw [hr] at h
        simp [Except.map] at h
      · rw [hr] at h
        obtain rfl : some b.value = captured := by simpa [Except.map] using h
        refine ⟨rfl, congrArg some ?_⟩
        rw [capture_value hc hs hr]
        rfl

end Drain

end HttpCourier
