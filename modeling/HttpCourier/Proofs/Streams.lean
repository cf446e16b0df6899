import HttpCourier.Proofs.Sources
import HttpCourier.Stream.Body

/-!
# Bodies as sources

The stream of a body is a lawful source (`BodyStream.read_ok`): however the body is cut into chunks,
a read gives the bytes that come next. `Wire.Took` and `Wire.Broke` say what the reads took from the
wire: parts none of which is a failure, or parts of which the last one is (`drain_took`).
-/

namespace HttpCourier

/-! ## What is taken from a wire -/

namespace Wire

variable {w w₁ w₂ : Wire}

/-- Parts were taken from the front of a wire, and none of them was a failure. -/
def Took (w w' : Wire) : Prop :=
  ∃ taken, w.parts = taken ++ w'.parts ∧ ∀ failure, .fail failure ∉ taken

/-- Parts were taken from the front of a wire, and the last of them was a failure. -/
def Broke (w w' : Wire) : Prop :=
  ∃ taken failure, w.parts = taken ++ Part.fail failure :: w'.parts

/-- Nothing is taken from a wire that stays as it is. -/
theorem Took.refl (w : Wire) : w.Took w := ⟨[], rfl, fun _ => List.not_mem_nil⟩

/-- Two runs of parts without a failure are one. -/
theorem Took.trans (h : w.Took w₁) (h' : w₁.Took w₂) : w.Took w₂ := by
  obtain ⟨taken, hw, hn⟩ := h
  obtain ⟨taken', hw', hn'⟩ := h'
  refine ⟨taken ++ taken', by rw [hw, hw', List.append_assoc], fun failure hm => ?_⟩
  exact (List.mem_append.1 hm).elim (hn failure) (hn' failure)

/-- A failure after parts that were taken is a failure after more parts. -/
theorem Took.broke (h : w.Took w₁) (h' : w₁.Broke w₂) : w.Broke w₂ := by
  obtain ⟨taken, hw, -⟩ := h
  obtain ⟨taken', failure, hw'⟩ := h'
  exact ⟨taken ++ taken', failure, by rw [hw, hw', List.append_assoc]⟩

/-- Only the parts that are left matter. -/
theorem Took.congr (h : w.Took w₁) (hp : w₂.parts = w₁.parts) : w.Took w₂ := by
  rwa [Took, hp]

/-- Where a wire broke is a matter of its parts. -/
theorem Broke.congr (h : w.Broke w₁) (hp : w₂.parts = w₁.parts) : w.Broke w₂ := by
  rwa [Broke, hp]

/-- What was taken is determined by what is left. -/
theorem Broke.not_took (h : w.Broke w₁) : ¬ w.Took w₁ := by
  rintro ⟨taken, hw, hn⟩
  obtain ⟨taken', failure, hw'⟩ := h
  rw [hw, ← List.singleton_append, ← List.append_assoc, List.append_left_inj] at hw'
  exact hn failure (by rw [hw']; simp)

/-- The parts that a pull takes: waits, and then a chunk or a failure, or nothing at the end. -/
theorem pull_parts (w : Wire) :
    match w.pull with
    | (.fail _, w') => w.Broke w'
    | (_, w') => w.Took w' := by
  fun_induction pull w with
  | case1 w hp => exact ⟨[], rfl, fun _ => List.not_mem_nil⟩
  | case2 w time rest hp ih =>
    have hwait : w.Took { w with parts := rest, waited := w.waited + time } :=
      ⟨[.wait time], hp, by simp⟩
    revert ih
    rcases pull { w with parts := rest, waited := w.waited + time } with ⟨_ | _ | failure, w'⟩
    · exact hwait.trans
    · exact hwait.trans
    · exact hwait.broke
  | case3 w bytes rest hp => exact ⟨[.chunk bytes], hp, by simp⟩
  | case4 w failure rest hp => exact ⟨[], failure, hp⟩

end Wire

/-! ## Pieces -/

namespace Pieces

variable {p p' : Pieces}

/-- Nothing is carried over the end of the wire. -/
def Settled (p : Pieces) : Prop := p.ended = true → p.carry = []

/-- A chunk that is taken from the wire is still to be handed out. -/
theorem content_add (hp : p.ready = []) (he : p.ended = false) {bytes : Bytes} {wire : Wire}
    (h : p.wire.pull = (.chunk bytes, wire)) : (p.add bytes wire).content = p.content := by
  have hcut := cut_append p.size (p.carry ++ bytes)
  simp only [content, add, hp, he, (Wire.pull_chunk h).1, List.flatten_nil, List.nil_append] at hcut ⊢
  simp [hcut]

/-- A piece is cut off from what is to come, and there is none only at the end. -/
theorem next_ok {piece : Option Bytes} (hs : p.Settled) (h : p.next = (.ok piece, p')) :
    p'.Settled ∧ p.content = piece.getD [] ++ p'.content ∧ (piece = none → p'.content = []) ∧
      p.wire.Took p'.wire := by
  fun_induction next p with
  | case1 p piece rest hr =>
    obtain ⟨rfl, rfl⟩ := by simpa using h
    exact ⟨hs, by simp [content, hr], by simp, .refl _⟩
  | case2 p hr he =>
    obtain ⟨rfl, rfl⟩ := by simpa using h
    have hnil : p.content = [] := by simp [content, hr, he, hs he]
    exact ⟨hs, by simp, fun _ => hnil, .refl _⟩
  | case3 p hr he bytes wire hp ih =>
    have he : p.ended = false := by simpa using he
    have htook := Wire.pull_parts p.wire
    rw [hp] at htook
    obtain ⟨h₁, h₂, h₃, h₄⟩ := ih (fun ht => absurd (he.symm.trans ht) Bool.false_ne_true) h
    exact ⟨h₁, (content_add hr he hp).symm.trans h₂, h₃, htook.trans h₄⟩
  | case4 p hr he wire hp =>
    obtain ⟨rfl, rfl⟩ := by simpa using h
    have he : p.ended = false := by simpa using he
    have htook := Wire.pull_parts p.wire
    rw [hp] at htook
    refine ⟨fun _ => rfl, ?_, fun _ => by simp [content, hr], htook⟩
    cases hc : p.carry <;> simp [content, hr, he, hc, (Wire.pull_finish hp).1]
  | case5 p hr he failure wire hp => simp at h

/-- A failure in place of a piece was the last part that was taken. -/
theorem next_error {failure : Failure} (h : p.next = (.error failure, p')) :
    p.wire.Broke p'.wire := by
  fun_induction next p with
  | case1 p piece rest hr => simp at h
  | case2 p hr he => simp at h
  | case3 p hr he bytes wire hp ih =>
    have htook := Wire.pull_parts p.wire
    rw [hp] at htook
    exact htook.broke (ih h)
  | case4 p hr he wire hp => simp at h
  | case5 p hr he failure wire hp =>
    obtain ⟨-, rfl⟩ := by simpa using h
    have hbroke := Wire.pull_parts p.wire
    rwa [hp] at hbroke

/-- What a pull does not change about a wire, a piece does not change either. -/
theorem next_keeps {α : Type} {f : Wire → α} (hf : ∀ w, f w.pull.2 = f w) (p : Pieces) :
    f p.next.2.wire = f p.wire := by
  have hpull := hf p.wire
  fun_induction next p with
  | case1 p piece rest hr => rfl
  | case2 p hr he => rfl
  | case3 p hr he bytes wire hp ih =>
    rw [hp] at hpull
    exact (ih (hf wire)).trans hpull
  | case4 p hr he wire hp =>
    rw [hp] at hpull
    exact hpull
  | case5 p hr he failure wire hp =>
    rw [hp] at hpull
    exact hpull

end Pieces

/-! ## Streams -/

namespace BodyStream

variable {s s' : BodyStream} {size : Int} {bytes : Bytes}

/-- A stream whose bytes come in order: nothing was lost from its pieces, and when it found them
exhausted they are. -/
structure Sound (s : BodyStream) : Prop where
  settled : s.pieces.Settled
  exhausted : s.exhausted = true → s.pieces.content = []

/-- The bytes that are still to come. -/
def rest (s : BodyStream) : Bytes := if s.closed then [] else s.pending ++ s.pieces.content

/-- A stream begins with all bytes of its wire. -/
theorem sound_ofWire (wire : Wire) (chunkSize : Nat) : (ofWire wire chunkSize).Sound :=
  ⟨nofun, nofun⟩

@[simp] theorem rest_ofWire (wire : Wire) (chunkSize : Nat) :
    (ofWire wire chunkSize).rest = wire.content := by
  simp [rest, ofWire, Pieces.content]

/-- After a fill that succeeds enough bytes are pending, and none was lost. -/
theorem fill_ok (hs : s.Sound) (h : s.fill size = (none, s')) :
    s'.Sound ∧ s'.rest = s.rest ∧ s'.needsMore size = false ∧ s'.closed = s.closed ∧
      s.wire.Took s'.wire := by
  fun_induction fill size s with
  | case1 s hn piece pieces hp ih =>
    obtain ⟨h₁, h₂, -, h₄⟩ := Pieces.next_ok hs.settled hp
    have hex : s.exhausted = false := by
      rw [needsMore, Bool.and_eq_true] at hn
      simpa using hn.1
    obtain ⟨i₁, i₂, i₃, i₄, i₅⟩ := ih ⟨h₁, fun he => absurd (hex.symm.trans he) nofun⟩ h
    refine ⟨i₁, i₂.trans ?_, i₃, i₄, h₄.trans i₅⟩
    simp [rest, h₂]
  | case2 s hn pieces hp =>
    obtain rfl := by simpa using h
    obtain ⟨h₁, h₂, h₃, h₄⟩ := Pieces.next_ok hs.settled hp
    exact ⟨⟨h₁, fun _ => h₃ rfl⟩, by simp [rest, h₂], rfl, rfl, h₄⟩
  | case3 s hn failure pieces hp => simp at h
  | case4 s hn =>
    obtain rfl := by simpa using h
    exact ⟨hs, rfl, by simpa using hn, rfl, .refl _⟩

/-- A fill that fails took a failure from the wire. -/
theorem fill_error {failure : Failure} (hs : s.Sound) (h : s.fill size = (some failure, s')) :
    s.wire.Broke s'.wire := by
  fun_induction fill size s with
  | case1 s hn piece pieces hp ih =>
    obtain ⟨h₁, -, -, h₄⟩ := Pieces.next_ok hs.settled hp
    have hex : s.exhausted = false := by
      rw [needsMore, Bool.and_eq_true] at hn
      simpa using hn.1
    exact h₄.broke (ih ⟨h₁, fun he => absurd (hex.symm.trans he) nofun⟩ h)
  | case2 s hn pieces hp => simp at h
  | case3 s hn failure pieces hp =>
    obtain ⟨-, rfl⟩ := by simpa using h
    exact Pieces.next_error hp
  | case4 s hn => simp at h

/-- How many of some bytes a read of a size gives. -/
def amount (size : Int) (rest : Bytes) : Nat := if size < 0 then rest.length else size.toNat

/-- Once enough bytes are pending, those that come next are given away. -/
theorem give_rest (hs : s.Sound) (ho : s.closed = false) (hn : s.needsMore size = false) :
    (s.give size).1 = s.rest.take (amount size s.rest) ∧
      (s.give size).2.rest = s.rest.drop (amount size s.rest) := by
  have hrest : s.rest = s.pending ++ s.pieces.content := by
    rw [rest, ho]
    rfl
  have hgiven : (s.give size).1 = s.pending.take (amount size s.pending) ∧
      (s.give size).2.rest = s.pending.drop (amount size s.pending) ++ s.pieces.content := by
    simp [give, rest, ho, amount]
  rw [hgiven.1, hgiven.2, hrest]
  rcases Bool.eq_false_or_eq_true s.exhausted with he | he
  · rw [hs.exhausted he, List.append_nil, List.append_nil]
    exact ⟨rfl, rfl⟩
  · simp only [needsMore, he, Bool.not_false, Bool.true_and, Bool.or_eq_false_iff,
      decide_eq_false_iff_not] at hn
    have hfits : size.toNat ≤ s.pending.length := by omega
    simp only [amount, if_neg hn.1]
    exact ⟨(List.take_append_of_le_length hfits).symm, (List.drop_append_of_le_length hfits).symm⟩

/-- A read that succeeds gives exactly the bytes that come next: as many as were asked for, or all
of them for a negative size or when there are fewer. -/
theorem read_ok (hs : s.Sound) (h : s.read size = (.ok bytes, s')) :
    s'.Sound ∧ bytes = s.rest.take (amount size s.rest) ∧ s'.rest = s.rest.drop (amount size s.rest) ∧
      s.wire.Took s'.wire := by
  unfold read at h
  split at h
  case isTrue hc =>
    obtain ⟨rfl, rfl⟩ := by simpa using h
    simp [hs, rest, hc, Wire.Took.refl]
  case isFalse hc =>
    split at h
    case h_1 => simp at h
    case h_2 s₁ hf =>
      obtain ⟨h₁, h₂, h₃, h₄, h₅⟩ := fill_ok hs hf
      obtain ⟨hb, hr⟩ := give_rest h₁ (h₄.trans (by simpa using hc)) h₃
      obtain ⟨rfl, rfl⟩ : (s₁.give size).1 = bytes ∧ (s₁.give size).2 = s' := by simpa using h
      rw [h₂] at hb hr
      exact ⟨⟨h₁.settled, h₁.exhausted⟩, hb, hr, h₅⟩

/-- A read that fails took a failure from the wire. -/
theorem read_error {fault : Fault} (hs : s.Sound) (h : s.read size = (.error fault, s')) :
    s.wire.Broke s'.wire := by
  unfold read at h
  split at h
  case isTrue => simp at h
  case isFalse =>
    split at h
    case h_1 failure s₁ hf =>
      obtain ⟨-, rfl⟩ := by simpa using h
      exact fill_error hs hf
    case h_2 => simp at h

/-- To fill a stream does not close it, and changes of its wire only what taking a part does. -/
theorem fill_keeps {α : Type} {f : Wire → α} (hf : ∀ w, f w.pull.2 = f w) (size : Int)
    (s : BodyStream) : (s.fill size).2.closed = s.closed ∧ f (s.fill size).2.wire = f s.wire := by
  have hnext := Pieces.next_keeps hf s.pieces
  fun_induction fill size s with
  | case1 s hn piece pieces hp ih =>
    rw [hp] at hnext
    obtain ⟨h₁, h₂⟩ := ih (Pieces.next_keeps hf pieces)
    exact ⟨h₁, h₂.trans hnext⟩
  | case2 s hn pieces hp =>
    rw [hp] at hnext
    exact ⟨rfl, hnext⟩
  | case3 s hn failure pieces hp =>
    rw [hp] at hnext
    exact ⟨rfl, hnext⟩
  | case4 s hn => exact ⟨rfl, rfl⟩

/-- A read closes nothing, and what a pull does not change about a wire it does not change
either. -/
theorem read_keeps {α : Type} {f : Wire → α} (hf : ∀ w, f w.pull.2 = f w) (size : Int)
    (s : BodyStream) : (s.read size).2.closed = s.closed ∧ f (s.read size).2.wire = f s.wire := by
  have hfill := fill_keeps hf size s
  unfold read
  split
  · exact ⟨rfl, rfl⟩
  · split
    case h_1 h =>
      rw [h] at hfill
      exact hfill
    case h_2 h =>
      rw [h] at hfill
      exact hfill

/-- A closed stream gives nothing, and stays as it is. -/
theorem read_of_closed (h : s.closed = true) (size : Int) : s.read size = (.ok [], s) := if_pos h

/-- A stream that is closed twice is closed once. -/
theorem close_of_closed (h : s.closed = true) : s.close = s := if_pos h

theorem closed_close (s : BodyStream) : s.close.closed = true := by
  unfold close
  split
  case isTrue h => exact h
  case isFalse => rfl

/-- To close a stream takes no part from its wire. -/
theorem close_parts (s : BodyStream) : s.close.wire.parts = s.wire.parts := by
  unfold close
  split
  · rfl
  · rfl

/-- A stream that is closed is as sound as it was. -/
theorem sound_close (hs : s.Sound) : s.close.Sound := by
  unfold close
  split
  · exact hs
  · exact ⟨hs.settled, hs.exhausted⟩

end BodyStream

/-- The stream of a body gives the bytes of the body. -/
instance : LawfulSource BodyStream where
  Sound := BodyStream.Sound
  rest := BodyStream.rest
  sound_of_read hs h _ := (BodyStream.read_ok hs h).1
  rest_of_read hs h _ := by
    obtain ⟨-, hb, hr, -⟩ := BodyStream.read_ok hs h
    rw [hb, hr, List.take_append_drop]
  length_of_read {n _ _ _} hs h hn := by
    obtain ⟨-, hb, -, -⟩ := BodyStream.read_ok hs h
    have hamount : ∀ rest, BodyStream.amount n rest = n.toNat := fun _ => if_neg (by omega)
    rw [hb, hamount]
    exact List.length_take_le _ _
  ended_of_read {n s _} hs h hn := by
    obtain ⟨-, hb, -, -⟩ := BodyStream.read_ok hs h
    have hamount : BodyStream.amount n s.rest = n.toNat := if_neg (by omega)
    rw [hamount, eq_comm, List.take_eq_nil_iff] at hb
    exact hb.resolve_left (by omega)
  length_rest_le {s} _ := by
    change s.rest.length ≤ s.pending.length + s.pieces.content.length
    unfold BodyStream.rest
    split <;> simp

/-- A drain of a body takes no failure from its wire when it succeeds, and one when it does not. -/
theorem BodyStream.drain_took (chunkSize : Nat) {s : BodyStream} (hs : s.Sound) (demand : Demand) :
    match (drain chunkSize demand s).captured with
    | .ok _ => s.wire.Took (drain chunkSize demand s).source.wire
    | .error _ => s.wire.Broke (drain chunkSize demand s).source.wire := by
  have hkeeps := Drain.drain_keeps (s := s) chunkSize (fun s' => s'.Sound ∧ s.wire.Took s'.wire)
    (fun s' => s.wire.Broke s'.wire)
    (fun n s₁ s₂ bytes hs hr => by
      obtain ⟨h₁, -, -, h₄⟩ := read_ok hs.1 hr
      exact ⟨h₁, hs.2.trans h₄⟩)
    (fun n s₁ s₂ fault hs hr => hs.2.broke (read_error hs.1 hr))
    (fun s₁ hs => ⟨sound_close hs.1, hs.2.congr s₁.close_parts⟩)
    (fun s₁ hs => hs.congr s₁.close_parts) demand ⟨hs, .refl _⟩
  split
  case h_1 hc =>
    rw [hc] at hkeeps
    exact hkeeps.2
  case h_2 hc => rwa [hc] at hkeeps

end HttpCourier
