import HttpCourier.Proofs.Streams

/-!
# How far a reader looks ahead

Who wants only the first bytes of a body should not wait for the chunks behind them. The chunks of a
wire are cut into pieces of one size, and a stream takes a piece only when it has too few bytes; so
a drain for the first bytes takes the shortest run of leading parts (`Wire.reaching`) with the bytes
of as many whole pieces as it needs, and no part behind it (`BodyStream.drain_ahead`).
-/

namespace HttpCourier

namespace Wire

/-! ## The shortest run of parts -/

/-- Whether a part is a chunk of the body. -/
def Part.isChunk : Part → Bool
  | .chunk _ => true
  | _ => false

/-- The number of bytes of some parts. -/
def size (parts : List Part) : Nat := (parts.flatMap Part.bytes).length

/-- The shortest run of leading parts with a number of bytes, or all parts when they have fewer. -/
def reaching : Nat → List Part → List Part
  | 0, _ => []
  | _ + 1, [] => []
  | n + 1, part :: rest => part :: reaching (n + 1 - part.bytes.length) rest

/-- The parts behind that run. -/
def beyond (n : Nat) (parts : List Part) : List Part := parts.drop (reaching n parts).length

variable {n m k : Nat} {part : Part} {parts rest : List Part} {w w₁ w₂ : Wire}

@[simp] theorem size_cons : size (part :: parts) = part.bytes.length + size parts := by
  simp [size]

@[simp] theorem reaching_zero : reaching 0 parts = [] := by
  cases parts <;> rfl

@[simp] theorem reaching_nil : reaching n [] = [] := by
  cases n <;> rfl

/-- While bytes are wanted, the next part is taken, and its bytes are wanted no more. -/
theorem reaching_cons (hn : 0 < n) :
    reaching n (part :: rest) = part :: reaching (n - part.bytes.length) rest := by
  cases n with
  | zero => exact absurd hn (Nat.lt_irrefl 0)
  | succ n => rfl

/-- The shortest run stands at the front of the parts. -/
theorem prefix_reaching (n : Nat) (parts : List Part) : reaching n parts <+: parts := by
  fun_induction reaching n parts with
  | case1 | case2 => exact List.nil_prefix
  | case3 n part rest ih => exact (List.prefix_cons_inj part).2 ih

/-- The shortest run and what is behind it are all parts. -/
theorem reaching_append_beyond (n : Nat) (parts : List Part) :
    reaching n parts ++ beyond n parts = parts :=
  List.prefix_iff_eq_append.1 (prefix_reaching n parts)

/-- No shorter run has as many bytes. -/
theorem size_lt_of_prefix {shorter : List Part} (h : shorter <+: reaching n parts)
    (hne : shorter ≠ reaching n parts) : size shorter < n := by
  fun_induction reaching n parts generalizing shorter with
  | case1 | case2 => exact absurd (List.prefix_nil.1 h) hne
  | case3 n part rest ih =>
    cases shorter with
    | nil => exact Nat.succ_pos n
    | cons first shorter =>
      obtain ⟨rfl, h⟩ := List.cons_prefix_cons.1 h
      have := ih h fun he => hne (by rw [he])
      rw [size_cons]
      omega

/-- The run has the bytes, unless nothing is left behind it. -/
theorem size_reaching_or (n : Nat) (parts : List Part) :
    n ≤ size (reaching n parts) ∨ beyond n parts = [] := by
  unfold beyond
  fun_induction reaching n parts with
  | case1 => exact .inl (Nat.zero_le _)
  | case2 => exact .inr rfl
  | case3 n part rest ih =>
    refine ih.imp (fun h => ?_) fun h => h
    rw [size_cons]
    omega

/-- When the run has the bytes, it is the run of every wire that begins with it. -/
theorem reaching_append (h : n ≤ size (reaching n parts)) (tail : List Part) :
    reaching n (reaching n parts ++ tail) = reaching n parts := by
  fun_induction reaching n parts with
  | case1 => exact reaching_zero
  | case2 n => exact absurd h (Nat.not_succ_le_zero n)
  | case3 n part rest ih =>
    rw [size_cons] at h
    rw [List.cons_append, reaching_cons (Nat.succ_pos n), ih (by omega)]

/-- A run of parts is the shortest one with `n` bytes, or nothing comes behind it. -/
structure ShortestRun (n : Nat) (run behind : List Part) : Prop where
  reaches : n ≤ size run ∨ behind = []
  shortest : ∀ shorter, shorter <+: run → shorter ≠ run → size shorter < n

/-- There is only one shortest run. -/
theorem ShortestRun.eq_reaching {run behind : List Part} (h : ShortestRun n run behind) :
    run = reaching n (run ++ behind) := by
  have hrun : run <+: run ++ behind := List.prefix_append run behind
  have hreaching := prefix_reaching n (run ++ behind)
  rcases List.prefix_or_prefix_of_prefix hrun hreaching with hle | hle
  · refine Classical.byContradiction fun hne => ?_
    have hsize := size_lt_of_prefix hle hne
    obtain rfl := h.reaches.resolve_left (by omega)
    rw [List.append_nil] at hle hne hreaching
    exact hne (hle.eq_of_length_le hreaching.length_le)
  · refine Classical.byContradiction fun hne => ?_
    have hsize := h.shortest _ hle (Ne.symm hne)
    have hall := reaching_append_beyond n (run ++ behind)
    rw [(size_reaching_or n _).resolve_left (by omega), List.append_nil] at hall
    rw [hall] at hle
    exact hne ((hrun.eq_of_length_le hle.length_le).trans hall.symm)

/-- The run that is taken part by part is the shortest. -/
theorem shortestRun_reaching : ShortestRun n (reaching n parts) (beyond n parts) :=
  ⟨size_reaching_or n parts, fun _ => size_lt_of_prefix⟩

/-- The first bytes of a wire are those of a run that has as many. -/
theorem take_content (w : Wire) (h : k ≤ n) :
    w.content.take k = ((reaching n w.parts).flatMap Part.bytes).take k := by
  have hsplit : w.content
      = (reaching n w.parts).flatMap Part.bytes ++ (beyond n w.parts).flatMap Part.bytes := by
    rw [← List.flatMap_append, reaching_append_beyond]
    rfl
  rcases size_reaching_or n w.parts with hsize | hbeyond
  · rw [hsplit, List.take_append_of_le_length (Nat.le_trans h hsize)]
  · rw [hsplit, hbeyond, List.flatMap_nil, List.append_nil]

/-- The chunks that were taken from a wire and those that are still on it. -/
def chunks (w : Wire) : Nat := w.pulled + w.parts.countP Part.isChunk

/-- A chunk that is taken moves from one count to the other. -/
theorem chunks_pull (w : Wire) : w.pull.2.chunks = w.chunks := by
  fun_induction pull w with
  | case1 w hp => rfl
  | case2 w time rest hp ih =>
    rw [ih]
    simp [chunks, hp, Part.isChunk]
  | case3 w bytes rest hp =>
    simp only [chunks, hp, List.countP_cons_of_pos (rfl : (Part.chunk bytes).isChunk = true)]
    omega
  | case4 w failure rest hp => simp [chunks, hp, Part.isChunk]

/-! ## Taking parts -/

/-- Parts were taken from a wire that stand ahead of `n` bytes, none of them a failure, and `m`
bytes are still wanted. -/
def Advances (n m : Nat) (w w' : Wire) : Prop :=
  ∃ taken, w.parts = taken ++ w'.parts ∧ reaching n w.parts = taken ++ reaching m w'.parts ∧
    ∀ failure, .fail failure ∉ taken

/-- A failure stands ahead of `n` bytes. -/
def Breaks (n : Nat) (w : Wire) : Prop := ∃ failure, .fail failure ∈ reaching n w.parts

/-- A wire that nothing was taken from is as far as it was. -/
theorem Advances.refl (n : Nat) (w : Wire) : w.Advances n n w :=
  ⟨[], rfl, rfl, fun _ => List.not_mem_nil⟩

/-- What was taken first, and then, was taken ahead of the same bytes. -/
theorem Advances.trans (h : w.Advances n m w₁) (h' : w₁.Advances m k w₂) : w.Advances n k w₂ := by
  obtain ⟨taken, hw, hr, hn⟩ := h
  obtain ⟨taken', hw', hr', hn'⟩ := h'
  refine ⟨taken ++ taken', by rw [hw, hw', List.append_assoc], by rw [hr, hr', List.append_assoc],
    fun failure hm => ?_⟩
  exact (List.mem_append.1 hm).elim (hn failure) (hn' failure)

/-- A failure that stands ahead of what is left stood ahead of the whole. -/
theorem Advances.breaks (h : w.Advances n m w₁) (h' : w₁.Breaks m) : w.Breaks n := by
  obtain ⟨taken, -, hr, -⟩ := h
  obtain ⟨failure, hf⟩ := h'
  exact ⟨failure, by rw [hr]; exact List.mem_append_right _ hf⟩

/-- When nothing is left, nothing more can be wanted. -/
theorem Advances.of_nil (h : w.Advances n m w₁) (h₁ : w₁.parts = []) (h₂ : w₂.parts = []) (k : Nat) :
    w.Advances n k w₂ := by
  obtain ⟨taken, hw, hr, hn⟩ := h
  refine ⟨taken, by rw [hw, h₁, h₂], ?_, hn⟩
  rw [hr, h₁, h₂, reaching_nil, reaching_nil]

/-- What was taken when nothing more is wanted is the run. -/
theorem Advances.parts_eq (h : w.Advances n 0 w₁) :
    w₁.parts = beyond n w.parts ∧ ∀ failure, .fail failure ∉ reaching n w.parts := by
  obtain ⟨taken, hw, hr, hn⟩ := h
  rw [reaching_zero, List.append_nil] at hr
  rw [beyond, hr]
  exact ⟨by rw [hw, List.drop_left], hn⟩

/-- A pull takes no part behind the first chunk. -/
theorem pull_advances (hn : 0 < n) (w : Wire) :
    match w.pull with
    | (.chunk bytes, w') => w.Advances n (n - bytes.length) w'
    | (.finish, w') => w.Advances n n w' ∧ w'.parts = []
    | (.fail _, _) => w.Breaks n := by
  fun_induction pull w with
  | case1 w hp => exact ⟨.refl n w, hp⟩
  | case2 w time rest hp ih =>
    have hwait : w.Advances n n { w with parts := rest, waited := w.waited + time } :=
      ⟨[.wait time], hp, by rw [hp, reaching_cons hn]; rfl, by simp⟩
    revert ih
    rcases pull { w with parts := rest, waited := w.waited + time } with ⟨_ | _ | failure, w'⟩
    · exact hwait.trans
    · exact fun h => ⟨hwait.trans h.1, h.2⟩
    · exact hwait.breaks
  | case3 w bytes rest hp => exact ⟨[.chunk bytes], hp, by rw [hp, reaching_cons hn]; rfl, by simp⟩
  | case4 w failure rest hp => exact ⟨failure, by rw [hp, reaching_cons hn]; exact List.mem_cons_self⟩

end Wire

/-! ## Pieces -/

/-- Full pieces have the size that was asked for. -/
theorem Bytes.length_of_mem_chunks {size : Nat} {bytes piece : Bytes} (hs : 0 < size)
    (hd : size ∣ bytes.length) (h : piece ∈ chunks size bytes) : piece.length = size := by
  fun_induction chunks size bytes with
  | case1 bytes _ he => exact absurd h List.not_mem_nil
  | case2 bytes hle he =>
    obtain rfl := List.mem_singleton.1 h
    have hpos : 0 < piece.length := List.length_pos_iff.2 (by simpa using he)
    exact Nat.le_antisymm (by omega) (Nat.le_of_dvd hpos hd)
  | case3 bytes hlt ih =>
    rcases List.mem_cons.1 h with rfl | h
    · exact List.length_take_of_le (by omega)
    · exact ih (by rw [List.length_drop]; exact Nat.dvd_sub hd (Nat.dvd_refl size)) h

namespace Pieces

variable {p p' : Pieces} {m : Nat}

/-- The bytes that were taken from the wire and are not handed out yet. -/
def held (p : Pieces) : Nat := p.ready.flatten.length + p.carry.length

/-- Pieces that were cut as far as the bytes go, from a wire that may go on. -/
structure Formed (p : Pieces) : Prop where
  size_pos : 0 < p.size
  length_ready : ∀ piece ∈ p.ready, piece.length = p.size
  carry_lt : p.carry.length < p.size
  open_wire : p.ended = false

/-- Bytes cut into whole pieces leave less than a piece over. -/
theorem Formed.add (h : p.Formed) (bytes : Bytes) (wire : Wire) : (p.add bytes wire).Formed where
  size_pos := h.size_pos
  length_ready piece hm := by
    refine Bytes.length_of_mem_chunks h.size_pos ?_ hm
    rw [List.length_take_of_le (Nat.div_mul_le_self _ _)]
    exact Nat.dvd_mul_left _ _
  carry_lt := by
    have := Nat.mod_lt (p.carry ++ bytes).length h.size_pos
    simp only [Pieces.add, cut, List.length_drop]
    rwa [Nat.mod_eq_sub_div_mul] at this
  open_wire := h.open_wire

/-- Cutting bytes into pieces loses none of them. -/
theorem held_add (bytes : Bytes) (wire : Wire) :
    (p.add bytes wire).held = p.carry.length + bytes.length := by
  have h := congrArg List.length (cut_append p.size (p.carry ++ bytes))
  rw [List.length_append, List.length_append] at h
  exact h

/-- When no piece is ready, too few bytes for one are held, so that a pull is due. -/
theorem Formed.pull_advances (hf : p.Formed) (hm : p.size ≤ m) (hr : p.ready = []) :
    match p.wire.pull with
    | (.chunk bytes, wire) => p.wire.Advances (m - p.held) (m - (p.add bytes wire).held) wire
    | (.finish, wire) => p.wire.Advances (m - p.held) (m - p.held) wire ∧ wire.parts = []
    | (.fail _, _) => p.wire.Breaks (m - p.held) := by
  have hcarry := hf.carry_lt
  have hheld : p.held = p.carry.length := by simp [held, hr]
  have hpull := Wire.pull_advances (n := m - p.held) (by omega) p.wire
  rcases hp : p.wire.pull with ⟨bytes | _ | failure, wire⟩
  · rw [hp] at hpull
    dsimp only at hpull ⊢
    rwa [held_add, ← hheld, ← Nat.sub_sub]
  · rwa [hp] at hpull
  · rwa [hp] at hpull

/-- The next piece takes no part behind the `m` bytes that are wanted, those that are held included.
Either it is a full one, or nothing is left. -/
theorem next_advances (hf : p.Formed) (hm : p.size ≤ m) :
    match p.next with
    | (.ok piece, p') => p.wire.Advances (m - p.held) (m - p.size - p'.held) p'.wire ∧
        (p'.wire.parts = [] ∨
          p'.Formed ∧ p'.size = p.size ∧ ∃ full, piece = some full ∧ full.length = p.size)
    | (.error _, _) => p.wire.Breaks (m - p.held) := by
  fun_induction next p with
  | case1 p piece rest hr =>
    have hfull : piece.length = p.size := hf.length_ready piece (by rw [hr]; exact List.mem_cons_self)
    have hheld : m - p.held = m - p.size - ({ p with ready := rest } : Pieces).held := by
      simp only [held, hr, List.flatten_cons, List.length_append, hfull]
      omega
    rw [hheld]
    refine ⟨.refl _ _, .inr ⟨⟨hf.size_pos, fun piece h => hf.length_ready piece ?_, hf.carry_lt,
      hf.open_wire⟩, rfl, piece, rfl, hfull⟩⟩
    rw [hr]
    exact List.mem_cons_of_mem _ h
  | case2 p hr he => exact absurd (hf.open_wire.symm.trans he) Bool.false_ne_true
  | case3 p hr he bytes wire hp ih =>
    have hpull := hf.pull_advances hm hr
    rw [hp] at hpull
    have hnext := ih (hf.add bytes wire) hm
    revert hnext
    rcases (p.add bytes wire).next with ⟨failure | piece, p'⟩
    · exact hpull.breaks
    · exact fun h => ⟨hpull.trans h.1, h.2⟩
  | case4 p hr he wire hp =>
    have hpull := hf.pull_advances hm hr
    rw [hp] at hpull
    exact ⟨hpull.1.of_nil hpull.2 hpull.2 _, .inl hpull.2⟩
  | case5 p hr he failure wire hp =>
    have hpull := hf.pull_advances hm hr
    rwa [hp] at hpull

end Pieces

/-! ## Streams -/

namespace BodyStream

variable {s s' : BodyStream} {n m chunkSize : Nat}

/-- A stream between two pieces: all that it took and did not give away are bytes for the next
ones. -/
structure Aligned (s : BodyStream) : Prop where
  formed : s.pieces.Formed
  pending_eq : s.pending = []
  unexhausted : s.exhausted = false
  unclosed : s.closed = false

/-- A stream begins between two pieces. -/
theorem aligned_ofWire (wire : Wire) (hc : 0 < chunkSize) : (ofWire wire chunkSize).Aligned :=
  ⟨⟨hc, nofun, hc, rfl⟩, rfl, rfl, rfl⟩

/-- A stream between two pieces has not come to its end. -/
theorem Aligned.sound (h : s.Aligned) : s.Sound where
  settled he := absurd (h.formed.open_wire.symm.trans he) Bool.false_ne_true
  exhausted he := absurd (h.unexhausted.symm.trans he) Bool.false_ne_true

/-- A read with too few bytes pending takes a piece first. -/
theorem read_of_needsMore {size : Int} (ho : s.closed = false) (hn : s.needsMore size = true) :
    s.read size = match s.pieces.next with
      | (.ok (some piece), pieces) =>
        read size { s with pieces, pending := s.pending ++ piece }
      | (.ok none, pieces) => read size { s with pieces, exhausted := true }
      | (.error failure, pieces) => (.error (Fault.failure failure).classified, { s with pieces }) := by
  rw [read, fill, if_pos hn]
  simp only [ho, Bool.false_eq_true, if_false]
  rcases s.pieces.next with ⟨failure | _ | piece, pieces⟩
  · rfl
  · simp [read, fill, needsMore]
  · simp [read]

/-- A read with enough bytes pending gives of them. -/
theorem read_of_enough {size : Int} (ho : s.closed = false) (hn : s.needsMore size = false) :
    s.read size = (.ok (s.give size).1, (s.give size).2) := by
  simp [read, fill, ho, hn]

/-- A read when nothing is left adds nothing to what was taken. -/
theorem read_at_end {wire : Wire} (hs : s.Sound) (ha : wire.Advances n m s.wire)
    (h : s.wire.parts = []) (size : Int) (k : Nat) :
    match s.read size with
    | (.ok _, s') => wire.Advances n k s'.wire ∧ s'.Sound ∧ s'.wire.parts = []
    | (.error _, _) => False := by
  rcases hr : s.read size with ⟨fault | bytes, s'⟩
  · obtain ⟨taken, failure, hparts⟩ := read_error hs hr
    rw [h] at hparts
    simp at hparts
  · obtain ⟨h₁, -, -, taken, hparts, -⟩ := read_ok hs hr
    rw [h, eq_comm, List.append_eq_nil_iff] at hparts
    exact ⟨ha.of_nil h hparts.2 k, h₁, hparts.2⟩

/-- What a read of `n` bytes between two pieces comes to, with `m` bytes wanted in whole pieces: no
part behind them is taken. Either the read gives what was asked for, and the stream is between two
pieces again if that was a whole one, or nothing is left. -/
def Foresees (s : BodyStream) (n m : Nat) : Except Fault Bytes × BodyStream → Prop
  | (.ok bytes, s') =>
    s.wire.Advances (m - s.pieces.held) (m - s.pieces.size - s'.pieces.held) s'.wire ∧
      (s'.Sound ∧ s'.wire.parts = [] ∨
        bytes.length = n ∧ s'.pieces.size = s.pieces.size ∧ (n = s.pieces.size → s'.Aligned))
  | (.error _, _) => s.wire.Breaks (m - s.pieces.held)

/-- A read of no more than a piece, from between two pieces, takes only parts that the wanted bytes
stand in. -/
theorem Aligned.foresees (h : s.Aligned) (hn : 0 < n) (hle : n ≤ s.pieces.size)
    (hm : s.pieces.size ≤ m) : s.Foresees n m (s.read n) := by
  have hneeds : s.needsMore n = true := by
    simp [needsMore, h.unexhausted, h.pending_eq, hn]
  have hnext := Pieces.next_advances h.formed hm
  rw [read_of_needsMore h.unclosed hneeds]
  rcases hp : s.pieces.next with ⟨failure | piece, pieces⟩
  · rw [hp] at hnext
    exact hnext
  rw [hp] at hnext
  obtain ⟨hadvances, hparts | ⟨hformed, hsize, full, rfl, hfull⟩⟩ := hnext
  · -- a short piece, or none: nothing is left, and the rest of the read takes nothing
    obtain ⟨hsettled, -, hnone, -⟩ := Pieces.next_ok h.sound.settled hp
    have hend : ∀ s₁ : BodyStream, s₁.Sound → s₁.pieces = pieces → s.Foresees n m (s₁.read n) := by
      rintro s₁ hs₁ rfl
      have hread := read_at_end hs₁ hadvances hparts n
      rcases hr : s₁.read n with ⟨fault | bytes, s'⟩
      · rw [hr] at hread
        exact (hread 0).elim
      · rw [hr] at hread
        exact ⟨(hread _).1, .inl (hread 0).2⟩
    cases piece with
    | none => exact hend _ ⟨hsettled, fun _ => hnone rfl⟩ rfl
    | some piece =>
      exact hend _ ⟨hsettled, fun he => absurd (h.unexhausted.symm.trans he) Bool.false_ne_true⟩ rfl
  · -- a full piece: enough bytes are pending
    dsimp only
    rw [read_of_enough (by exact h.unclosed) (by simp [needsMore, h.pending_eq, hfull, hle])]
    have hasked : ¬ (n : Int) < 0 := by omega
    refine ⟨hadvances, .inr ⟨?_, hsize, fun hwhole => ⟨hformed, ?_, h.unexhausted, h.unclosed⟩⟩⟩
    · simp [give, h.pending_eq, hasked, hfull, Nat.min_eq_left hle]
    · simp [give, h.pending_eq, hfull, hwhole]

/-! ## Draining -/

/-- How many bytes fill as many whole chunks as some bytes need. -/
def wanted (chunkSize bytes : Nat) : Nat := chunkSize * ((bytes + chunkSize - 1) / chunkSize)

@[simp] theorem wanted_zero (hc : 0 < chunkSize) : wanted chunkSize 0 = 0 := by
  rw [wanted, Nat.zero_add, Nat.div_eq_of_lt (by omega), Nat.mul_zero]

/-- After a read of at most a chunk, a chunk less is wanted. -/
theorem wanted_sub (hc : 0 < chunkSize) (bytes : Nat) :
    wanted chunkSize (bytes - min bytes chunkSize) = wanted chunkSize bytes - chunkSize := by
  rcases Nat.le_total chunkSize bytes with h | h
  · obtain ⟨more, rfl⟩ := Nat.exists_eq_add_of_le h
    have hadd : chunkSize + more + chunkSize - 1 = more + chunkSize - 1 + chunkSize := by omega
    rw [Nat.min_eq_right h, Nat.add_sub_cancel_left, wanted, wanted, hadd,
      Nat.add_div_right _ hc, Nat.mul_succ, Nat.add_sub_cancel]
  · rw [Nat.min_eq_left h, Nat.sub_self, wanted_zero hc]
    have hle : (bytes + chunkSize - 1) / chunkSize ≤ 1 := by
      rw [Nat.div_le_iff_le_mul_add_pred hc]
      omega
    have := Nat.mul_le_mul_left chunkSize hle
    rw [wanted]
    omega

/-- For any bytes at all a whole chunk is wanted. -/
theorem chunkSize_le_wanted (hc : 0 < chunkSize) {bytes : Nat} (hb : 0 < bytes) :
    chunkSize ≤ wanted chunkSize bytes :=
  Nat.le_mul_of_pos_right _ (Nat.div_pos (by omega) hc)

/-- No fewer bytes are wanted than are needed. -/
theorem le_wanted (hc : 0 < chunkSize) (bytes : Nat) : bytes ≤ wanted chunkSize bytes := by
  have hmod := Nat.mod_lt (bytes + chunkSize - 1) hc
  have hdiv := Nat.div_add_mod (bytes + chunkSize - 1) chunkSize
  rw [wanted]
  omega

/-- While bytes are wanted for a buffer, the stream is between two pieces, or nothing is left. -/
def Ready (s : BodyStream) (chunkSize : Nat) (b : BoundedBuffer) : Prop :=
  b.isFull = true ∨ (s.Aligned ∧ s.pieces.size = chunkSize) ∨ s.Sound ∧ s.wire.parts = []

/-- What one read of a capture comes to: no part behind the bytes that are wanted is taken, and
nothing is given only at the end. -/
def Serves (s : BodyStream) (chunkSize : Nat) (b : BoundedBuffer) :
    Except Fault Bytes × BodyStream → Prop
  | (.ok bytes, s') =>
    s.wire.Advances (wanted chunkSize b.remaining - s.pieces.held)
        (wanted chunkSize (b.write bytes).remaining - s'.pieces.held) s'.wire ∧
      s'.Ready chunkSize (b.write bytes) ∧ (bytes = [] → s'.wire.parts = [])
  | (.error _, _) => s.wire.Breaks (wanted chunkSize b.remaining - s.pieces.held)

/-- A round of the drain takes only parts that the rest of the buffer needs, and is ready for the
next round. -/
theorem Ready.read_serves {b : BoundedBuffer} (h : s.Ready chunkSize b) (hc : 0 < chunkSize)
    (hf : b.isFull = false) :
    s.Serves chunkSize b (s.read (min b.remaining chunkSize : Nat)) := by
  have hroom : 0 < b.remaining := Nat.pos_of_ne_zero (by simpa [BoundedBuffer.isFull] using hf)
  rcases h with h | ⟨ha, rfl⟩ | ⟨hs, hparts⟩
  · exact absurd (hf.symm.trans h) Bool.false_ne_true
  · have hread := ha.foresees (n := min b.remaining s.pieces.size) (by omega) (Nat.min_le_right _ _)
      (chunkSize_le_wanted hc hroom)
    rcases hr : s.read (min b.remaining s.pieces.size : Nat) with ⟨fault | bytes, s'⟩
    · rw [hr] at hread
      exact hread
    rw [hr] at hread
    obtain ⟨hadvances, hend | ⟨hlength, hsize, haligned⟩⟩ := hread
    · exact ⟨hadvances.of_nil hend.2 hend.2 _, .inr (.inr hend), fun _ => hend.2⟩
    have hremaining : (b.write bytes).remaining = b.remaining - min b.remaining s.pieces.size := by
      rw [BoundedBuffer.remaining_write_eq, hlength]
    refine ⟨by rwa [hremaining, wanted_sub hc], ?_, fun hnil => ?_⟩
    · -- a shorter read than a whole piece fills the buffer
      rcases Nat.lt_or_ge b.remaining s.pieces.size with hlt | hge
      · left
        simp only [BoundedBuffer.isFull, hremaining, beq_iff_eq]
        omega
      · exact .inr (.inl ⟨haligned (Nat.min_eq_right hge), hsize⟩)
    · rw [hnil, List.length_nil] at hlength
      omega
  · have hread := read_at_end hs (.refl (wanted chunkSize b.remaining - s.pieces.held) s.wire) hparts
      (min b.remaining chunkSize : Nat)
    rcases hr : s.read (min b.remaining chunkSize : Nat) with ⟨fault | bytes, s'⟩
    · rw [hr] at hread
      exact (hread 0).elim
    · rw [hr] at hread
      exact ⟨(hread _).1, .inr (.inr (hread 0).2), fun _ => (hread 0).2.2⟩

/-- A capture that succeeds takes exactly the shortest run of parts with the bytes that are wanted,
and one that fails found a failure among them. -/
theorem capture_ahead (hc : 0 < chunkSize) (b : BoundedBuffer) (s : BodyStream)
    (h : s.Ready chunkSize b) :
    match Drain.capture chunkSize b s with
    | (.ok _, s') => s.wire.Advances (wanted chunkSize b.remaining - s.pieces.held) 0 s'.wire
    | (.error _, _) => s.wire.Breaks (wanted chunkSize b.remaining - s.pieces.held) := by
  have hread : ∀ {b : BoundedBuffer} {s : BodyStream} {result : Except Fault Bytes × BodyStream},
      s.Ready chunkSize b → b.isFull = false →
      ByteSource.read (min b.remaining chunkSize) s = result → s.Serves chunkSize b result := by
    rintro b s _ h hf rfl
    have hasked : min (b.remaining : Int) chunkSize = (min b.remaining chunkSize : Nat) := by omega
    rw [hasked]
    exact h.read_serves hc hf
  -- On the reads: what one takes and what the rest take add up to what is wanted.
  fun_induction Drain.capture chunkSize b s with
  | case1 b s hf fault s' hr => exact hread h hf hr
  | case2 b s hf bytes s' hr hb ih =>
    obtain ⟨hadvances, hready, -⟩ := hread h hf hr
    have hrest := ih hready
    revert hrest
    rcases Drain.capture chunkSize (b.write bytes) s' with ⟨fault | b', s''⟩
    · exact hadvances.breaks
    · exact hadvances.trans
  | case3 b s hf bytes s' hr hb =>
    obtain ⟨hadvances, -, hnil⟩ := hread h hf hr
    have hend := hnil (by simpa using hb)
    exact hadvances.of_nil hend hend 0
  | case4 b s hf =>
    have hfull : b.remaining = 0 := by simpa [BoundedBuffer.isFull] using hf
    rw [hfull, wanted_zero hc, Nat.zero_sub]
    exact .refl 0 s.wire

/-- To close a stream takes nothing more from the wire. -/
theorem close_pulled (s : BodyStream) : s.close.wire.pulled = s.wire.pulled := by
  unfold close
  split
  · rfl
  · rfl

/-- A drain takes as many chunks as it leaves fewer. -/
theorem chunks_drain (demand : Demand) (s : BodyStream) :
    (drain chunkSize demand s).source.wire.chunks = s.wire.chunks := by
  have hread : ∀ n (s₁ : BodyStream) result s₂, s₁.wire.chunks = s.wire.chunks →
      ByteSource.read n s₁ = (result, s₂) → s₂.wire.chunks = s.wire.chunks := by
    rintro n s₁ result s₂ hs hr
    have hkeeps := (read_keeps Wire.chunks_pull n s₁).2
    rw [show s₁.read n = _ from hr] at hkeeps
    exact hkeeps.trans hs
  have hclose : ∀ s₁ : BodyStream, s₁.wire.chunks = s.wire.chunks →
      s₁.close.wire.chunks = s.wire.chunks := by
    intro s₁ hs
    rwa [Wire.chunks, close_pulled, close_parts]
  have hkeeps := Drain.drain_keeps (s := s) chunkSize
    (fun s₁ => s₁.wire.chunks = s.wire.chunks) (fun s₁ => s₁.wire.chunks = s.wire.chunks)
    (fun n s₁ s₂ _ hs hr => hread n s₁ _ s₂ hs hr) (fun n s₁ s₂ _ hs hr => hread n s₁ _ s₂ hs hr)
    hclose hclose demand rfl
  split at hkeeps
  · exact hkeeps
  · exact hkeeps

/-- A drain for the first bytes succeeds when no failure stands in the shortest run of parts with
the bytes that are wanted. It then leaves the parts behind the run, and gives the first bytes of the
run. -/
theorem drain_ahead (hc : 0 < chunkSize) (wire : Wire) (capacity : Int)
    (hrun : ∀ failure, .fail failure ∉ Wire.reaching (wanted chunkSize capacity.toNat) wire.parts) :
    let run := Wire.reaching (wanted chunkSize capacity.toNat) wire.parts
    let drained := drain chunkSize ⟨false, some capacity⟩ (ofWire wire chunkSize)
    drained.captured = .ok (some ((run.flatMap Wire.Part.bytes).take capacity.toNat)) ∧
      drained.source.wire.parts = Wire.beyond (wanted chunkSize capacity.toNat) wire.parts ∧
      drained.source.wire.pulled = wire.pulled + run.countP Wire.Part.isChunk := by
  intro run drained
  have hcapture :
      match Drain.capture chunkSize (.ofCapacity capacity) (ofWire wire chunkSize) with
      | (.ok _, s') => wire.Advances (wanted chunkSize capacity.toNat) 0 s'.wire
      | (.error _, _) => wire.Breaks (wanted chunkSize capacity.toNat) :=
    capture_ahead hc (.ofCapacity capacity) (ofWire wire chunkSize)
      (.inr (.inl ⟨aligned_ofWire wire hc, rfl⟩))
  rcases hr : Drain.capture chunkSize (.ofCapacity capacity) (ofWire wire chunkSize) with
    ⟨fault | b, s'⟩
  · rw [hr] at hcapture
    obtain ⟨failure, hf⟩ := hcapture
    exact absurd hf (hrun failure)
  rw [hr] at hcapture
  have hcaptured : drained.captured = .ok (some b.value) := by
    simp [drained, drain, hr, Except.map]
  have hparts : drained.source.wire.parts
      = Wire.beyond (wanted chunkSize capacity.toNat) wire.parts := by
    refine Eq.trans ?_ hcapture.parts_eq.1
    simp only [drained, drain, hr]
    exact close_parts s'
  obtain ⟨-, hvalue⟩ := Drain.drain_delivers hc (sound_ofWire wire chunkSize) hcaptured
  refine ⟨?_, hparts, ?_⟩
  · rw [hcaptured, hvalue, ← Wire.take_content wire (le_wanted hc _)]
    simp [LawfulSource.rest]
  · have hchunks : drained.source.wire.chunks = wire.chunks := chunks_drain _ _
    have hsplit := congrArg (List.countP Wire.Part.isChunk)
      (Wire.reaching_append_beyond (wanted chunkSize capacity.toNat) wire.parts)
    rw [List.countP_append] at hsplit
    rw [Wire.chunks, Wire.chunks, hparts] at hchunks
    dsimp only [run]
    omega

end BodyStream

end HttpCourier
