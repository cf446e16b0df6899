import HttpCourier.Proofs.Sources

/-!
# Drains under watch

A drain takes any source, so what it does to one is seen from a source that keeps a record:
`Watched` remembers the bytes that were taken and counts how often it was closed. The record changes
nothing, because a drain sees of its source only what it reads (`Drain.drain_map`). With it,
`Drain.serves` says what each consumer gets, how much of the source is taken for the first bytes
alone, and that the source is closed once on every path.
-/

namespace HttpCourier

open LawfulSource

/-! ## Sources that look alike -/

/-- A map of sources that changes nothing that a reader can see. -/
structure SourceMap {σ τ : Type} [ByteSource σ] [ByteSource τ] (f : τ → σ) : Prop where
  read_map : ∀ n t, ByteSource.read n (f t) = ((ByteSource.read n t).1, f (ByteSource.read n t).2)
  close_map : ∀ t, ByteSource.close (f t) = f (ByteSource.close t)
  left_map : ∀ t, ByteSource.left (f t) = ByteSource.left t

namespace Tee

variable {σ τ : Type} {f : τ → σ}

/-- A tee of the source that a source is mapped to. -/
def mapSource (f : τ → σ) (t : Tee τ) : Tee σ := { t with source := f t.source }

variable [ByteSource σ] [ByteSource τ]

/-- A tee of a mapped source closes as the tee of the source does. -/
theorem close_mapSource (hf : SourceMap f) (t : Tee τ) :
    (t.mapSource f).close = t.close.mapSource f := by
  unfold close
  rw [mapSource]
  split
  · rfl
  · cases t.owns <;> simp [mapSource, hf.close_map]

/-- Tees of sources that look alike look alike. -/
theorem sourceMap (hf : SourceMap f) : SourceMap (mapSource f) where
  read_map n t := by
    change Tee.read n (t.mapSource f) = ((Tee.read n t).1, (Tee.read n t).2.mapSource f)
    unfold Tee.read
    rw [mapSource, hf.read_map]
    rcases ByteSource.read n t.source with ⟨fault | bytes, source⟩ <;> rfl
  close_map := close_mapSource hf
  left_map t := hf.left_map t.source

end Tee

namespace Drain

variable {σ τ : Type} [ByteSource σ] [ByteSource τ] {f : τ → σ}

/-- A mapped source is copied as the source is, by induction on the reads. -/
theorem copy_map (hf : SourceMap f) (chunkSize : Nat) :
    ∀ (fuel : Nat) (t : τ) (written : Bytes),
      copy chunkSize fuel (f t) written
        = ((copy chunkSize fuel t written).1, (copy chunkSize fuel t written).2.1,
          f (copy chunkSize fuel t written).2.2) := by
  intro fuel
  induction fuel with
  | zero => exact fun _ _ => rfl
  | succ fuel ih =>
    intro t written
    rw [copy, copy, hf.read_map]
    rcases ByteSource.read chunkSize t with ⟨fault | bytes, t'⟩
    · rfl
    · cases bytes with
      | nil => rfl
      | cons byte bytes => exact ih t' _

/-- A mapped source is copied to its end as the source is. -/
theorem copyAll_map (hf : SourceMap f) (chunkSize : Nat) (t : τ) :
    copyAll chunkSize (f t)
      = ((copyAll chunkSize t).1, (copyAll chunkSize t).2.1, f (copyAll chunkSize t).2.2) := by
  rw [copyAll, hf.left_map, copy_map hf]
  rfl

/-- A mapped source is captured as the source is. -/
theorem capture_map (hf : SourceMap f) (chunkSize : Nat) (b : BoundedBuffer) (t : τ) :
    capture chunkSize b (f t)
      = ((capture chunkSize b t).1, f (capture chunkSize b t).2) := by
  fun_induction capture chunkSize b t with
  | case1 b t hroom fault t' hr => rw [capture, dif_pos hroom, hf.read_map, hr]
  | case2 b t hroom bytes t' hr hb ih =>
    rw [capture, dif_pos hroom, hf.read_map, hr]
    simp only [dif_pos hb, ih]
  | case3 b t hroom bytes t' hr hb =>
    rw [capture, dif_pos hroom, hf.read_map, hr]
    simp only [dif_neg hb]
  | case4 b t hfull => rw [capture, dif_neg hfull]

/-- A drain delivers the same from sources that look alike, and leaves sources that do. -/
theorem drain_map (hf : SourceMap f) (chunkSize : Nat) (demand : Demand) (t : τ) :
    drain chunkSize demand (f t)
      = { captured := (drain chunkSize demand t).captured,
          content := (drain chunkSize demand t).content,
          source := f (drain chunkSize demand t).source } := by
  obtain ⟨content, capacity⟩ := demand
  cases content with
  | true =>
    cases capacity with
    | none =>
      simp only [drain, copyAll_map hf]
      rw [hf.close_map]
    | some capacity =>
      have htee := copyAll_map (Tee.sourceMap hf) chunkSize
        { source := t, sink := .ofCapacity capacity }
      rw [Tee.mapSource] at htee
      simp only [drain, htee, Tee.close_mapSource hf]
      rfl
  | false =>
    cases capacity with
    | none =>
      simp only [drain]
      rw [hf.close_map]
    | some capacity =>
      simp only [drain, capture_map hf]
      rw [hf.close_map]

end Drain

/-! ## Watching a source -/

/-- A source with a record of its use. -/
structure Watched (σ : Type) where
  source : σ
  /-- The bytes that its reads gave. -/
  taken : Bytes := []
  /-- How often it was closed. -/
  closes : Nat := 0

namespace Watched

variable {σ : Type} [ByteSource σ]

/-- Reads the source, and records what it gave. -/
def read (size : Int) (w : Watched σ) : Except Fault Bytes × Watched σ :=
  match ByteSource.read size w.source with
  | (.ok bytes, source) => (.ok bytes, { w with source, taken := w.taken ++ bytes })
  | (.error fault, source) => (.error fault, { w with source })

/-- Closes the source, and counts it. -/
def close (w : Watched σ) : Watched σ :=
  { w with source := ByteSource.close w.source, closes := w.closes + 1 }

end Watched

instance {σ : Type} [ByteSource σ] : ByteSource (Watched σ) where
  read := Watched.read
  close := Watched.close
  left w := ByteSource.left w.source

namespace Watched

variable {σ : Type} [ByteSource σ] {n : Int} {w w' : Watched σ}

/-- A read is recorded with the bytes that it gave. -/
theorem read_ok {bytes : Bytes} (h : ByteSource.read n w = (.ok bytes, w')) :
    ByteSource.read n w.source = (.ok bytes, w'.source) ∧ w'.taken = w.taken ++ bytes ∧
      w'.closes = w.closes := by
  change Watched.read n w = _ at h
  unfold Watched.read at h
  split at h
  · obtain ⟨rfl, rfl⟩ := by simpa using h
    exact ⟨‹_›, rfl, rfl⟩
  · simp at h

/-- A read that failed gave nothing, and is not recorded. -/
theorem read_error {fault : Fault} (h : ByteSource.read n w = (.error fault, w')) :
    w'.taken = w.taken ∧ w'.closes = w.closes := by
  change Watched.read n w = _ at h
  unfold Watched.read at h
  split at h
  · simp at h
  · obtain ⟨-, rfl⟩ := by simpa using h
    exact ⟨rfl, rfl⟩

/-- Nobody who reads a source sees whether it is watched. -/
theorem sourceMap_source : SourceMap (Watched.source (σ := σ)) where
  read_map n w := by
    change ByteSource.read n w.source = ((Watched.read n w).1, (Watched.read n w).2.source)
    unfold Watched.read
    rcases ByteSource.read n w.source with ⟨fault | bytes, source⟩ <;> rfl
  close_map _ := rfl
  left_map _ := rfl

end Watched

instance {σ : Type} [ByteSource σ] [LawfulSource σ] : LawfulSource (Watched σ) where
  Sound w := Sound w.source
  rest w := rest w.source
  sound_of_read hs h := sound_of_read hs (Watched.read_ok h).1
  rest_of_read hs h := rest_of_read hs (Watched.read_ok h).1
  length_of_read hs h := length_of_read hs (Watched.read_ok h).1
  ended_of_read hs h := ended_of_read hs (Watched.read_ok h).1
  length_rest_le hs := length_rest_le (σ := σ) hs

/-! ## A source in memory -/

namespace MemorySource

variable {s s' : MemorySource} {n : Int} {bytes : Bytes}

/-- Memory gives the front of what it has left, as far as its limit goes. -/
theorem read_ok (h : ByteSource.read n s = (.ok bytes, s')) :
    bytes = s.data.take (s.amount n) ∧ s'.data = s.data.drop (s.amount n) ∧ s'.limit = s.limit := by
  change MemorySource.read n s = _ at h
  unfold MemorySource.read at h
  split at h
  · simp at h
  · obtain ⟨rfl, rfl⟩ := by simpa using h
    exact ⟨rfl, rfl, rfl⟩

/-- Unless reads are limited to no bytes at all, a read of some bytes gives between one of them and
all. -/
theorem amount_bounds (hl : s.limit ≠ some 0) (hn : 0 < n) :
    0 < s.amount n ∧ s.amount n ≤ n.toNat := by
  rw [amount, if_neg (by omega)]
  cases hlimit : s.limit with
  | none => exact ⟨by simpa using hn, Nat.le_refl _⟩
  | some limit =>
    have hpos : limit ≠ 0 := fun h => hl (by rw [hlimit, h])
    simp only [Option.elim_some]
    omega

end MemorySource

/-- A source in memory gives its bytes in order, unless reads are limited to none. -/
instance : LawfulSource MemorySource where
  Sound s := s.limit ≠ some 0
  rest s := s.data
  sound_of_read hs h _ := by
    rw [(MemorySource.read_ok h).2.2]
    exact hs
  rest_of_read _ h _ := by
    obtain ⟨hbytes, hdata, -⟩ := MemorySource.read_ok h
    rw [hbytes, hdata, List.take_append_drop]
  length_of_read hs h hn := by
    rw [(MemorySource.read_ok h).1, List.length_take]
    exact Nat.le_trans (Nat.min_le_left _ _) (MemorySource.amount_bounds hs hn).2
  ended_of_read hs h hn := by
    have hnil := (MemorySource.read_ok h).1
    rw [eq_comm, List.take_eq_nil_iff] at hnil
    exact hnil.resolve_left (Nat.ne_of_gt (MemorySource.amount_bounds hs hn).1)
  length_rest_le _ := Nat.le_refl _

/-! ## What a drain does -/

namespace Drain

variable {σ : Type} [ByteSource σ] {chunkSize : Nat} {s : σ}

/-- However a drain ends, it closed its source once. -/
theorem closes_drain (chunkSize : Nat) (demand : Demand) (s : σ) :
    (drain chunkSize demand ({ source := s } : Watched σ)).source.closes = 1 := by
  obtain ⟨last, hsource, hlast⟩ := drain_reads chunkSize (fun w : Watched σ => w.closes = 0)
    (fun w => w.closes = 0) (fun n w w' bytes hw hr => (Watched.read_ok hr).2.2.trans hw)
    (fun n w w' fault hw hr => (Watched.read_error hr).2.trans hw) demand
    (s := ({ source := s } : Watched σ)) rfl
  have hunclosed : last.closes = 0 := by split at hlast <;> exact hlast
  rw [hsource]
  exact congrArg (· + 1) hunclosed

variable [LawfulSource σ]

/-- However a copy ends, what it wrote is the start of what was to come. -/
theorem copy_prefix (hc : 0 < chunkSize) (hs : Sound s) (fuel : Nat) :
    (copy chunkSize fuel s []).2.1 <+: rest s := by
  have hcopy := copy_keeps chunkSize (fun s' written => Sound s' ∧ rest s = written ++ rest s')
    (fun _ written => written <+: rest s)
    (fun s₁ s₂ bytes written ⟨h₁, hrest⟩ hr => by
      refine ⟨sound_of_read h₁ hr (by omega), ?_⟩
      rw [hrest, rest_of_read h₁ hr (by omega), List.append_assoc])
    (fun s₁ s₂ fault written h _ => ⟨rest s₁, h.2.symm⟩) fuel s [] ⟨hs, rfl⟩
  rcases hresult : copy chunkSize fuel s [] with ⟨_ | fault, content, s'⟩
  · rw [hresult] at hcopy
    exact ⟨rest s', hcopy.2.symm⟩
  · rw [hresult] at hcopy
    exact hcopy

/-- However a drain ends, the sink holds the start of the body. -/
theorem content_prefix (hc : 0 < chunkSize) (hs : Sound s) (demand : Demand) :
    (drain chunkSize demand s).content <+: rest s := by
  obtain ⟨content, capacity⟩ := demand
  cases content with
  | true =>
    cases capacity with
    | none =>
      simp only [drain, copyAll]
      exact copy_prefix hc hs _
    | some capacity =>
      simp only [drain, copyAll]
      exact copy_prefix (σ := Tee σ) (s := { source := s, sink := .ofCapacity capacity }) hc hs _
  | false => cases capacity <;> exact List.nil_prefix

/-- What was taken from a source for the first bytes alone: they, and nothing that comes after them.
A drain that does not succeed took no others either. -/
theorem taken_of_no_content (hc : 0 < chunkSize) (hs : Sound s) (capacity : Option Int) :
    let watched := drain chunkSize ⟨false, capacity⟩ ({ source := s } : Watched σ)
    (∀ captured, watched.captured = .ok captured → watched.source.taken = captured.getD []) ∧
      watched.source.taken <+: (rest s).take (capacity.getD 0).toNat := by
  intro watched
  cases capacity with
  | none =>
    refine ⟨fun captured h => ?_, List.nil_prefix⟩
    obtain rfl : none = captured := Except.ok.inj h
    rfl
  | some capacity =>
    -- what the buffer holds is what was taken so far
    have hcapture := capture_keeps (σ := Watched σ) chunkSize
      (fun w b => Sound w ∧ rest s = w.taken ++ rest w ∧ w.taken = b.value ∧
        b.capacity = capacity.toNat)
      (fun w => w.taken <+: (rest s).take capacity.toNat)
      (fun w w' bytes b hf hkept hr => by
        obtain ⟨hw, hrest, htaken, hcap⟩ := hkept
        have hn := asked_pos hc hf
        have hall := (Watched.read_ok hr).2.1
        refine ⟨sound_of_read hw hr hn, ?_, ?_, hcap⟩
        · rw [hrest, rest_of_read hw hr hn, hall, List.append_assoc]
        · rw [hall, htaken, BoundedBuffer.value_write_of_fits (fits_of_read hc hf hw hr)])
      (fun w w' fault b hf hkept hr => by
        obtain ⟨-, hrest, htaken, hcap⟩ := hkept
        rw [(Watched.read_error hr).1]
        refine List.prefix_take_iff.2 ⟨⟨_, hrest.symm⟩, ?_⟩
        rw [htaken, ← hcap]
        exact b.length_le)
      (.ofCapacity capacity) { source := s } ⟨hs, rfl, rfl, rfl⟩
    simp only [watched, drain]
    revert hcapture
    rcases capture chunkSize _ ({ source := s } : Watched σ) with ⟨fault | b, w⟩
    · exact fun h => ⟨fun captured hcaptured => (by cases hcaptured), h⟩
    · rintro ⟨-, hrest, htaken, hcap⟩
      refine ⟨fun captured hcaptured => ?_, ?_⟩
      · obtain rfl : some b.value = captured := Except.ok.inj hcaptured
        exact htaken
      · refine List.prefix_take_iff.2 ⟨⟨_, hrest.symm⟩, ?_⟩
        change w.taken.length ≤ capacity.toNat
        rw [htaken, ← hcap]
        exact b.length_le

/-- A drain serves both consumers. Watching the source changes nothing. When the drain returns, the
sink holds the whole body, the captured bytes are the first ones up to the capacity, and each is so
whether or not the other is wanted: any two drains of the body agree, in whatever chunks and from
whatever source it was read. However it ends, the sink holds the start of the body, and the source
was closed once. Without the sink, the bytes that are taken from the source are those that are
captured. -/
theorem serves (hc : 0 < chunkSize) (hs : Sound s) (demand : Demand) :
    let drained := drain chunkSize demand s
    let watched := drain chunkSize demand ({ source := s } : Watched σ)
    (watched.captured = drained.captured ∧ watched.content = drained.content ∧
      watched.source.source = drained.source) ∧
    (∀ captured, drained.captured = .ok captured →
      drained.content = (if demand.content then rest s else []) ∧
      captured = demand.capacity.map fun capacity => (rest s).take capacity.toNat) ∧
    (∀ {τ : Type} [ByteSource τ] [LawfulSource τ] {chunkSize' : Nat} {t : τ} {demand' : Demand},
      0 < chunkSize' → Sound t → rest t = rest s → ∀ captured captured',
      drained.captured = .ok captured → (drain chunkSize' demand' t).captured = .ok captured' →
      (demand.content = demand'.content → drained.content = (drain chunkSize' demand' t).content) ∧
      (demand.capacity = demand'.capacity → captured = captured')) ∧
    drained.content <+: rest s ∧
    watched.source.closes = 1 ∧
    (demand.content = false →
      (∀ captured, drained.captured = .ok captured → watched.source.taken = captured.getD []) ∧
      watched.source.taken <+: (rest s).take (demand.capacity.getD 0).toNat) := by
  intro drained watched
  have hsame : drained = _ := drain_map Watched.sourceMap_source chunkSize demand { source := s }
  have hcaptured : drained.captured = watched.captured := by rw [hsame]
  have hcontent : drained.content = watched.content := by rw [hsame]
  have hsource : drained.source = watched.source.source := by rw [hsame]
  refine ⟨⟨hcaptured.symm, hcontent.symm, hsource.symm⟩, fun _ => drain_delivers hc hs, ?_,
    content_prefix hc hs demand, closes_drain chunkSize demand s, ?_⟩
  · intro τ _ _ chunkSize' t demand' hc' ht hrest captured captured' h h'
    obtain ⟨hall, hfirst⟩ := drain_delivers hc hs h
    obtain ⟨hall', hfirst'⟩ := drain_delivers hc' ht h'
    refine ⟨fun hd => ?_, fun hd => ?_⟩
    · rw [hall', ← hd, hrest]
      exact hall
    · rw [hfirst, hfirst', hd, hrest]
  · intro hd
    obtain ⟨_, capacity⟩ := demand
    obtain rfl := hd
    obtain ⟨htaken, hfirst⟩ := taken_of_no_content hc hs capacity
    exact ⟨fun captured h => htaken captured (hcaptured.symm.trans h), hfirst⟩

/-- Seven bytes, of which a read gives at most two. -/
def slowMemory : MemorySource := { data := [1, 2, 3, 4, 5, 6, 7], limit := some 2 }

/-- Seven bytes, read at most two at a time: a response gets all of them, an attribute the first
five, and after a failure there is a front of them. -/
theorem serves_slowMemory :
    let both := drain 3 ⟨true, some 5⟩ slowMemory
    let first := drain 3 ⟨false, some 5⟩ slowMemory
    let broken := drain 3 ⟨true, none⟩ { slowMemory with failAfter := some 2 }
    0 < 3 ∧ Sound slowMemory ∧
      both.captured = .ok (some [1, 2, 3, 4, 5]) ∧ both.content = [1, 2, 3, 4, 5, 6, 7] ∧
      first.captured = both.captured ∧
      (drain 3 ⟨false, some 5⟩ ({ source := slowMemory } : Watched MemorySource)).source.taken
        = [1, 2, 3, 4, 5] ∧
      broken.captured.isOk = false ∧ broken.content <+: [1, 2, 3, 4, 5, 6, 7] := by
  intro both first broken
  have hchunk : 0 < 3 := by decide
  have hlimit : slowMemory.limit ≠ some 0 := by decide
  have hsound : Sound slowMemory := hlimit
  have hboth : both.captured = .ok (some [1, 2, 3, 4, 5]) := rfl
  have hfirst : first.captured = .ok (some [1, 2, 3, 4, 5]) := by
    with_unfolding_all rfl
  obtain ⟨-, hdelivered, -, -, -, -⟩ := serves hchunk hsound ⟨true, some 5⟩
  obtain ⟨-, -, -, -, -, htaken⟩ := serves hchunk hsound ⟨false, some 5⟩
  obtain ⟨-, -, -, hprefix, -, -⟩ :=
    serves (s := { slowMemory with failAfter := some 2 }) hchunk hlimit ⟨true, none⟩
  exact ⟨hchunk, hsound, hboth, (hdelivered _ hboth).1, hfirst.trans hboth.symm,
    (htaken rfl).1 _ hfirst, rfl, hprefix⟩

end Drain

end HttpCourier
