import HttpCourier.Proofs.Calls

/-!
# The lifecycle of a processor

A `Diary` is a processor with the transports that were put in use, and `Diary.Coupled` says what is
known of its lifecycle, its holder and its duty after every run of calls (`coupled_run`).

Between calls a processor should run exactly when a handle is in use (`Diary.Lawful`). A call that
strands a handle breaks this: the processor then keeps a handle that it does not run with, and that
a stop does not close. `lifecycle_after_calls` has the law for all other calls, and what holds all
the same after such a call.
-/

namespace HttpCourier

open Step

namespace Processor

variable {p : Processor}

/-! ## Handles -/

/-- What is kept of a handle between calls: nobody has a lease on it; it was closed once, unless it
is in use; and but for the state of its client it is the transport that was built. -/
structure Kept (s : Holder.Slot Transport) (inUse : Prop) (built : Transport) : Prop where
  leases_eq : s.leases = 0
  retired_eq : s.retired = false
  open_of_inUse : inUse → s.closes = 0
  closed_of_not : ¬ inUse → s.closes = 1 ∧ s.handle.closed = true
  handle_eq : { s.handle with client := built.client } = built

namespace Kept

variable {s : Holder.Slot Transport} {inUse : Prop} {built : Transport}

/-- A handle that was just built. -/
theorem new (built : Transport) : Kept { handle := built } True built :=
  ⟨rfl, rfl, fun _ => rfl, fun h => (h trivial).elim, rfl⟩

/-- A handle that is dropped is closed. -/
theorem letGo (h : Kept s True built) : Kept s.letGo False built := by
  rw [Holder.Slot.letGo, if_pos h.leases_eq]
  refine ⟨h.leases_eq, rfl, False.elim, fun _ => ⟨?_, rfl⟩, h.handle_eq⟩
  rw [Holder.Slot.close, h.open_of_inUse trivial]

/-- The client of the handle in use gets into another state. -/
theorem withClient (h : Kept s True built) (client : Client) :
    Kept { s with handle := { s.handle with client } } True built :=
  ⟨h.leases_eq, h.retired_eq, h.open_of_inUse, fun hn => (hn trivial).elim, h.handle_eq⟩

end Kept

/-- The handles of a holder are the transports that were put in use, in their order; the last one
may be in use, and all others were closed. -/
structure InOrder (holder : Holder Transport) (builds : List (Config × Transport)) : Prop where
  last : ∀ number, holder.current = some number → number + 1 = builds.length
  length_eq : holder.slots.length = builds.length
  slot : ∀ number s config transport, holder.slot? number = some s →
    builds[number]? = some (config, transport) → Kept s (holder.current = some number) transport

namespace InOrder

variable {holder : Holder Transport} {builds : List (Config × Transport)} {number : Nat}

/-- A new holder has no handles. -/
theorem new : InOrder {} [] := ⟨nofun, rfl, fun _ _ _ _ h => (nomatch h)⟩

/-- Every handle was built for a configuration. -/
theorem exists_build (h : InOrder holder builds) {s : Holder.Slot Transport}
    (hs : holder.slot? number = some s) :
    ∃ config transport, builds[number]? = some (config, transport) ∧
      Kept s (holder.current = some number) transport := by
  have hlt : number < builds.length := by
    rw [← h.length_eq]
    exact (List.getElem?_eq_some_iff.1 hs).1
  have hb : builds[number]? = some (builds[number].1, builds[number].2) := List.getElem?_eq_getElem hlt
  exact ⟨_, _, hb, h.slot _ _ _ _ hs hb⟩

/-- The handle in use is there. -/
theorem exists_slot (h : InOrder holder builds) (hc : holder.current = some number) :
    ∃ s, holder.slot? number = some s := by
  have hlast := h.last number hc
  have hlt : number < holder.slots.length := by
    rw [h.length_eq]
    omega
  exact ⟨_, List.getElem?_eq_getElem hlt⟩

/-- Nobody has a lease on the handle in use, so it is closed as soon as it is replaced. -/
theorem swap_log (h : InOrder holder builds) (next : Option Nat) (more : List (Holder.Slot Transport)) :
    (({ holder with slots := holder.slots ++ more } : Holder Transport).swap next).2 = [] := by
  unfold Holder.swap
  cases hc : holder.current with
  | none => rfl
  | some previous =>
    obtain ⟨s, hs⟩ := h.exists_slot hc
    obtain ⟨_, _, -, hkept⟩ := h.exists_build hs
    have hs' : ({ slots := holder.slots ++ more, current := next } : Holder Transport).slot? previous
        = some s := by
      rw [Holder.slot?, List.getElem?_append_left (List.getElem?_eq_some_iff.1 hs).1]
      exact hs
    simp only [Holder.retire, hs', hkept.leases_eq, if_true]

/-- To put a transport in use defers the close of none: nobody had a lease on the one before. -/
theorem install_log (h : InOrder holder builds) (transport : Transport) :
    (holder.install transport).2 = [] := h.swap_log _ _

/-- To drop the transport in use defers no close: nobody had a lease on it. -/
theorem clear_log (h : InOrder holder builds) : holder.clear.2 = [] := by
  have hlog := h.swap_log none []
  rwa [List.append_nil] at hlog

/-- A handle that was dropped or was not in use is kept out of use. -/
theorem slot_dropped (h : InOrder holder builds) {s : Holder.Slot Transport} {config : Config}
    {transport : Transport} (hs : holder.slot? number = some s)
    (hb : builds[number]? = some (config, transport)) :
    Kept (if holder.current = some number then s.letGo else s) False transport := by
  have hkept := h.slot _ _ _ _ hs hb
  by_cases hc : holder.current = some number
  · rw [eq_true hc] at hkept
    rw [if_pos hc]
    exact hkept.letGo
  · rw [eq_false hc] at hkept
    rw [if_neg hc]
    exact hkept

/-- A transport that is put in use comes last, and the one before it is closed. -/
theorem install (h : InOrder holder builds) (config : Config) (transport : Transport) :
    InOrder (holder.install transport).1 (builds ++ [(config, transport)]) := by
  have hcurrent : (holder.install transport).1.current = some holder.slots.length :=
    Holder.swap_current _ _
  refine ⟨fun number hc => ?_, ?_, fun number s config' transport' hs hb => ?_⟩
  · obtain rfl := Option.some.inj (hcurrent.symm.trans hc)
    rw [h.length_eq, List.length_append, List.length_singleton]
  · rw [Holder.install, Holder.length_slots_swap, List.length_append, List.length_append, h.length_eq]
    rfl
  · rw [Holder.install, Holder.slot?_swap, Option.map_eq_some_iff] at hs
    obtain ⟨s, hs, rfl⟩ := hs
    rw [hcurrent]
    rcases Nat.lt_trichotomy number builds.length with hn | hn | hn
    · have hold : holder.slots.length ≠ number := by
        rw [h.length_eq]
        exact Nat.ne_of_gt hn
      rw [Holder.slot?, List.getElem?_append_left (by rw [h.length_eq]; exact hn)] at hs
      rw [List.getElem?_append_left hn] at hb
      rw [Option.some.injEq, eq_false hold]
      exact h.slot_dropped hs hb
    · rw [Holder.slot?, hn, ← h.length_eq, List.getElem?_concat_length] at hs
      rw [hn, List.getElem?_concat_length] at hb
      cases hs
      cases hb
      have hnew : ¬ holder.current = some number := fun hc => by
        have := h.last number hc
        omega
      rw [if_neg hnew, h.length_eq, hn, eq_true rfl]
      exact Kept.new transport
    · rw [List.getElem?_eq_none (by simp; omega)] at hb
      cases hb

/-- After the handle in use is dropped, none is. -/
theorem clear (h : InOrder holder builds) : InOrder holder.clear.1 builds := by
  have hcurrent : holder.clear.1.current = none := Holder.swap_current _ _
  refine ⟨fun number hc => (nomatch hcurrent.symm.trans hc), ?_,
    fun number s config transport hs hb => ?_⟩
  · rw [← h.length_eq]
    exact Holder.length_slots_swap _ _
  · rw [Holder.clear, Holder.slot?_swap, Option.map_eq_some_iff] at hs
    obtain ⟨s, hs, rfl⟩ := hs
    rw [hcurrent, eq_false (Option.some_ne_none number).symm]
    exact h.slot_dropped hs hb

/-- The client of the handle in use gets into another state. -/
theorem put (h : InOrder holder builds) {s : Holder.Slot Transport}
    (hc : holder.current = some number) (hs : holder.slot? number = some s) (client : Client) :
    InOrder (holder.put number { s.handle with client }) builds where
  last := h.last
  length_eq := by
    rw [← h.length_eq]
    exact List.length_modify _ _ _
  slot other s' config transport hs' hb := by
    simp only [Holder.put, Holder.slot?_modify, Option.map_eq_some_iff] at hs'
    obtain ⟨s', hs', rfl⟩ := hs'
    have hkept := h.slot _ _ _ _ hs' hb
    by_cases ho : number = other
    · subst ho
      cases hs.symm.trans hs'
      rw [eq_true hc] at hkept
      rw [if_pos rfl]
      simpa only [Holder.put, Holder.modify, hc] using hkept.withClient client
    · rw [if_neg ho]
      exact hkept

end InOrder

/-! ## Diaries -/

/-- A processor with the transports that were put in use, in order, each with the configuration it
was built for, and those of them whose schedules succeeded. -/
structure Diary where
  processor : Processor
  builds : List (Config × Transport) := []
  schedules : List (Config × Transport) := []

namespace Diary

/-- One call. -/
def step (d : Diary) (call : Call) : Diary :=
  let ended := call.perform d.processor
  { processor := ended.2
    builds := d.builds ++ (call.installed? d.processor).toList
    schedules := d.schedules ++ (call.scheduled? ended.1).toList }

/-- A sequence of calls on a new processor. -/
def run (chunkSize : Nat) (calls : List Call) : Diary :=
  calls.foldl step { processor := { chunkSize } }

/-- The last call is made on what the others leave. -/
theorem run_concat (chunkSize : Nat) (calls : List Call) (call : Call) :
    run chunkSize (calls ++ [call]) = (run chunkSize calls).step call := by
  rw [run, List.foldl_append]
  rfl

/-- What a processor works under while it runs: the handle in use is open, and it and the duty are
those of the last schedule that succeeded, which is also the last transport that was put in use. -/
def Employed (d : Diary) : Prop :=
  ∃ before earlier config transport duty s,
    d.schedules = before ++ [(config, transport)] ∧ d.builds = earlier ++ [(config, transport)] ∧
    Duty.ofConfig config = .ok duty ∧ d.processor.duty = some duty ∧
    d.processor.holder.current = some earlier.length ∧
    d.processor.holder.slot? earlier.length = some s ∧ s.closes = 0 ∧
    { s.handle with client := transport.client } = transport

/-- Between calls nobody has a lease on a handle, and every handle was closed once unless it is in
use. -/
def Closed (d : Diary) : Prop :=
  ∀ number s, d.processor.holder.slot? number = some s → s.leases = 0 ∧
    (d.processor.holder.current ≠ some number → s.closes = 1 ∧ s.handle.closed = true)

/-- How lifecycle, holder and duty should go together. -/
structure Lawful (d : Diary) : Prop where
  running_iff : d.processor.lifecycle = .running ↔ d.processor.holder.current.isSome
  employed : d.processor.lifecycle = .running → d.Employed
  closed : d.Closed

/-- How lifecycle, holder and duty do go together. -/
structure Coupled (d : Diary) : Prop where
  inOrder : InOrder d.processor.holder d.builds
  /-- The transport in use while the processor runs is that of the last schedule that succeeded. -/
  running : d.processor.lifecycle = .running → ∃ before earlier config transport duty,
    d.schedules = before ++ [(config, transport)] ∧ d.builds = earlier ++ [(config, transport)] ∧
    Duty.ofConfig config = .ok duty ∧ d.processor.duty = some duty ∧
    d.processor.holder.current = some earlier.length

variable {d : Diary}

/-- A new processor has no handle and no duty, and does not run. -/
theorem coupled_new (chunkSize : Nat) : Coupled { processor := { chunkSize } } :=
  ⟨InOrder.new, nofun⟩

/-- Between calls every handle was closed once unless it is in use. -/
theorem Coupled.closed (h : d.Coupled) : d.Closed := by
  intro number s hs
  obtain ⟨_, _, -, hkept⟩ := h.inOrder.exists_build hs
  exact ⟨hkept.leases_eq, hkept.closed_of_not⟩

/-- A processor that runs works with what the last schedule that succeeded gave it. -/
theorem Coupled.employed (h : d.Coupled) (hl : d.processor.lifecycle = .running) : d.Employed := by
  obtain ⟨before, earlier, config, transport, duty, hsch, hbuilds, hduty, hd, hc⟩ := h.running hl
  obtain ⟨s, hs⟩ := h.inOrder.exists_slot hc
  have hb : d.builds[earlier.length]? = some (config, transport) := by
    rw [hbuilds]
    exact List.getElem?_concat_length
  have hkept := h.inOrder.slot _ _ _ _ hs hb
  exact ⟨before, earlier, config, transport, duty, s, hsch, hbuilds, hduty, hd, hc, hs,
    hkept.open_of_inUse hc, hkept.handle_eq⟩

/-- All that can go wrong is that a handle is in use while the processor does not run. -/
theorem Coupled.lawful_iff (h : d.Coupled) :
    d.Lawful ↔ (d.processor.holder.current.isSome → d.processor.lifecycle = .running) := by
  refine ⟨fun hl => hl.running_iff.2, fun hrun => ⟨⟨fun hl => ?_, hrun⟩, h.employed, h.closed⟩⟩
  obtain ⟨_, _, _, _, _, -, -, -, -, hc⟩ := h.running hl
  rw [hc]
  rfl

/-- A processor that runs can be triggered. -/
theorem Coupled.ready (h : d.Coupled) (hl : d.processor.lifecycle = .running) :
    Ready d.processor := by
  obtain ⟨_, _, _, _, duty, -, -, -, hd, hc⟩ := h.running hl
  obtain ⟨s, hs⟩ := h.inOrder.exists_slot hc
  obtain ⟨_, _, -, hkept⟩ := h.inOrder.exists_build hs
  exact ⟨_, s, duty, hc, hs, hkept.retired_eq, hd⟩

/-- Every call ends in one of the ways. -/
theorem Coupled.ends (h : d.Coupled) (call : Call) (hconf : call.Configured) :
    call.Ends d.processor (call.perform d.processor).1 (call.perform d.processor).2 := by
  cases call with
  | schedule config built =>
    obtain ⟨data, hread⟩ := hconf
    refine Yields.both (fun result p => Call.Ends d.processor (.schedule config built)
      (result.map fun _ => none) p) ?_
    exact schedule_ends h.inOrder.install_log hread built
  | stop =>
    refine Yields.both (fun result p => Call.Ends d.processor .stop
      (result.map fun _ => none) p) ?_
    exact stop_ends h.inOrder.clear_log
  | trigger desk network hasIncoming now =>
    let f : Floor := { processor := d.processor, desk, network }
    refine Yields.both (fun result (f' : Floor) => Call.Ends f.processor
      (.trigger desk network hasIncoming now) result f'.processor) ?_
    exact trigger_ends h.ready hasIncoming now

/-! ## What each call keeps -/

/-- A call that puts nothing in use leaves the lists as they are. -/
theorem coupled_of_unscheduled {call : Call} {result : Except Fault (Option Outcome)} {p : Processor}
    (hinstalled : call.installed? d.processor = none) (hscheduled : call.scheduled? result = none)
    (h : Coupled { d with processor := p }) :
    Coupled {
      processor := p, builds := d.builds ++ (call.installed? d.processor).toList
      schedules := d.schedules ++ (call.scheduled? result).toList } := by
  rw [hinstalled, hscheduled, Option.toList_none, List.append_nil, List.append_nil]
  exact h

/-- However a call ends, lifecycle, holder and duty still go together. -/
theorem Coupled.of_ends (h : d.Coupled) {call : Call} {result : Except Fault (Option Outcome)}
    {p : Processor} (he : call.Ends d.processor result p) :
    Coupled {
      processor := p, builds := d.builds ++ (call.installed? d.processor).toList
      schedules := d.schedules ++ (call.scheduled? result).toList } := by
  cases he with
  | @busy config built hl =>
    refine coupled_of_unscheduled ?_ ?_ h
    · rcases built with fault | ⟨transport, log⟩
      · rfl
      · exact if_pos hl
    · rcases built with fault | ⟨transport, log⟩ <;> rfl
  | invalid hl hc => exact coupled_of_unscheduled rfl rfl ⟨h.inOrder, nofun⟩
  | unbuilt hl hc => exact coupled_of_unscheduled rfl rfl h
  | @stranded config transport log e hl hfield hd =>
    have hinstalled : (Call.schedule config (.ok (transport, log))).installed? d.processor
        = some (config, transport) := if_neg hl
    rw [hinstalled]
    exact ⟨h.inOrder.install config transport, fun hrun => (hl hrun).elim⟩
  | @scheduled config transport log field duty hl hfield hd =>
    have hinstalled : (Call.schedule config (.ok (transport, log))).installed? d.processor
        = some (config, transport) := if_neg hl
    rw [hinstalled]
    refine ⟨h.inOrder.install config transport, fun _ =>
      ⟨d.schedules, d.builds, config, transport, duty, rfl, rfl, hd, rfl, ?_⟩⟩
    rw [← h.inOrder.length_eq]
    exact Holder.swap_current _ _
  | idle hl => exact coupled_of_unscheduled rfl rfl h
  | stopped hl => exact coupled_of_unscheduled rfl rfl ⟨h.inOrder.clear, nofun⟩
  | refused hl => exact coupled_of_unscheduled rfl rfl h
  | triggered hl hc hs hf =>
    exact coupled_of_unscheduled rfl rfl ⟨h.inOrder.put hc hs _, fun hrun => h.running hrun⟩

/-- The coupling is kept by every call, however it ends. -/
theorem Coupled.step (h : d.Coupled) (call : Call) (hconf : call.Configured) :
    (d.step call).Coupled :=
  h.of_ends (h.ends call hconf)

/-- Lifecycle, holder and duty go together after every sequence of calls. -/
theorem coupled_run (chunkSize : Nat) (calls : List Call)
    (hconf : ∀ call ∈ calls, call.Configured) : (run chunkSize calls).Coupled := by
  suffices h : ∀ d : Diary, d.Coupled → (calls.foldl Diary.step d).Coupled from
    h _ (coupled_new chunkSize)
  induction calls with
  | nil => exact fun _ => id
  | cons call calls ih =>
    rw [List.forall_mem_cons] at hconf
    exact fun d h => ih hconf.2 _ (h.step call hconf.1)

end Diary

namespace Diary

variable {d : Diary}

/-- A call that strands no handle keeps the law. -/
theorem Coupled.lawful_step (h : d.Coupled) (hd : d.Lawful) {call : Call} (hconf : call.Configured)
    (hs : ¬ call.Strands d.processor) : (d.step call).Lawful :=
  (h.step call hconf).lawful_iff.2 ((h.ends call hconf).running_of_current hs hd.running_iff.2)

/-- A schedule that strands a handle breaks the law. -/
theorem Coupled.not_lawful_step (h : d.Coupled) {call : Call} (hconf : call.Configured)
    (hs : call.Strands d.processor) : ¬ (d.step call).Lawful := by
  intro hlaw
  obtain ⟨hc, hsame, hidle⟩ := (h.ends call hconf).current_of_strands hs
  exact hidle (hsame ▸ hlaw.running_iff.2 hc)

/-- The law holds all along a run exactly when no call of it strands a handle. -/
theorem lawful_iff_not_strands (chunkSize : Nat) {calls : List Call}
    (hconf : ∀ call ∈ calls, call.Configured) :
    (∀ earlier, earlier <+: calls → (run chunkSize earlier).Lawful) ↔
      ∀ earlier call, earlier ++ [call] <+: calls →
        ¬ call.Strands (run chunkSize earlier).processor := by
  have hmem : ∀ {earlier call}, earlier ++ [call] <+: calls →
      call.Configured ∧ (run chunkSize earlier).Coupled := fun hpre =>
    ⟨hconf _ (hpre.subset List.mem_concat_self), coupled_run _ _ fun c hc =>
      hconf c (hpre.subset (List.mem_append_left _ hc))⟩
  constructor
  · intro hlaw earlier call hpre hs
    obtain ⟨hcall, hcoupled⟩ := hmem hpre
    exact hcoupled.not_lawful_step hcall hs (run_concat chunkSize earlier call ▸ hlaw _ hpre)
  · intro hnone earlier
    induction earlier using List.reverseRecOn with
    | nil => exact fun _ => (coupled_new chunkSize).lawful_iff.2 nofun
    | append_singleton earlier call ih =>
      intro hpre
      obtain ⟨hcall, hcoupled⟩ := hmem hpre
      rw [run_concat]
      exact hcoupled.lawful_step (ih ((List.prefix_append _ _).trans hpre)) hcall (hnone _ _ hpre)

/-- After a stop every handle was closed once, unless a stopped processor still had one in use. -/
theorem Coupled.closed_of_stop_iff (h : d.Coupled) :
    (∀ number s, (Call.stop.perform d.processor).2.holder.slot? number = some s →
      s.closes = 1 ∧ s.handle.closed = true) ↔
      ¬ (d.processor.lifecycle = .stopped ∧ d.processor.holder.current.isSome) := by
  have hcurrent := ((h.ends .stop trivial).stopped_of_stop).2.2
  have hstep : (d.step .stop).Coupled := h.step .stop trivial
  constructor
  · rintro hall ⟨hl, hc⟩
    obtain ⟨number, hc⟩ := Option.isSome_iff_exists.1 hc
    rw [if_pos hl, hc] at hcurrent
    obtain ⟨s, hs⟩ := hstep.inOrder.exists_slot hcurrent
    obtain ⟨_, _, -, hkept⟩ := hstep.inOrder.exists_build hs
    exact nomatch (hall number s hs).1.symm.trans (hkept.open_of_inUse hcurrent)
  · intro hno number s hs
    refine (hstep.closed number s hs).2 fun hc => ?_
    have hc := hcurrent.symm.trans hc
    split at hc
    · next hl => exact hno ⟨hl, by rw [hc]; rfl⟩
    · cases hc

end Diary

open Diary in
/-- The lifecycle of a processor, over any calls with configurations that were accepted and with
builds that come to anything. All along the run the processor runs exactly when a handle is in use,
and the handle, the configuration and the assembler are then those of the last schedule that
succeeded, exactly when no call strands a handle: puts a transport in use whose configuration has
credentials that cannot be encoded.

After any calls, with or without such ones: a processor that runs works under its last schedule;
there is one handle for each transport that was put in use, nobody has a lease on it between calls,
and it was closed once unless it is in use. Every further call ends in one of the ways of `Ends`,
becomes invalid only by a build that finds the configuration unusable, moves legally, and reports no
illegal move. A trigger finds a transport whenever it is accepted, and otherwise leaves its desk and
network as they were too. After a stop all handles were closed once, unless the processor was
stopped already and a handle was left in use. -/
theorem lifecycle_after_calls (chunkSize : Nat) (calls : List Call)
    (configured : ∀ call ∈ calls, call.Configured) :
    let d := Diary.run chunkSize calls
    let p := d.processor
    ((∀ earlier, earlier <+: calls → (Diary.run chunkSize earlier).Lawful) ↔
      ∀ earlier call, earlier ++ [call] <+: calls →
        ¬ call.Strands (Diary.run chunkSize earlier).processor) ∧
    (p.lifecycle = .running → d.Employed) ∧
    p.holder.slots.length = d.builds.length ∧
    d.Closed ∧
    (∀ call : Call, call.Configured →
      let ended := call.perform p
      call.Ends p ended.1 ended.2 ∧
      (ended.2.lifecycle = .invalid → p.lifecycle = .invalid ∨
        ∃ config fault, call = .schedule config (.error fault) ∧ isConfiguration fault = true) ∧
      (ended.2.lifecycle = p.lifecycle ∨ p.lifecycle.allows ended.2.lifecycle = true) ∧
      ∃ built own, ended.2.log = p.log ++ (built ++ own) ∧
        (built = [] ∨ ∃ config transport, call = .schedule config (.ok (transport, built))) ∧
        ∀ record ∈ own, record.event ≠ "illegal_state_transition") ∧
    (∀ f : Floor, f.processor = p → ∀ hasIncoming now,
      (Step.on f (trigger hasIncoming now)).1 ≠ .error .noTransport ∧
      (p.lifecycle ≠ .running → Step.on f (trigger hasIncoming now)
        = (.error (.refused ⟨p.lifecycle, .running⟩), f))) ∧
    ((∀ number s, (Call.stop.perform p).2.holder.slot? number = some s →
      s.closes = 1 ∧ s.handle.closed = true) ↔
      ¬ (p.lifecycle = .stopped ∧ p.holder.current.isSome)) := by
  intro d p
  have h : d.Coupled := coupled_run chunkSize calls configured
  refine ⟨lawful_iff_not_strands chunkSize configured, h.employed, h.inOrder.length_eq, h.closed, ?_, ?_,
    h.closed_of_stop_iff⟩
  · intro call hconf ended
    have he : call.Ends p ended.1 ended.2 := h.ends call hconf
    exact ⟨he, he.unusable_of_invalid, he.legal, he.log⟩
  · rintro ⟨_, desk, network⟩ rfl hasIncoming now
    have he := h.ends (.trigger desk network hasIncoming now) trivial
    exact ⟨he.trigger_ne_noTransport, fun hl => trigger_refused hl hasIncoming now⟩

/-- Two schedules that succeed, with a stop and two builds that fail between them; the second call
comes while the processor runs. -/
def rescheduled : List Call :=
  let config : Config := { request := { url := "http://example.com/r" } }
  let transport : Transport := { config := {}, client := {} }
  [.schedule config (.ok (transport, [])), .schedule config (.ok (transport, [])), .stop,
    .schedule config (.error (.report .configuration "no such key")),
    .schedule config (.error .emptyPieces), .schedule config (.ok (transport, []))]

/-- After two schedules that succeed, with a stop and two failed builds between them, the processor
runs with the second transport, and the first was closed once. -/
theorem lifecycle_after_calls_rescheduled :
    let d := Diary.run 1024 rescheduled
    let p := d.processor
    (∀ call ∈ rescheduled, call.Configured) ∧ d.Lawful ∧ p.lifecycle = .running ∧
      d.schedules.length = 2 ∧ p.holder.slots.length = d.builds.length ∧
      (∃ s, p.holder.slot? 0 = some s ∧ s.closes = 1 ∧ s.handle.closed = true) ∧
      (∃ s, (Call.stop.perform p).2.holder.slot? 1 = some s ∧ s.closes = 1) ∧
      ∀ hasIncoming now, (Step.on { processor := p, desk := {}, network := {} : Floor }
        (trigger hasIncoming now)).1 ≠ .error .noTransport := by
  intro d p
  have hread : Config.read (.map [(.text "request", .map [(.text "url",
      .text "http://example.com/r")])]) = .accepted { request := { url := "http://example.com/r" } } := by
    rfl
  have configured : ∀ call ∈ rescheduled, call.Configured := by
    simp only [rescheduled, List.forall_mem_cons, List.not_mem_nil, false_imp_iff, implies_true,
      and_true]
    exact ⟨⟨_, hread⟩, ⟨_, hread⟩, trivial, ⟨_, hread⟩, ⟨_, hread⟩, ⟨_, hread⟩⟩
  obtain ⟨hlaw, -, hlength, hclosed, -, htrigger, hstop⟩ :=
    lifecycle_after_calls 1024 rescheduled configured
  have hnone : ∀ call ∈ rescheduled, ∀ p, ¬ call.Strands p := by
    simp only [rescheduled, List.forall_mem_cons, List.not_mem_nil, false_imp_iff, implies_true,
      and_true, Call.Strands, not_false_eq_true, true_and]
    refine ⟨?_, ?_, ?_⟩ <;> exact fun p ⟨_, e, he⟩ => nomatch he
  have hl : p.lifecycle = .running := by decide +kernel
  have hcurrent : p.holder.current ≠ some 0 := by decide +kernel
  have htwo : d.schedules.length = 2 := by decide +kernel
  have hfirst : 0 < p.holder.slots.length := by decide +kernel
  have hsecond : 1 < (Call.stop.perform p).2.holder.slots.length := by decide +kernel
  have hs := List.getElem?_eq_getElem hfirst
  have hs' := List.getElem?_eq_getElem hsecond
  refine ⟨configured, hlaw.2 (fun earlier call hpre => hnone _ (hpre.subset List.mem_concat_self) _) _
    (List.prefix_refl _), hl, htwo, hlength, ⟨_, hs, (hclosed 0 _ hs).2 hcurrent⟩,
    ⟨_, hs', (hstop.2 ?_ 1 _ hs').1⟩, fun hasIncoming now => (htrigger _ rfl hasIncoming now).1⟩
  exact fun hstopped => nomatch hl.symm.trans hstopped.1

/-- Configuration data for an account of a domain whose password is a lone surrogate. -/
def tornAccount : Data :=
  .map [(.text "request", .map [(.text "url", .text "http://example.com/r")]),
    (.text "transport", .map [(.text "auth", .map [(.text "username", .text "user"),
      (.text "password", .torn Config.Auth.loneSurrogate), (.text "ntlm_domain", .text "DOMAIN"),
      (.text "use_ntlm", .flag true)])])]

/-- The configuration of this data. -/
def tornConfig : Config where
  request := { url := "http://example.com/r" }
  transport := { auth := {
    username := .whole "user", password := .torn Config.Auth.loneSurrogate
    ntlmDomain := .whole "DOMAIN", useNtlm := true } }

/-- A place without files, certificates and keys. -/
def bareWorkshop : Workshop where
  library := {
    trusted := fun _ => none, certificate := fun _ => .settled none
    privateKey := fun _ => .settled none }

/-- The law does not hold of every run: the transport for an account of a domain is built and put in
use, and the header field for the account cannot be encoded. A stop does not close the handle. -/
theorem handle_kept_by_tornAccount :
    let built := Transport.build bareWorkshop tornConfig.transport
    let d := Diary.run 1024 [.schedule tornConfig built, .stop]
    Config.read tornAccount = .accepted tornConfig ∧ built.isOk = true ∧
      d.processor.lifecycle = .stopped ∧ d.processor.holder.current = some 0 ∧
      d.processor.holder.slots.map Holder.Slot.closes = [0] ∧ ¬ d.Lawful := by
  intro built d
  have hstopped : d.processor.lifecycle = .stopped := by decide +kernel
  have hcurrent : d.processor.holder.current = some 0 := by decide +kernel
  refine ⟨by with_unfolding_all rfl, by decide +kernel, hstopped, hcurrent, by decide +kernel, ?_⟩
  intro hlaw
  have hrunning := hlaw.running_iff.2 (by rw [hcurrent]; rfl)
  exact nomatch hrunning.symm.trans hstopped

end Processor

end HttpCourier
