import HttpCourier.Proofs.Credentials
import HttpCourier.Proofs.Trigger

/-!
# The calls of a processor

A processor is scheduled, triggered and stopped in any order (`Processor.Call`); each build may give
a transport or end in any fault. `Call.Ends` lists the ways in which a call ends, with all that it
changes, and a call ends in one of them (`schedule_ends`, `stop_ends`, `trigger_ends`). There is one
kind of call that leaves a transport in use although it fails (`Call.Strands`): the transport is
built and put in use, and then the credentials of the configuration cannot be encoded for the header
field.
-/

namespace HttpCourier

open Step

/-! ## The faults of a cycle -/

namespace Desk

/-- The faults of a session that is handed an item. -/
def NotHeld (fault : Fault) (_ : Desk) : Prop := ∃ id, fault = .notHeld id

variable {d : Desk} {item next : WorkItem}

/-- An operation on an item that is not held says so. -/
theorem notHeld_of_hold {α : Type} {s : Session} {a : α} {fault : Fault}
    (h : (s.hold item >>= fun _ => .ok a) = .error fault) : fault = .notHeld item.id := by
  unfold Session.hold at h
  split at h
  · cases h
  · exact (Except.error.inj h).symm

/-- A new version fails only of an item that is not held. -/
theorem revise_faults :
    (revise fun s => s.update item next).Yields d (fun _ _ => True) NotHeld := by
  simp only [revise, yields_bind, yields_get, yields_set, yields_ofExcept]
  exact ⟨fun _ _ => trivial, fun _ h => ⟨_, notHeld_of_hold h⟩⟩

/-- A transfer fails only of an item that is not held. -/
theorem transfer_faults (r : Relationship) :
    (transfer item r).Yields d (fun _ _ => True) NotHeld := by
  simp only [transfer, yields_bind, yields_get, yields_set, yields_ofExcept]
  exact ⟨fun _ _ => trivial, fun _ h => ⟨_, notHeld_of_hold h⟩⟩

/-- A failed exchange can be routed unless the session does not hold the original. -/
theorem routeFailure_faults (fault : Fault) (original response : Option WorkItem) :
    (routeFailure fault original response).Yields d (fun _ _ => True) NotHeld := by
  unfold routeFailure
  rw [yields_bind, yields_modify]
  extract_lets finish discard
  have hdiscard : ∀ d : Desk, (discard ()).Yields d (fun _ _ => True) NotHeld := by
    intro d
    cases response with
    | none => trivial
    | some item =>
      simp only [discard, discardResponse, yields_bind, yields_attempt]
      refine (yields_true _).mono (fun _ _ _ => trivial) fun _ _ _ => trivial
  cases original with
  | none =>
    simp only [note, requestYield, yields_bind, yields_modify]
    exact hdiscard _
  | some item =>
    simp only [note, yields_bind, yields_modify]
    refine revise_faults.mono (fun item d _ => ?_) fun _ _ => id
    refine revise_faults.mono (fun item d _ => ?_) fun _ _ => id
    exact (transfer_faults _).mono (fun _ d _ => hdiscard d) fun _ _ => id

end Desk

namespace Trigger

/-- To take an item from the queue, or to make one, cannot fail. -/
theorem intake_never {d : Desk} (duty : Duty) (hasIncoming : Bool) :
    (intake duty hasIncoming).Yields d (fun _ _ => True) never := by
  unfold intake
  rw [yields_bind, yields_get]
  rcases d.session.take? with ⟨item | item, session⟩
  · dsimp only
    split
    · trivial
    split
    · rw [yields_bind]
      trivial
    · trivial
  · trivial

/-- A cycle ends in a fault only when the session does not hold an item any more. -/
theorem run_faults (duty : Duty) (chunkSize : Nat) (hasIncoming : Bool) (now : Int) (b : Bench) :
    (run duty chunkSize hasIncoming now).Yields b (fun _ _ => True)
      fun fault _ => ∃ id, fault = .notHeld id := by
  unfold run
  rw [yields_bind, Bench.yields_onDesk]
  refine (intake_never duty hasIncoming).mono (fun taken d _ => ?_) fun _ _ => False.elim
  cases taken with
  | none => trivial
  | some original =>
    have hnote : ∀ b : Bench, (Bench.onDesk (noteCache b.link.client)).Yields b
        (fun _ _ => True) never := by
      intro b
      unfold noteCache
      split <;> trivial
    simp only [yields_bind, yields_modify, yields_get]
    refine (hnote _).mono (fun _ b _ => ?_) fun _ _ => False.elim
    rw [Bench.yields_onDesk]
    unfold drawTransaction
    simp only [yields_bind, yields_get, yields_set, yields_pure, yields_attempt]
    refine (yields_true _).mono (fun _ _ _ => trivial) fun fault b _ => ?_
    simp only [Bench.yields_onDesk]
    exact (Desk.routeFailure_faults fault _ _).mono (fun _ _ _ => trivial) fun _ _ => id

end Trigger

namespace Processor

variable {p : Processor}

/-! ## Calls -/

/-- A call of a processor. `built` is what the build for the configuration comes to. -/
inductive Call where
  | schedule (config : Config) (built : Except Fault (Transport × List Log.Record))
  | stop
  | trigger (desk : Desk) (network : Network) (hasIncoming : Bool) (now : Int)

namespace Call

/-- The result of a call, and the processor that it leaves. -/
def perform (p : Processor) : Call → Except Fault (Option Outcome) × Processor
  | schedule config built =>
    let ended := Step.on p (Processor.schedule config built)
    (ended.1.map fun _ => none, ended.2)
  | stop =>
    let ended := Step.on p Processor.stop
    (ended.1.map fun _ => none, ended.2)
  | trigger desk network hasIncoming now =>
    let ended := Step.on { processor := p, desk, network : Floor } (Processor.trigger hasIncoming now)
    (ended.1, ended.2.processor)

/-- A processor is scheduled with configurations that were accepted. -/
def Configured : Call → Prop
  | schedule config _ => ∃ data, Config.read data = .accepted config
  | stop | trigger .. => True

/-- The configuration and the transport of a schedule, if it succeeded. -/
def scheduled? : Call → Except Fault (Option Outcome) → Option (Config × Transport)
  | schedule config (.ok (transport, _)), .ok _ => some (config, transport)
  | _, _ => none

/-- The configuration and the transport that a schedule puts in use. -/
def installed? (p : Processor) : Call → Option (Config × Transport)
  | schedule config (.ok (transport, _)) =>
    if p.lifecycle = .running then none else some (config, transport)
  | _ => none

/-- Whether a schedule puts a transport in use and then finds that the credentials cannot be
encoded. -/
def Strands (p : Processor) : Call → Prop
  | schedule config (.ok _) =>
    p.lifecycle ≠ .running ∧ ∃ e, config.transport.auth.basicField = .error e
  | _ => False

/-- The record of a legal move. -/
def moved (current target : Lifecycle) : Log.Record :=
  Lifecycle.record .info "state_transition" current target

/-- The record of a build that found the configuration unusable. -/
def unusable (fault : Fault) : Log.Record :=
  .of "processor" .error "schedule_failed" [("error", .text fault.message)]

/-- The ways in which a call ends: its result, and the processor that it leaves. -/
inductive Ends (p : Processor) : Call → Except Fault (Option Outcome) → Processor → Prop where
  /-- A processor that runs is not scheduled. -/
  | busy {config : Config} {built : Except Fault (Transport × List Log.Record)} :
    p.lifecycle = .running →
    Ends p (.schedule config built) (.error (.refused ⟨.running, .running⟩)) p
  /-- A configuration that cannot be used makes the processor invalid. -/
  | invalid {config : Config} {fault : Fault} :
    p.lifecycle ≠ .running → isConfiguration fault = true →
    Ends p (.schedule config (.error fault)) (.error fault)
      { p with
        lifecycle := .invalid
        log := p.log ++ [unusable fault, moved p.lifecycle .invalid] }
  /-- Any other fault of a build changes nothing. -/
  | unbuilt {config : Config} {fault : Fault} :
    p.lifecycle ≠ .running → isConfiguration fault = false →
    Ends p (.schedule config (.error fault)) (.error fault) p
  /-- A transport that was built is put in use, and there is no duty to use it for. -/
  | stranded {config : Config} {transport : Transport} {log : List Log.Record} {e : Unencodable} :
    p.lifecycle ≠ .running → config.transport.auth.basicField = .error e →
    Duty.ofConfig config = .error (.notUtf8 e) →
    Ends p (.schedule config (.ok (transport, log))) (.error (.notUtf8 e))
      { p with holder := (p.holder.install transport).1, log := p.log ++ log }
  /-- A transport that was built is put in use. -/
  | scheduled {config : Config} {transport : Transport} {log : List Log.Record}
    {field : Option String} {duty : Duty} :
    p.lifecycle ≠ .running → config.transport.auth.basicField = .ok field →
    Duty.ofConfig config = .ok duty →
    Ends p (.schedule config (.ok (transport, log))) (.ok none)
      { p with
        lifecycle := .running
        holder := (p.holder.install transport).1
        duty := some duty
        log := p.log ++ (log ++ [moved p.lifecycle .running]) }
  /-- A processor that is stopped stays so. -/
  | idle : p.lifecycle = .stopped → Ends p .stop (.ok none) p
  /-- The handle in use is dropped. -/
  | stopped : p.lifecycle ≠ .stopped →
    Ends p .stop (.ok none)
      { p with
        lifecycle := .stopped
        holder := p.holder.clear.1
        log := p.log ++ [moved p.lifecycle .stopped] }
  /-- Only a processor that runs is triggered. -/
  | refused {desk : Desk} {network : Network} {hasIncoming : Bool} {now : Int} :
    p.lifecycle ≠ .running →
    Ends p (.trigger desk network hasIncoming now) (.error (.refused ⟨p.lifecycle, .running⟩)) p
  /-- A trigger works with the handle in use, of which only the client changes. -/
  | triggered {desk : Desk} {network : Network} {hasIncoming : Bool} {now : Int} {number : Nat}
    {s : Holder.Slot Transport} {client : Client} {result : Except Fault (Option Outcome)} :
    p.lifecycle = .running → p.holder.current = some number → p.holder.slot? number = some s →
    (∀ fault, result = .error fault → ∃ id, fault = .notHeld id) →
    Ends p (.trigger desk network hasIncoming now) result
      { p with holder := p.holder.put number { s.handle with client } }

end Call

/-! ## How each call ends -/

/-- A processor that does not run may go anywhere but to a stop. -/
theorem allows_of_not_running {l target : Lifecycle} (h : l ≠ .running) (ht : target ≠ .stopped) :
    l.allows target = true := by
  cases l with
  | stopped => cases target <;> first | rfl | exact (ht rfl).elim
  | running => exact (h rfl).elim
  | invalid => rfl

/-- A processor that is not stopped may be stopped. -/
theorem allows_stopped {l : Lifecycle} (h : l ≠ .stopped) : l.allows .stopped = true := by
  cases l with
  | stopped => exact (h rfl).elim
  | running | invalid => rfl

/-- A legal move is made, and reported. -/
theorem move_yields {target : Lifecycle} {post : Unit → Processor → Prop}
    {fail : Fault → Processor → Prop} (h : p.lifecycle.allows target = true)
    (hp : post () { p with
      lifecycle := target, log := p.log ++ [Call.moved p.lifecycle target] }) :
    (move target).Yields p post fail := by
  have hmove : p.lifecycle.move target = (.ok target, Call.moved p.lifecycle target) := by
    rw [Lifecycle.move, if_pos h]
    rfl
  simp only [move, note, yields_bind, yields_get, hmove, yields_modify]
  exact hp

/-- Every end of a schedule is one of those that are listed, by its result and the processor that it
leaves. -/
theorem schedule_ends {config : Config} {data : Data}
    (hquiet : ∀ transport, (p.holder.install transport).2 = [])
    (hread : Config.read data = .accepted config)
    (built : Except Fault (Transport × List Log.Record)) :
    (schedule config built).Yields p
      (fun _ => Call.Ends p (.schedule config built) (.ok none))
      fun fault => Call.Ends p (.schedule config built) (.error fault) := by
  unfold schedule
  rw [yields_bind, yields_get]
  extract_lets build
  by_cases hl : p.lifecycle = .running
  · rw [if_pos hl]
    exact .busy hl
  · rw [if_neg hl]
    cases built with
    | error fault =>
      change (refuse fault).Yields p _ _
      unfold refuse
      by_cases hc : isConfiguration fault = true
      · rw [if_pos hc, yields_bind, note, yields_modify, yields_bind]
        refine move_yields (allows_of_not_running hl (by decide)) ?_
        rw [List.append_assoc]
        exact .invalid hl hc
      · rw [if_neg hc]
        exact .unbuilt hl (Bool.not_eq_true _ ▸ hc)
    | ok result =>
      obtain ⟨transport, log⟩ := result
      rcases Config.ofConfig_cases hread with ⟨field, duty, hfield, hduty⟩ | ⟨e, hfield, hduty⟩
      · simp only [build, note, hquiet, hduty, yields_bind, yields_set, yields_modify, yields_ok]
        refine move_yields (allows_of_not_running hl (by decide)) ?_
        rw [List.append_nil, List.append_assoc]
        exact .scheduled hl hfield hduty
      · simp only [build, note, hquiet, hduty, yields_bind, yields_set, yields_modify, yields_error]
        rw [List.append_nil]
        exact .stranded hl hfield hduty

/-- A stop drops the transport in use. -/
theorem stop_ends (hclear : p.holder.clear.2 = []) :
    stop.Yields p (fun _ => Call.Ends p .stop (.ok none))
      fun fault => Call.Ends p .stop (.error fault) := by
  unfold stop
  rw [yields_bind, yields_get]
  by_cases hl : p.lifecycle = .stopped
  · rw [if_pos hl]
    exact .idle hl
  · rw [if_neg hl, yields_bind, yields_set, hclear, yields_bind, note, yields_modify]
    refine move_yields (allows_stopped hl) ?_
    rw [List.append_nil]
    exact .stopped hl

/-- A trigger of a processor that does not run changes nothing, on its desk and network neither. -/
theorem trigger_refused {f : Floor} (hl : f.processor.lifecycle ≠ .running) (hasIncoming : Bool)
    (now : Int) :
    Step.on f (trigger hasIncoming now)
      = (.error (.refused ⟨f.processor.lifecycle, .running⟩), f) := by
  have hrequire : f.processor.lifecycle.requireRunning.mapError Fault.refused
      = .error (.refused ⟨f.processor.lifecycle, .running⟩) := by
    rw [Lifecycle.requireRunning, if_neg hl]
    rfl
  have h : (trigger hasIncoming now).Yields f (fun _ _ => False)
      fun fault f' => (fault, f') = (.refused ⟨f.processor.lifecycle, .running⟩, f) := by
    unfold trigger
    rw [yields_bind, yields_get, yields_bind, hrequire]
    exact rfl
  obtain ⟨hok, herror⟩ := yields_iff.1 h
  rcases hon : Step.on f (trigger hasIncoming now) with ⟨fault | outcome, f'⟩
  · cases herror fault f' hon
    rfl
  · exact (hok outcome f' hon).elim

/-- A processor that runs is ready for triggers: it has a handle in use and a duty. -/
def Ready (p : Processor) : Prop :=
  ∃ number s duty, p.holder.current = some number ∧ p.holder.slot? number = some s ∧
    s.retired = false ∧ p.duty = some duty

/-- A trigger has no say in lifecycle or duty: it is refused, or gives the transport back as it took
it. -/
theorem trigger_ends {f : Floor} (h : f.processor.lifecycle = .running → Ready f.processor)
    (hasIncoming : Bool) (now : Int) :
    (trigger hasIncoming now).Yields f
      (fun outcome f' => Call.Ends f.processor (.trigger f.desk f.network hasIncoming now)
        (.ok outcome) f'.processor)
      fun fault f' => Call.Ends f.processor (.trigger f.desk f.network hasIncoming now)
        (.error fault) f'.processor := by
  by_cases hl : f.processor.lifecycle = .running
  · obtain ⟨number, s, duty, hc, hs, hr, hd⟩ := h hl
    refine trigger_yields hl hc hs hr hd ((Trigger.run_faults _ _ _ _ _).mono ?_ ?_)
    · exact fun outcome b _ => .triggered hl hc hs nofun
    · rintro fault b hf
      refine .triggered hl hc hs fun _ he => ?_
      cases he
      exact hf
  · rw [yields_of_error (trigger_refused hl hasIncoming now)]
    exact .refused hl

/-! ## What every call has in common -/

namespace Call.Ends

variable {p p' : Processor} {call : Call} {result : Except Fault (Option Outcome)}

/-- A processor becomes invalid only by a build that finds the configuration unusable. -/
theorem unusable_of_invalid (he : call.Ends p result p') (hp : p'.lifecycle = .invalid) :
    p.lifecycle = .invalid ∨
      ∃ config fault, call = .schedule config (.error fault) ∧ isConfiguration fault = true := by
  cases he with
  | invalid hl hc => exact .inr ⟨_, _, rfl, hc⟩
  | scheduled | stopped => cases hp
  | busy | unbuilt | stranded | idle | refused | triggered => exact .inl hp

/-- The state changes by legal moves only. -/
theorem legal (he : call.Ends p result p') :
    p'.lifecycle = p.lifecycle ∨ p.lifecycle.allows p'.lifecycle = true := by
  cases he with
  | invalid hl | scheduled hl => exact .inr (allows_of_not_running hl nofun)
  | stopped hl => exact .inr (allows_stopped hl)
  | busy | unbuilt | stranded | idle | refused | triggered => exact .inl rfl

/-- Beside the records of the build, a call adds none that tells of an illegal move. -/
theorem log (he : call.Ends p result p') :
    ∃ built own, p'.log = p.log ++ (built ++ own) ∧
      (built = [] ∨ ∃ config transport, call = .schedule config (.ok (transport, built))) ∧
      ∀ record ∈ own, record.event ≠ "illegal_state_transition" := by
  cases he with
  | invalid => exact ⟨[], _, rfl, .inl rfl, by simp [unusable, moved, Lifecycle.record, Log.Record.of]⟩
  | stranded => exact ⟨_, [], by rw [List.append_nil], .inr ⟨_, _, rfl⟩, nofun⟩
  | scheduled =>
    exact ⟨_, _, rfl, .inr ⟨_, _, rfl⟩, by simp [moved, Lifecycle.record, Log.Record.of]⟩
  | stopped => exact ⟨[], _, rfl, .inl rfl, by simp [moved, Lifecycle.record, Log.Record.of]⟩
  | busy | unbuilt | idle | refused | triggered =>
    exact ⟨[], [], (List.append_nil _).symm, .inl rfl, nofun⟩

/-- A trigger does not find the processor running without a transport. -/
theorem trigger_ne_noTransport {desk : Desk} {network : Network} {hasIncoming : Bool} {now : Int}
    (he : Call.Ends p (.trigger desk network hasIncoming now) result p') :
    result ≠ .error .noTransport := by
  cases he with
  | refused => nofun
  | triggered hl hc hs hf =>
    intro hr
    obtain ⟨id, hid⟩ := hf _ hr
    cases hid

/-- A stop succeeds, and leaves a processor that was not stopped without a handle in use. -/
theorem stopped_of_stop (he : Call.Ends p .stop result p') :
    result = .ok none ∧ p'.lifecycle = .stopped ∧
      p'.holder.current = if p.lifecycle = .stopped then p.holder.current else none := by
  cases he with
  | idle hl => exact ⟨rfl, hl, (if_pos hl).symm⟩
  | stopped hl => exact ⟨rfl, rfl, (Holder.swap_current _ _).trans (if_neg hl).symm⟩

/-- A processor that comes to have a handle in use runs, unless the schedule strands it. -/
theorem running_of_current (he : call.Ends p result p') (hs : ¬ call.Strands p)
    (hp : p.holder.current.isSome → p.lifecycle = .running)
    (hc : p'.holder.current.isSome) : p'.lifecycle = .running := by
  cases he with
  | @invalid config fault hl => exact (hl (hp hc)).elim
  | stranded hl hfield => exact (hs ⟨hl, _, hfield⟩).elim
  | scheduled => rfl
  | stopped =>
    rw [show p.holder.clear.1.current = none from Holder.swap_current _ _] at hc
    cases hc
  | busy | unbuilt | idle | refused | triggered => exact hp hc

/-- A schedule that strands a handle leaves it in use, and the processor as little at work as
before. -/
theorem current_of_strands (he : call.Ends p result p') (hs : call.Strands p) :
    p'.holder.current.isSome ∧ p'.lifecycle = p.lifecycle ∧ p.lifecycle ≠ .running := by
  cases he with
  | @stranded config transport log e hl =>
    have hcurrent : (p.holder.install transport).1.current = some p.holder.slots.length :=
      Holder.swap_current _ _
    exact ⟨by rw [hcurrent]; rfl, rfl, hl⟩
  | scheduled hl hfield =>
    obtain ⟨-, e, he⟩ := hs
    cases hfield.symm.trans he
  | @busy config built hl =>
    rcases built with fault | result
    · exact hs.elim
    · exact (hs.1 hl).elim
  | invalid | unbuilt | idle | stopped | refused | triggered => exact hs.elim

end Call.Ends

end Processor

end HttpCourier
