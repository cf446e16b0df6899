import HttpCourier.Proofs.Cycle
import HttpCourier.Proofs.Lease
import HttpCourier.Processor

/-!
# Triggers of a running processor

`Processor.Reachable` are the processors that come from any sequence of schedules, stops and
triggers. A reachable processor that runs has a transport and a duty (`Reachable.equipped`), so that
a trigger is a cycle of work on a lease (`trigger_yields`).
-/

namespace HttpCourier

namespace Holder

variable {α : Type} [Closable α]

/-- A lease on a handle that is in use leaves the holder as it was, with the handle that was put. -/
theorem release_put_lease {h : Holder α} {number : Nat} {s : Slot α} (hc : h.current = some number)
    (hs : h.slot? number = some s) (hr : s.retired = false) (handle : α) :
    (h.lease.2.put number handle).release number = h.put number handle := by
  have hslots : ((h.lease.2.put number handle).release number).slots
      = (h.put number handle).slots := by
    apply List.ext_getElem?
    intro n
    by_cases hn : number = n
    · subst hn
      have hs : h.slots[number]? = some s := hs
      simp [lease, hc, put, release, modify, hs, hr]
    · simp [lease, hc, put, release, modify, hn]
  have hcurrent : ((h.lease.2.put number handle).release number).current
      = (h.put number handle).current := by
    simp [lease, hc, put, release, modify]
  cases hp : h.put number handle
  cases hl : (h.lease.2.put number handle).release number
  rw [hp, hl] at hslots hcurrent
  congr

omit [Closable α] in
/-- Putting the handle that is there changes nothing. -/
theorem put_self {h : Holder α} {number : Nat} {s : Slot α} (hs : h.slot? number = some s) :
    h.put number s.handle = h := by
  have hslots : (h.put number s.handle).slots = h.slots := by
    apply List.ext_getElem?
    intro n
    by_cases hn : number = n
    · subst hn
      have hs : h.slots[number]? = some s := hs
      simp [put, modify, hs]
    · simp [put, modify, hn]
  cases hp : h.put number s.handle
  cases h
  rw [hp] at hslots
  congr
  exact (congrArg current hp).symm

end Holder

namespace Processor

open Step Session

variable {p : Processor} {f : Floor}

/-! ## Reachable processors -/

/-- The processors that come from any sequence of schedules, stops and triggers. -/
inductive Reachable : Processor → Prop where
  | new (chunkSize : Nat) : Reachable { chunkSize }
  | schedule {p : Processor} (config : Config)
    (built : Except Fault (Transport × List Log.Record)) :
    Reachable p → Reachable (Step.on p (schedule config built)).2
  | stop {p : Processor} : Reachable p → Reachable (Step.on p stop).2
  | trigger {f : Floor} (hasIncoming : Bool) (now : Int) :
    Reachable f.processor → Reachable (Step.on f (trigger hasIncoming now)).2.processor

/-- The handle in use is not retired, and a processor that runs has a handle and a duty. -/
structure Equipped (p : Processor) : Prop where
  slot : ∀ number, p.holder.current = some number →
    ∃ s, p.holder.slot? number = some s ∧ s.retired = false
  running : p.lifecycle = .running → p.holder.current.isSome ∧ p.duty.isSome

/-- Records in the log are no equipment. -/
theorem keeps_note (records : List Log.Record) : Keeps Equipped (note records) :=
  fun _ h => ⟨h.slot, h.running⟩

/-- An equipped processor may move anywhere. -/
theorem keeps_move (target : Lifecycle) (h : Equipped p)
    (ht : target = .running → p.holder.current.isSome ∧ p.duty.isSome) :
    (move target).Yields p (fun _ => Equipped) fun _ => Equipped := by
  simp only [move, note, yields_bind, yields_get, yields_modify, yields_ofExcept]
  refine ⟨fun next hn => ⟨h.slot, fun hr => ?_⟩, fun _ _ => ⟨h.slot, h.running⟩⟩
  obtain rfl : next = target := by
    unfold Lifecycle.move at hn
    split at hn
    · exact (Except.ok.inj hn).symm
    · cases hn
  exact ht hr

/-- A transport that was just built is not retired. -/
theorem Equipped.install (h : Equipped p) (transport : Transport) :
    ∃ s, (p.holder.install transport).1.slot? p.holder.slots.length = some s ∧
      s.retired = false := by
  have hne : p.holder.current ≠ some p.holder.slots.length := by
    intro hc
    obtain ⟨s, hs, -⟩ := h.slot _ hc
    exact absurd (List.getElem?_eq_some_iff.1 hs).1 (Nat.lt_irrefl _)
  rw [Holder.slot?_install, if_pos rfl, Option.map_some, if_neg hne]
  exact ⟨_, rfl, rfl⟩

/-- A schedule that succeeds equips the processor, and one that fails lets it not run. -/
theorem keeps_schedule (config : Config) (built : Except Fault (Transport × List Log.Record)) :
    Keeps Equipped (schedule config built) := by
  intro p h
  unfold schedule
  rw [yields_bind, yields_get]
  extract_lets build
  by_cases hidle : p.lifecycle = .running
  · rw [if_pos hidle]
    exact h
  · rw [if_neg hidle]
    cases built with
    | error fault =>
      change (refuse fault).Yields p _ _
      unfold refuse
      extract_lets fail
      have hfail : ∀ p, Equipped p → (fail ()).Yields p (fun _ => Equipped) fun _ => Equipped :=
        fun _ => id
      split
      · rw [yields_bind]
        refine (keeps_note _ _ h).mono (fun _ p h => ?_) fun _ _ => id
        rw [yields_bind]
        exact (keeps_move .invalid h nofun).mono (fun _ => hfail) fun _ _ => id
      · exact hfail _ h
    | ok result =>
      obtain ⟨transport, log⟩ := result
      obtain ⟨s, hs, hr⟩ := h.install transport
      have hc : (p.holder.install transport).1.current = some p.holder.slots.length := by
        simp [Holder.install]
      have hslot : ∀ number, (p.holder.install transport).1.current = some number →
          ∃ s, (p.holder.install transport).1.slot? number = some s ∧ s.retired = false := by
        intro number hn
        obtain rfl : p.holder.slots.length = number := Option.some.inj (hc.symm.trans hn)
        exact ⟨s, hs, hr⟩
      simp only [build, note, yields_bind, yields_set, yields_modify, yields_ofExcept]
      refine ⟨fun duty _ => ?_, fun _ _ => ⟨hslot, fun hrun => (hidle hrun).elim⟩⟩
      exact keeps_move .running ⟨hslot, fun _ => ⟨by rw [hc]; rfl, rfl⟩⟩
        fun _ => ⟨by rw [hc]; rfl, rfl⟩

/-- A processor that stops needs no equipment. -/
theorem keeps_stop : Keeps Equipped stop := by
  intro p h
  unfold stop
  rw [yields_bind, yields_get]
  split
  case isTrue => exact h
  case isFalse hl =>
    have hc : p.holder.clear.1.current = none := by simp [Holder.clear]
    have hstopped : p.lifecycle.allows .stopped = true := by
      cases hp : p.lifecycle with
      | stopped => exact absurd hp hl
      | running => rfl
      | invalid => rfl
    have hmove : (p.lifecycle.move .stopped).1 = .ok .stopped :=
      Lifecycle.move_eq_ok_iff.2 ⟨hstopped, rfl⟩
    rw [yields_bind, yields_set, yields_bind, note, yields_modify]
    simp only [move, note, yields_bind, yields_get, yields_modify, hmove]
    refine ⟨fun number hn => ?_, fun hr => ?_⟩
    · cases hc.symm.trans hn
    · cases hr

/-- Where a cycle of work starts. -/
def benchOf (f : Floor) (transport : Transport) : Bench :=
  { desk := f.desk, link := { client := transport.client, network := f.network } }

/-- The floor after a cycle of work with the transport of a number. -/
def leave (f : Floor) (number : Nat) (transport : Transport) (b : Bench) : Floor :=
  { desk := b.desk, network := b.link.network
    processor := { f.processor with
      holder := f.processor.holder.put number { transport with client := b.link.client } } }

/-- What a cycle leaves is equipped as before. -/
theorem Equipped.leave (h : Equipped f.processor) (number : Nat) (transport : Transport)
    (b : Bench) : Equipped (leave f number transport b).processor := by
  refine ⟨fun n hn => ?_, h.running⟩
  obtain ⟨s, hs, hr⟩ := h.slot n hn
  simp only [Processor.leave, Holder.put, Holder.slot?_modify, hs, Option.map_some]
  split
  · exact ⟨_, rfl, hr⟩
  · exact ⟨_, rfl, hr⟩

/-- A trigger is judged by the cycle on its bench, with the transport given back afterwards. -/
theorem runWith_yields {post : Option Outcome → Floor → Prop} {fail : Fault → Floor → Prop}
    (number : Nat) (transport : Transport) (duty : Duty) (hasIncoming : Bool) (now : Int) :
    (runWith number transport duty hasIncoming now).Yields f post fail ↔
      (Trigger.run duty f.processor.chunkSize hasIncoming now).Yields (benchOf f transport)
        (fun result b => post result (leave f number transport b))
        fun e b => fail e (leave f number transport b) := by
  simp only [runWith, yields_bind, yields_get, yields_set, yields_ofExcept]
  unfold Yields
  rcases hr : Step.on (benchOf f transport)
    (Trigger.run duty f.processor.chunkSize hasIncoming now) with ⟨e | result, b⟩
  all_goals
    unfold benchOf at hr
    simp [hr, leave]

/-- A trigger of an equipped processor that runs is a cycle of work with the transport in use. -/
theorem trigger_yields {post : Option Outcome → Floor → Prop} {fail : Fault → Floor → Prop}
    {number : Nat} {s : Holder.Slot Transport} {duty : Duty} {hasIncoming : Bool} {now : Int}
    (hrun : f.processor.lifecycle = .running) (hc : f.processor.holder.current = some number)
    (hs : f.processor.holder.slot? number = some s) (hr : s.retired = false)
    (hd : f.processor.duty = some duty)
    (h : (Trigger.run duty f.processor.chunkSize hasIncoming now).Yields (benchOf f s.handle)
      (fun result b => post result (leave f number s.handle b))
      fun e b => fail e (leave f number s.handle b)) :
    (trigger hasIncoming now).Yields f post fail := by
  have hreceipt : f.processor.holder.lease.1 = some number := by simp [hc]
  have hslot : f.processor.holder.lease.2.slot? number
      = some { s with leases := s.leases + 1 } := by
    rw [Holder.slot?_lease, hs, Option.map_some, if_pos hc]
  have hrequire : f.processor.lifecycle.requireRunning.mapError Fault.refused = .ok () := by
    rw [Lifecycle.requireRunning, if_pos hrun]
    rfl
  have hrelease : ∀ handle,
      (f.processor.holder.lease.2.put number handle).release number
        = f.processor.holder.put number handle := Holder.release_put_lease hc hs hr
  unfold trigger
  simp only [yields_bind, yields_get, hrequire, yields_ok, hreceipt, Option.bind_some, hslot, hd,
    yields_set, yields_attempt, runWith_yields, yields_modify, yields_error]
  refine h.mono (fun result b hp => ?_) fun e b hf => ?_
  · simpa only [leave, hrelease, hd] using hp
  · simpa only [leave, hrelease, hd] using hf

/-- A trigger keeps the processor equipped. -/
theorem keeps_trigger (hasIncoming : Bool) (now : Int) :
    Keeps (fun f : Floor => Equipped f.processor) (trigger hasIncoming now) := by
  intro f h
  by_cases hrun : f.processor.lifecycle = .running
  · obtain ⟨hc, hd⟩ := h.running hrun
    obtain ⟨number, hc⟩ := Option.isSome_iff_exists.1 hc
    obtain ⟨duty, hd⟩ := Option.isSome_iff_exists.1 hd
    obtain ⟨s, hs, hr⟩ := h.slot number hc
    refine trigger_yields hrun hc hs hr hd ((yields_true _).mono ?_ ?_)
    · exact fun _ b _ => h.leave number s.handle b
    · exact fun _ b _ => h.leave number s.handle b
  · have hrequire : f.processor.lifecycle.requireRunning.mapError Fault.refused
        = .error (.refused ⟨f.processor.lifecycle, .running⟩) := by
      rw [Lifecycle.requireRunning, if_neg hrun]
      rfl
    unfold trigger
    rw [yields_bind, yields_get, yields_bind, hrequire]
    exact h

/-- Every reachable processor is equipped. -/
theorem Reachable.equipped (h : Reachable p) : Equipped p := by
  induction h with
  | new chunkSize => exact ⟨nofun, nofun⟩
  | schedule config built _ ih => exact (keeps_schedule config built).on ih
  | stop _ ih => exact keeps_stop.on ih
  | trigger hasIncoming now _ ih => exact (keeps_trigger hasIncoming now).on ih

/-- A cycle without anything to do leaves the floor as it was. -/
theorem leave_benchOf {number : Nat} {s : Holder.Slot Transport}
    (hs : f.processor.holder.slot? number = some s) :
    leave f number s.handle (benchOf f s.handle) = f := by
  have hput : f.processor.holder.put number s.handle = f.processor.holder := Holder.put_self hs
  change ({ f with processor := { f.processor with
    holder := f.processor.holder.put number s.handle } } : Floor) = f
  rw [hput]

/-! ## The items of a trigger -/

/-- What a cycle did to the items. It took the head of the queue, if there was one; every identifier
that it took or created was transferred or removed once, in the last version that the session kept;
the original went to the relationship of the outcome, and the response to its own or, after a
failure only, to the removals. -/
def ItemsConserved (before after : Session) (ids : Ids) (outcome : Outcome) : Prop :=
  ∃ original response transfers sent removed kept,
    (match before.incoming with
      | [] => after.incoming = [] ∧ ∀ item ∈ original, item.id = Ids.text (ids.drawn + 1)
      | head :: rest => after.incoming = rest ∧ ∃ item, original = some item ∧ item.id = head.id) ∧
    after.unaccounted = [] ∧
    after.transfers = before.transfers ++ transfers ∧
    after.removed = before.removed ++ removed ∧
    after.versions = before.versions ++ kept ∧
    (∀ v ∈ kept, ((transfers.map Prod.snd ++ removed).map (·.id)).count v.id = 1) ∧
    (∀ item ∈ transfers.map Prod.snd ++ removed, lastVersion? kept item.id = some item) ∧
    transfers.Perm (original.toList.map (fun item => (outcome.relationship, item))
      ++ sent.map fun item => (.response, item)) ∧
    sent ++ removed = (response : Option WorkItem).toList ∧ (removed ≠ [] → outcome = .failure)

/-- The items that left the session were conserved. -/
theorem itemsConserved_of_settled {d : Desk} {after : Session} {outcome : Outcome}
    {original response : Option WorkItem} (hwho : Trigger.IsOriginal d (original.map (·.id)))
    (h : Settled (Trigger.dequeued d.session) after outcome original response) :
    ItemsConserved d.session after d.ids outcome := by
  obtain ⟨transfers, sent, removed, ha, hp, hsent, hremoved⟩ := h
  obtain ⟨kept, hk, hids, hlast⟩ := ha.versions
  refine ⟨original, response, transfers, sent, removed, kept, ?_, ?_, ha.transfers_eq,
    ha.removed_eq, hk, fun v hv => ?_, hlast, hp, hsent, hremoved⟩
  · have hincoming := ha.incoming_eq
    unfold Trigger.IsOriginal at hwho
    cases hq : d.session.incoming with
    | nil =>
      rw [hq] at hwho
      refine ⟨by simpa [Trigger.dequeued, hq] using hincoming, fun item hi => ?_⟩
      exact hwho item.id (Option.mem_map_of_mem _ hi)
    | cons head rest =>
      rw [hq] at hwho
      exact ⟨by simpa [Trigger.dequeued, hq] using hincoming, Option.map_eq_some_iff.1 hwho⟩
  · rw [unaccounted, ha.live_eq]
    rfl
  · exact List.count_eq_one_of_mem ha.nodup (hids v hv)

/-- Whatever the network does, a trigger of a running processor on a session without live items has
a result. Without anything to do nothing changes; otherwise the items are conserved. -/
theorem trigger_conserves_items (hr : f.processor.Reachable)
    (hrun : f.processor.lifecycle = .running) (hlive : f.desk.session.live = [])
    (hfresh : ∀ item ∈ f.desk.session.incoming, ∀ n, f.desk.ids.drawn < n → item.id ≠ Ids.text n)
    (hremoval : f.desk.session.refusesRemoval = false) (hasIncoming : Bool) (now : Int) :
    ∃ result f', Step.on f (trigger hasIncoming now) = (.ok result, f') ∧
      match result with
      | none => f' = f
      | some outcome => ItemsConserved f.desk.session f'.desk.session f.desk.ids outcome := by
  have he := hr.equipped
  obtain ⟨hc, hd⟩ := he.running hrun
  obtain ⟨number, hc⟩ := Option.isSome_iff_exists.1 hc
  obtain ⟨duty, hd⟩ := Option.isSome_iff_exists.1 hd
  obtain ⟨s, hs, hretired⟩ := he.slot number hc
  refine (trigger_yields hrun hc hs hretired hd ?_).exists_ok
  refine (Trigger.run_yields duty _ hasIncoming now hlive hfresh hremoval).mono ?_ fun _ _ => id
  intro result b h
  cases result with
  | none =>
    obtain rfl : b = benchOf f s.handle := h
    exact leave_benchOf hs
  | some outcome =>
    obtain ⟨original, response, hwho, hsettled⟩ := h
    exact itemsConserved_of_settled hwho hsettled

/-- An answer that breaks off in the middle of its body. -/
def brokenReply : Reply :=
  { status := 200, body := [.chunk [104, 105], .fail (.plain .read "connection reset")] }

/-- A processor that was scheduled, with two items in the queue. -/
def busyFloor : Floor where
  processor := (Step.on ({} : Processor)
    (schedule { request := { url := "http://example.org/" } }
      (.ok ({ config := {}, client := {} }, [])))).2
  desk := { session := { incoming := [{ id := "first" }, { id := "second" }] } }
  network := { steps := [{ answer := .ok brokenReply }] }

/-- A processor with two items in the queue, before an answer that breaks off. -/
theorem trigger_conserves_items_busyFloor :
    ∃ result f', Step.on busyFloor (trigger false 0) = (.ok result, f') ∧
      match result with
      | none => f' = busyFloor
      | some outcome =>
        ItemsConserved busyFloor.desk.session f'.desk.session busyFloor.desk.ids outcome := by
  refine trigger_conserves_items (.schedule _ _ (.new _)) rfl rfl ?_ rfl false 0
  intro item hi n _ h
  have hlong : item.id.length = 24 + (Ids.paddedDecimal 12 n).length := by
    rw [h, Ids.length_text]
  simp only [busyFloor, List.mem_cons, List.not_mem_nil, or_false] at hi
  have hfirst : ("first" : String).length = 5 := by decide +kernel
  have hsecond : ("second" : String).length = 6 := by decide +kernel
  rcases hi with rfl | rfl
  · rw [hfirst] at hlong
    omega
  · rw [hsecond] at hlong
    omega

end Processor

end HttpCourier
