import HttpCourier.Proofs.Errands
import HttpCourier.Proofs.Trigger

/-!
# What a trigger does

A trigger of a running processor is the errand that `Floor.errand?` says (`trigger_carries`). From
its transfers follows that outcome and effects agree (`trigger_effects`): where the original goes
and how it leaves, whether a response is transferred, and whether a pause is asked for.
-/

namespace HttpCourier

open Step

/-! ## The transfers of an errand -/

namespace Routing

variable {routing : Routing} {status : Int} {original response : Option WorkItem}

/-- No outcome sends the original where responses go. -/
theorem relationship_ne_response (outcome : Outcome) : outcome.relationship ≠ .response := by
  cases outcome <;> nofun

/-- Apart from the response, a handover transfers the original to the relationship of the
outcome. -/
theorem originals_handover :
    (routing.handover status original response).filter (fun t => t.1 ≠ .response)
      = original.toList.map fun item => ((Outcome.ofStatus status).relationship,
          if routing.penalizes (.ofStatus status) then item.withPenalty else item) := by
  have hsent : (response.toList.map fun item => (Relationship.response, item)).filter
      (fun t => t.1 ≠ .response) = [] := by
    cases response <;> simp
  have hfirst := relationship_ne_response (.ofStatus status)
  simp only [handover, List.filter_append, apply_ite (List.filter _), hsent, List.filter_nil, ite_self,
    List.nil_append, List.append_nil]
  cases original <;> simp [hfirst]

/-- A handover transfers the response when it is always wanted, or after a success. -/
theorem responses_handover :
    (routing.handover status original response).filter (fun t => t.1 = .response)
      = if routing.alwaysOutputResponse ∨ Outcome.ofStatus status = .success then
          response.toList.map fun item => (.response, item)
        else [] := by
  have hfirst := relationship_ne_response (.ofStatus status)
  have horiginal : (original.toList.map fun item => ((Outcome.ofStatus status).relationship,
      if routing.penalizes (.ofStatus status) then item.withPenalty else item)).filter
      (fun t => t.1 = .response) = [] := by
    cases original <;> simp [hfirst]
  have hsent : (response.toList.map fun item => (Relationship.response, item)).filter
      (fun t => t.1 = .response) = response.toList.map fun item => (.response, item) := by
    cases response <;> simp
  simp only [handover, List.filter_append, apply_ite (List.filter _), horiginal, hsent,
    List.filter_nil, List.append_nil]
  by_cases ha : routing.alwaysOutputResponse = true
  · simp [ha]
  · by_cases hs : Outcome.ofStatus status = .success <;> simp [ha, hs]

/-- The response of a handover is the one that was there. -/
theorem response_of_mem_handover {item : WorkItem}
    (h : (.response, item) ∈ routing.handover status original response) : response = some item := by
  have hmem : (Relationship.response, item) ∈ (routing.handover status original response).filter
      fun t => t.1 = .response :=
    List.mem_filter.2 ⟨h, decide_eq_true rfl⟩
  rw [responses_handover] at hmem
  split at hmem
  · simpa [eq_comm] using hmem
  · cases hmem

end Routing

/-- What stopped an exchange is told to the item. -/
theorem Fault.get?_stamp (fault : Fault) (item : WorkItem) :
    (fault.stamp item).attributes.get? Desk.faultKindKey = some fault.label ∧
      (fault.stamp item).attributes.get? Desk.faultTextKey = some fault.message := by
  have hne : Desk.faultKindKey ≠ Desk.faultTextKey := by decide
  have hall : (fault.stamp item).attributes = (item.attributes.set Desk.faultKindKey fault.label).set
      Desk.faultTextKey fault.message := rfl
  rw [hall, OrderedMap.get?_set_of_ne _ _ hne]
  exact ⟨OrderedMap.get?_set_self _ _ _, OrderedMap.get?_set_self _ _ _⟩

namespace Trigger.Errand

variable {e : Errand} {plan : Plan} {received : Received} {d : Delivery}

@[simp] theorem withText_id (duty : Duty) (text : Option String) (item : WorkItem) :
    (withText duty text item).id = item.id := by
  cases text <;> rfl

@[simp] theorem withText_penalized (duty : Duty) (text : Option String) (item : WorkItem) :
    (withText duty text item).penalized = item.penalized := by
  cases text <;> rfl

/-- A completed errand hands back the item it set out with, and no penalty with it. -/
theorem original_of_delivery (h : e.delivery = .ok d) :
    d.original.map (fun item => (item.id, item.penalized))
      = e.original.map fun item => (item.id, item.penalized) := by
  obtain ⟨-, -, text, -, ho, -⟩ := delivery_eq_ok h
  rw [ho, told, Option.map_map, Option.map_map]
  congr 1
  funext item
  simp only [Function.comp_apply, withText_id, withText_penalized]
  split <;> rfl

/-- To tell the original of an answer keeps its identifier. -/
theorem map_id_told (e : Errand) (plan : Plan) (received : Received) :
    (e.told plan received).map (·.id) = e.original.map (·.id) := by
  rw [told, Option.map_map]
  congr 1
  funext item
  simp only [Function.comp_apply]
  split <;> rfl

/-- A fault stops the errand with the item it set out with. -/
theorem id_of_reached (e : Errand) : e.reached.map (·.id) = e.original.map (·.id) := by
  unfold reached
  split
  · rfl
  · split
    · rfl
    · exact e.map_id_told _ _

/-- How the original leaves: penalized as the outcome and the configuration say, and with the fault
that stopped the exchange. -/
structure Leaves (e : Errand) (outcome : Outcome) (arrived left : WorkItem) : Prop where
  id_eq : left.id = arrived.id
  penalized_iff : left.penalized = true ↔ arrived.penalized = true ∨ outcome = .retry ∨
    outcome = .failure ∨ (outcome = .noRetry ∧ e.duty.config.penalizeNoRetry = true)
  stamped : ∀ fault, e.delivery = .error fault →
    left.attributes.get? Desk.faultKindKey = some fault.label ∧
    left.attributes.get? Desk.faultTextKey = some fault.message

/-- An original whose exchange was stopped leaves with the stamp of the fault. -/
theorem leaves_of_fault {fault : Fault} {arrived reached : WorkItem} (hd : e.delivery = .error fault)
    (hid : reached.id = arrived.id) : e.Leaves e.outcome arrived (fault.stamp reached) where
  id_eq := hid
  penalized_iff :=
    iff_of_true rfl (.inr (.inr (.inl (outcome_of_fault hd))))
  stamped fault' hf := by
    obtain rfl := Except.error.inj (hd.symm.trans hf)
    exact fault.get?_stamp reached

/-- An original whose exchange was completed leaves penalized when the router penalizes the
outcome. -/
theorem leaves_of_delivery {arrived told : WorkItem} (hd : e.delivery = .ok d)
    (hid : told.id = arrived.id) (hpenalized : told.penalized = arrived.penalized) :
    e.Leaves e.outcome arrived
      (if e.duty.routing.penalizes e.outcome then told.withPenalty else told) where
  id_eq := by
    rw [apply_ite WorkItem.id, WorkItem.withPenalty_id, ite_self]
    exact hid
  penalized_iff := by
    have hpenalizes : e.duty.routing.penalizes e.outcome = true ↔ e.outcome = .retry ∨
        (e.outcome = .noRetry ∧ e.duty.config.penalizeNoRetry = true) := by
      simp [Routing.penalizes, Duty.routing]
    have hfailure : e.outcome ≠ .failure := outcome_of_delivery hd ▸ Outcome.ofStatus_ne_failure _
    rw [← hpenalized]
    by_cases hp : e.duty.routing.penalizes e.outcome = true
    · rw [if_pos hp]
      exact iff_of_true rfl (.inr ((hpenalizes.1 hp).imp id .inr))
    · rw [if_neg hp]
      rw [hpenalizes, not_or] at hp
      simp [hp, hfailure]
  stamped fault hf := nomatch hd.symm.trans hf

/-- Apart from the response an errand transfers its original, to the relationship of the outcome. -/
theorem originals_transfers (e : Errand) :
    match e.original with
    | none => e.transfers.filter (fun t => t.1 ≠ .response) = []
    | some arrived => ∃ left, e.transfers.filter (fun t => t.1 ≠ .response)
        = [(e.outcome.relationship, left)] ∧ e.Leaves e.outcome arrived left := by
  cases hd : e.delivery with
  | error fault =>
    have houtcome := outcome_of_fault hd
    have hid := e.id_of_reached
    rw [transfers, hd]
    cases ho : e.original with
    | none =>
      rw [ho, Option.map_none, Option.map_eq_none_iff] at hid
      simp [hid]
    | some arrived =>
      rw [ho, Option.map_some, Option.map_eq_some_iff] at hid
      obtain ⟨reached, hi, hid⟩ := hid
      refine ⟨fault.stamp reached, ?_, leaves_of_fault hd hid⟩
      simp [hi, houtcome, Outcome.relationship]
  | ok d =>
    have horiginal := original_of_delivery hd
    rw [transfers, hd]
    dsimp only
    rw [Routing.originals_handover, ← outcome_of_delivery hd]
    cases ho : e.original with
    | none =>
      rw [ho, Option.map_none, Option.map_eq_none_iff] at horiginal
      simp [horiginal]
    | some arrived =>
      rw [ho, Option.map_some, Option.map_eq_some_iff] at horiginal
      obtain ⟨told, hi, hsame⟩ := horiginal
      obtain ⟨hid, hpenalized⟩ := Prod.mk.inj hsame
      exact ⟨_, by rw [hi]; rfl, leaves_of_delivery hd hid hpenalized⟩

/-- Every transfer of an errand is that of the original or that of a response. -/
theorem mem_transfers {t : Relationship × WorkItem} (h : t ∈ e.transfers) :
    t.1 = .response ∨ t.1 = e.outcome.relationship := by
  refine or_iff_not_imp_left.2 fun ht => ?_
  have hmem : t ∈ e.transfers.filter fun t => t.1 ≠ .response :=
    List.mem_filter.2 ⟨h, decide_eq_true ht⟩
  have ho := e.originals_transfers
  split at ho
  · rw [ho] at hmem
    cases hmem
  · obtain ⟨left, hleft, -⟩ := ho
    rw [hleft, List.mem_singleton] at hmem
    rw [hmem]

/-- A delivery transfers the response that was made. -/
theorem responses_of_delivery (h : e.delivery = .ok d) :
    (e.transfers.filter fun t => t.1 = .response)
      = (e.filled d.plan d.received).toList.map fun item => (.response, item) := by
  obtain ⟨-, -, text, -, -, hresponse⟩ := delivery_eq_ok h
  rw [transfers, h]
  dsimp only
  rw [Routing.responses_handover, hresponse, filled]
  by_cases hg : e.duty.givesResponse d.received.isSuccess = true
  · have hsuccess : d.received.isSuccess = true →
        Outcome.ofStatus d.received.response.status = .success := Outcome.ofStatus_eq_success.2
    have hsent : e.duty.routing.alwaysOutputResponse = true ∨
        Outcome.ofStatus d.received.response.status = .success := by
      simp only [Duty.givesResponse, Bool.or_eq_true, Bool.and_eq_true] at hg
      exact hg.elim (fun hs => .inr (hsuccess hs.1)) .inl
    rw [if_pos hg, if_pos hsent]
  · rw [if_neg hg, Option.toList_none, List.map_nil, ite_self]

/-- An errand transfers a response, at most one, when the exchange was completed and either
succeeded without putting bodies into attributes, or a response is always wanted. -/
theorem responses_transfers (e : Errand) :
    (e.transfers.filter fun t => t.1 = .response).length
      = if e.outcome ≠ .failure ∧ ((e.outcome = .success ∧ e.duty.config.bodyAttribute = none) ∨
          e.duty.config.alwaysOutputResponse = true) then 1 else 0 := by
  cases hd : e.delivery with
  | error fault =>
    have houtcome := outcome_of_fault hd
    rw [transfers, hd, houtcome]
    cases e.reached <;> simp
  | ok d =>
    have houtcome := outcome_of_delivery hd
    have hfailure : e.outcome ≠ .failure := houtcome ▸ Outcome.ofStatus_ne_failure _
    have hsuccess : d.received.isSuccess = true ↔ e.outcome = .success := by
      rw [houtcome]
      exact Outcome.ofStatus_eq_success.symm
    have hgives : e.duty.givesResponse d.received.isSuccess = true ↔
        (e.outcome = .success ∧ e.duty.config.bodyAttribute = none) ∨
          e.duty.config.alwaysOutputResponse = true := by
      simp [Duty.givesResponse, Duty.putsBody, hsuccess]
    rw [responses_of_delivery hd, filled, List.length_map]
    simp only [← hgives, ne_eq, hfailure, not_false_eq_true, true_and]
    split <;> rfl

end Trigger.Errand

/-! ## The errand of a trigger -/

/-- Whatever a cycle sets out with, its exchange takes the next identifier. -/
theorem Trigger.of_setOut {duty : Duty} {chunkSize : Nat} {hasIncoming : Bool} {now : Int} {d : Desk}
    {link : Link} {e : Errand} (h : setOut duty chunkSize hasIncoming now d link = some e) :
    ∃ original ids, e = .of duty chunkSize now original ids link := by
  unfold setOut at h
  split at h
  · exact ⟨_, _, (Option.some.inj h).symm⟩
  · split at h
    · cases h
    · split at h
      · exact ⟨_, _, (Option.some.inj h).symm⟩
      · exact ⟨_, _, (Option.some.inj h).symm⟩

namespace Processor

variable {f : Floor}

/-- What a running processor works with: its duty and its transport. -/
def gear? (p : Processor) : Option (Duty × Transport) := do
  let number ← p.holder.current
  let slot ← p.holder.slot? number
  let duty ← p.duty
  return (duty, slot.handle)

/-- The errand of a trigger, if there is something to do. -/
def Floor.errand? (f : Floor) (hasIncoming : Bool) (now : Int) : Option Trigger.Errand := do
  let (duty, transport) ← f.processor.gear?
  Trigger.setOut duty f.processor.chunkSize hasIncoming now f.desk
    { client := transport.client, network := f.network }

theorem chunkSize_of_errand {hasIncoming : Bool} {now : Int} {e : Trigger.Errand}
    (h : f.errand? hasIncoming now = some e) : e.chunkSize = f.processor.chunkSize := by
  obtain ⟨gear, -, h⟩ := Option.bind_eq_some_iff.1 h
  obtain ⟨original, ids, rfl⟩ := Trigger.of_setOut h
  rfl

/-- A trigger of a running processor is a cycle of work with its gear, on the errand of the
floor. -/
theorem trigger_of_run {hasIncoming : Bool} {now : Int} {post : Option Outcome → Floor → Prop}
    (hr : f.processor.Reachable) (hrun : f.processor.lifecycle = .running)
    (h : ∀ duty number transport,
      f.errand? hasIncoming now = Trigger.setOut duty f.processor.chunkSize hasIncoming now
        (benchOf f transport).desk (benchOf f transport).link →
      leave f number transport (benchOf f transport) = f →
      (Trigger.run duty f.processor.chunkSize hasIncoming now).Yields (benchOf f transport)
        (fun result b => post result (leave f number transport b)) never) :
    ∃ result f', Step.on f (trigger hasIncoming now) = (.ok result, f') ∧ post result f' := by
  have he := hr.equipped
  obtain ⟨hc, hd⟩ := he.running hrun
  obtain ⟨number, hc⟩ := Option.isSome_iff_exists.1 hc
  obtain ⟨duty, hd⟩ := Option.isSome_iff_exists.1 hd
  obtain ⟨s, hs, hretired⟩ := he.slot number hc
  have herrand : f.errand? hasIncoming now = Trigger.setOut duty f.processor.chunkSize hasIncoming now
      (benchOf f s.handle).desk (benchOf f s.handle).link := by
    simp [Floor.errand?, gear?, hc, hs, hd, benchOf]
  exact (trigger_yields hrun hc hs hretired hd
    (h duty number s.handle herrand (leave_benchOf hs))).exists_ok

/-- A trigger of a running processor ends as its errand does; without an errand nothing changes. -/
theorem trigger_carries (hr : f.processor.Reachable) (hrun : f.processor.lifecycle = .running)
    (hfresh : Trigger.HeadFresh f.desk) (hasIncoming : Bool) (now : Int) :
    ∃ result f', Step.on f (trigger hasIncoming now) = (.ok result, f') ∧
      match f.errand? hasIncoming now with
      | none => result = none ∧ f' = f
      | some e => result = some e.outcome ∧
        f'.desk.session.transfers = f.desk.session.transfers ++ e.transfers ∧
        f'.desk.yieldRequested
          = (f.desk.yieldRequested || (decide (e.outcome ≠ .success) && e.original.isNone)) := by
  refine trigger_of_run hr hrun fun duty number transport herrand hleave => ?_
  rw [herrand]
  refine (Trigger.run_carries duty _ hasIncoming now hfresh).mono ?_ fun _ _ => id
  intro result b h
  cases hset : Trigger.setOut duty f.processor.chunkSize hasIncoming now (benchOf f transport).desk
      (benchOf f transport).link with
  | none =>
    rw [hset] at h
    obtain ⟨rfl, rfl⟩ := h
    exact ⟨rfl, hleave⟩
  | some e =>
    rw [hset] at h
    exact h

/-! ## Outcome and effects -/

open Trigger

/-- The effects of a trigger with an outcome. The outcome is a failure when a fault stopped the
exchange, and otherwise the class of the status. The original, if there is one, is transferred once,
to the relationship of the outcome. A response is transferred, at most once, when the exchange was
completed and either succeeded without putting bodies into attributes, or a response is always
wanted. A pause is asked for when there was no original and no success. -/
structure Effects (e : Errand) (before after : Desk) (outcome : Outcome) : Prop where
  outcome_eq : match e.delivery with
    | .error _ => outcome = .failure
    | .ok d => outcome = .ofStatus d.received.response.status
  transfers : ∃ new, after.session.transfers = before.session.transfers ++ new ∧
    (match e.original with
      | none => new.filter (fun t => t.1 ≠ .response) = []
      | some arrived => ∃ left, new.filter (fun t => t.1 ≠ .response)
          = [(outcome.relationship, left)] ∧ e.Leaves outcome arrived left) ∧
    (new.filter fun t => t.1 = .response).length
      = if outcome ≠ .failure ∧ ((outcome = .success ∧ e.duty.config.bodyAttribute = none) ∨
          e.duty.config.alwaysOutputResponse = true) then 1 else 0
  yield_iff : after.yieldRequested = true ↔ e.original = none ∧ outcome ≠ .success

/-- Outcome and effects agree: a trigger of a running processor has a result, and an outcome comes
with its effects. -/
theorem trigger_effects (hr : f.processor.Reachable) (hrun : f.processor.lifecycle = .running)
    (hfresh : Trigger.HeadFresh f.desk) (hyield : f.desk.yieldRequested = false)
    (hasIncoming : Bool) (now : Int) :
    ∃ result f', Step.on f (trigger hasIncoming now) = (.ok result, f') ∧
      match result with
      | none => f' = f
      | some outcome => ∃ e, f.errand? hasIncoming now = some e ∧
          Effects e f.desk f'.desk outcome := by
  obtain ⟨result, f', hon, h⟩ := trigger_carries hr hrun hfresh hasIncoming now
  refine ⟨result, f', hon, ?_⟩
  split at h
  case h_1 =>
    obtain ⟨rfl, rfl⟩ := h
    rfl
  case h_2 e he =>
    obtain ⟨rfl, ht, hy⟩ := h
    refine ⟨e, he, ?_, ⟨e.transfers, ht, e.originals_transfers, e.responses_transfers⟩, ?_⟩
    · cases hd : e.delivery with
      | error fault => exact Errand.outcome_of_fault hd
      | ok d => exact Errand.outcome_of_delivery hd
    · rw [hy, hyield, Bool.false_or, Bool.and_eq_true, decide_eq_true_iff, Option.isNone_iff_eq_none,
        and_comm]

/-- A processor that was scheduled, with an item in the queue and one answer on the network. -/
def replyFloor (reply : Reply) : Floor where
  processor := (Step.on ({} : Processor)
    (schedule { request := { url := "http://example.com/r" } }
      (.ok ({ config := {}, client := {} }, [])))).2
  desk := { session := { incoming := [{ id := "item-1" }] } }
  network := { steps := [{ answer := .ok reply }] }

/-- A processor that was scheduled once is one that can be reached. -/
theorem reachable_replyFloor (reply : Reply) : (replyFloor reply).processor.Reachable :=
  .schedule _ _ (.new _)

/-- An identifier that is shorter than those of the supply is none of them. -/
theorem headFresh_of_short {d : Desk} {item : WorkItem} (hi : d.session.incoming.head? = some item)
    (hshort : item.id.length < 24) : HeadFresh d := by
  rintro other ho n - h
  obtain rfl : item = other := Option.some.inj (hi.symm.trans (Option.mem_def.1 ho))
  have hlong : item.id.length = 24 + (Ids.paddedDecimal 12 n).length := by
    rw [h, Ids.length_text]
  omega

/-- The item in the queue has no identifier that will be drawn. -/
theorem headFresh_replyFloor (reply : Reply) : HeadFresh (replyFloor reply).desk :=
  headFresh_of_short rfl (by decide +kernel)

/-- An answer with status 404 leaves the original without a retry, and nothing else. -/
theorem trigger_effects_replyFloor :
    ∃ result f', Step.on (replyFloor { status := 404 }) (trigger false 0) = (.ok result, f') ∧
      match result with
      | none => f' = replyFloor { status := 404 }
      | some outcome => ∃ e, (replyFloor { status := 404 }).errand? false 0 = some e ∧
          Effects e (replyFloor { status := 404 }).desk f'.desk outcome :=
  trigger_effects (reachable_replyFloor _) rfl (headFresh_replyFloor _) rfl false 0

/-- The errand of a floor with one answer. -/
def replyErrand (reply : Reply) : Errand :=
  .of
    { config := { request := { url := "http://example.com/r" } }
      assembler :=
        { config := { url := "http://example.com/r" }, basicField := none, pattern := none } }
    Draft.defaultChunkSize 0 (some { id := "item-1" }) {}
    { client := {}, network := { steps := [{ answer := .ok reply }] } }

theorem errand_replyFloor (reply : Reply) :
    (replyFloor reply).errand? false 0 = some (replyErrand reply) := rfl

/-- A trigger on a floor with one answer ends as its errand does. -/
theorem trigger_replyFloor (reply : Reply) :
    ∃ f', Step.on (replyFloor reply) (trigger false 0) = (.ok (some (replyErrand reply).outcome), f') ∧
      f'.desk.session.transfers = (replyErrand reply).transfers := by
  obtain ⟨result, f', hon, h⟩ := trigger_carries (reachable_replyFloor reply) rfl
    (headFresh_replyFloor reply) false 0
  rw [errand_replyFloor] at h
  obtain ⟨rfl, ht, -⟩ := h
  exact ⟨f', hon, ht⟩

end Processor

end HttpCourier
