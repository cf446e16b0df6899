import HttpCourier.Proofs.Assembling
import HttpCourier.Proofs.Bookkeeping

/-!
# Retries

What a trigger writes to its original are bookkeeping attributes, as long as neither bodies nor
header fields are put into attributes of other names (`Errand.alike_of_mem_transfers`). So an item
that comes back, from whatever relationship it went to, is sent again as it was sent before, at
another date (`retried_alike`).
-/

namespace HttpCourier

open Step

namespace Trigger.Errand

open OrderedMap

variable {e : Errand} {plan : Plan} {received : Received} {item arrived : WorkItem}

/-- How an exchange went is said in bookkeeping attributes. -/
theorem status_bookkeeping (plan : Plan) (response : Response) :
    ∀ update ∈ plan.statusAttributes response, update.1 ∈ Assembler.bookkeepingKeys := by
  have hkeys : ∀ key ∈ keys (plan.statusAttributes response), key ∈ Assembler.bookkeepingKeys := by
    rw [keys_statusAttributes]
    decide
  exact fun update hu => hkeys _ (List.mem_map_of_mem hu)

/-- An original that is told of an answer is as it arrived, but for bookkeeping. -/
theorem told_alike (ha : e.duty.config.addResponseHeaders = false) (ho : e.original = some arrived)
    (h : item ∈ e.told plan received) : item.Alike arrived := by
  rw [told, ho, Option.map_some, Option.mem_some_iff] at h
  simp only [ha, Bool.false_eq_true, if_false] at h
  subst h
  exact (WorkItem.Alike.refl arrived).withAttributes (status_bookkeeping plan received.response)

/-- Without an attribute for bodies the text makes only a bookkeeping attribute. -/
theorem withText_alike (hb : e.duty.config.bodyAttribute = none) (h : item.Alike arrived)
    (text : Option String) : (withText e.duty text item).Alike arrived := by
  cases text with
  | none => exact h
  | some text =>
    refine h.withAttributes fun update hu => ?_
    rw [List.mem_singleton.1 hu, bodyKey_of_unset hb]
    exact show Assembler.responseBodyKey ∈ Assembler.bookkeepingKeys by decide

/-- The stamp of a fault makes only bookkeeping attributes. -/
theorem stamp_alike (h : item.Alike arrived) (fault : Fault) : (fault.stamp item).Alike arrived := by
  refine h.withPenalty.withAttributes fun update hu => ?_
  simp only [List.mem_cons, List.not_mem_nil, or_false] at hu
  rcases hu with rfl | rfl
  · exact show Desk.faultKindKey ∈ Assembler.bookkeepingKeys by decide
  · exact show Desk.faultTextKey ∈ Assembler.bookkeepingKeys by decide

/-- An original before a fault is as it arrived, but for bookkeeping. -/
theorem reached_alike (ha : e.duty.config.addResponseHeaders = false)
    (ho : e.original = some arrived) (h : item ∈ e.reached) : item.Alike arrived := by
  have horiginal : ∀ item ∈ e.original, item.Alike arrived := by
    rintro item hi
    rw [ho, Option.mem_some_iff] at hi
    exact hi ▸ .refl arrived
  unfold reached at h
  split at h
  case h_1 => exact horiginal item h
  case h_2 =>
    split at h
    case h_1 => exact horiginal item h
    case h_2 => exact told_alike ha ho h

/-- An original that is transferred differs in bookkeeping attributes only from the one that
arrived. -/
theorem alike_of_mem_transfers (hb : e.duty.config.bodyAttribute = none)
    (ha : e.duty.config.addResponseHeaders = false) (ho : e.original = some arrived)
    {t : Relationship × WorkItem} (ht : t ∈ e.transfers) (hne : t.1 ≠ .response) :
    t.2.Alike arrived := by
  cases hd : e.delivery with
  | error fault =>
    rw [transfers, hd] at ht
    obtain ⟨item, hitem, rfl⟩ := List.mem_map.1 ht
    exact stamp_alike (reached_alike ha ho (Option.mem_toList.1 hitem)) fault
  | ok d =>
    obtain ⟨-, -, text, -, horiginal, -⟩ := delivery_eq_ok hd
    rw [transfers, hd] at ht
    have hmem : t ∈ (e.duty.routing.handover d.received.response.status d.original d.response).filter
        fun t => t.1 ≠ .response := List.mem_filter.2 ⟨ht, decide_eq_true hne⟩
    rw [Routing.originals_handover, horiginal] at hmem
    obtain ⟨item, hitem, rfl⟩ := List.mem_map.1 hmem
    obtain ⟨told, htold, rfl⟩ := Option.map_eq_some_iff.1 (Option.mem_toList.1 hitem)
    have halike := withText_alike hb (told_alike ha ho htold) text
    dsimp only
    split
    · exact halike.withPenalty
    · exact halike

end Trigger.Errand

namespace Processor

open Trigger

variable {f : Floor}

/-- A duty is made from its configuration. -/
theorem config_of_duty {config : Config} {duty : Duty} (h : Duty.ofConfig config = .ok duty) :
    duty.config = config ∧ duty.assembler.config = config.request := by
  unfold Duty.ofConfig at h
  cases ha : Assembler.ofConfig config.request config.transport.auth with
  | error fault =>
    rw [ha] at h
    cases h
  | ok assembler =>
    rw [ha] at h
    obtain rfl := Except.ok.inj h
    refine ⟨rfl, ?_⟩
    obtain ⟨pattern, -, ha⟩ := ok_of_bind ha
    obtain ⟨basicField, -, ha⟩ := ok_of_bind ha
    exact (congrArg Assembler.config (Except.ok.inj ha)).symm

/-- The errand of a running processor with an item in the queue. -/
theorem exists_errand (hr : f.processor.Reachable) (hrun : f.processor.lifecycle = .running)
    {duty : Duty} (hduty : f.processor.duty = some duty) {arrived : WorkItem} {rest : List WorkItem}
    (hq : f.desk.session.incoming = arrived :: rest) (hasIncoming : Bool) (now : Int) :
    ∃ e, f.errand? hasIncoming now = some e ∧ e.duty = duty ∧ e.original = some arrived := by
  have he := hr.equipped
  obtain ⟨number, hc⟩ := Option.isSome_iff_exists.1 (he.running hrun).1
  obtain ⟨s, hs, -⟩ := he.slot number hc
  have hgear : f.processor.gear? = some (duty, s.handle) := by
    simp [gear?, hc, hs, hduty]
  refine ⟨.of duty f.processor.chunkSize now (some arrived) f.desk.ids
    { client := s.handle.client, network := f.network }, ?_, rfl, rfl⟩
  rw [Floor.errand?, hgear]
  simp only [Option.bind_eq_bind, Option.bind_some, setOut, hq]

/-- A retry sends the same request. Bodies and header fields are not put into attributes, and no
expression of the configuration names a bookkeeping attribute. Then a trigger transfers the item
that it took, once, and whatever the network did the draft for the item as it was transferred is the
one for the item as it arrived, at any moment; the drafts at two moments differ in their dates
only. -/
theorem retried_alike (hr : f.processor.Reachable) (hrun : f.processor.lifecycle = .running)
    (hfresh : HeadFresh f.desk) {config : Config} {duty : Duty}
    (hduty : f.processor.duty = some duty) (hconfig : Duty.ofConfig config = .ok duty)
    (hbody : config.bodyAttribute = none) (hheaders : config.addResponseHeaders = false)
    (hnames : config.request.ReadsNoBookkeeping) {arrived : WorkItem} {rest : List WorkItem}
    (hq : f.desk.session.incoming = arrived :: rest) (hasIncoming : Bool) (now : Int) :
    ∃ outcome new left f', Step.on f (trigger hasIncoming now) = (.ok (some outcome), f') ∧
      f'.desk.session.transfers = f.desk.session.transfers ++ new ∧
      new.filter (fun t => t.1 ≠ .response) = [(outcome.relationship, left)] ∧
      left.id = arrived.id ∧
      (∀ moment, duty.assembler.assemble (some left) moment
        = duty.assembler.assemble (some arrived) moment) ∧
      ∀ moment moment' draft draft' log log',
        duty.assembler.assemble (some arrived) moment = .ok (draft, log) →
        duty.assembler.assemble (some left) moment' = .ok (draft', log') →
        draft.SameButDate draft' := by
  obtain ⟨rfl, hrequest⟩ := config_of_duty hconfig
  obtain ⟨e, he, rfl, ho⟩ := exists_errand hr hrun hduty hq hasIncoming now
  obtain ⟨result, f', hon, h⟩ := trigger_carries hr hrun hfresh hasIncoming now
  rw [he] at h
  obtain ⟨rfl, ht, -⟩ := h
  have horiginals := e.originals_transfers
  rw [ho] at horiginals
  obtain ⟨left, hleft, hleaves⟩ := horiginals
  have hmem : (e.outcome.relationship, left) ∈ e.transfers.filter fun t => t.1 ≠ .response :=
    hleft ▸ List.mem_singleton_self _
  obtain ⟨hmem, hne⟩ := List.mem_filter.1 hmem
  have halike : left.Alike arrived :=
    Errand.alike_of_mem_transfers hbody hheaders ho hmem (of_decide_eq_true hne)
  have hsame : ∀ moment, e.duty.assembler.assemble (some left) moment
      = e.duty.assembler.assemble (some arrived) moment :=
    Assembler.assemble_congr (hrequest ▸ hnames) halike
  refine ⟨e.outcome, e.transfers, left, f', hon, ht, hleft, hleaves.id_eq, hsame, ?_⟩
  intro moment moment' draft draft' log log' h h'
  exact Assembler.assemble_sameButDate h (hsame moment' ▸ h')

/-- An item whose exchange is to be tried again: its answer has the status 503. -/
theorem retried_alike_replyFloor :
    let floor := replyFloor { status := 503 }
    ∃ duty outcome new left f', floor.processor.duty = some duty ∧
      Step.on floor (trigger false 0) = (.ok (some outcome), f') ∧
      f'.desk.session.transfers = new ∧
      new.filter (fun t => t.1 ≠ .response) = [(outcome.relationship, left)] ∧
      outcome = .retry ∧ left.id = "item-1" ∧
      ∀ moment, duty.assembler.assemble (some left) moment
        = duty.assembler.assemble (some { id := "item-1" }) moment := by
  intro floor
  let config : Config := { request := { url := "http://example.com/r" } }
  have hnames : config.request.ReadsNoBookkeeping := by
    unfold Config.Request.ReadsNoBookkeeping
    decide +kernel
  have hconfig : Duty.ofConfig config = .ok (replyErrand { status := 503 }).duty := rfl
  obtain ⟨outcome, new, left, f', hon, ht, hleft, hid, hsame, -⟩ :=
    retried_alike (reachable_replyFloor { status := 503 }) rfl (headFresh_replyFloor _) rfl hconfig
      rfl rfl hnames rfl false 0
  obtain ⟨f'', hon', -⟩ := trigger_replyFloor { status := 503 }
  have hretry : (replyErrand { status := 503 }).outcome = .retry := by decide +kernel
  obtain ⟨houtcome, -⟩ := Prod.mk.inj (hon.symm.trans hon')
  have houtcome : outcome = .retry :=
    (Option.some.inj (Except.ok.inj houtcome)).trans hretry
  exact ⟨_, outcome, new, left, f', rfl, hon, ht, hleft, houtcome, hid, hsame⟩

end Processor

end HttpCourier
