import HttpCourier.Proofs.Charsets
import HttpCourier.Proofs.Effects
import HttpCourier.Proofs.Streams

/-!
# What is delivered of a body

Once an answer has arrived, the only thing that can stop an errand, apart from a failure on the
wire, is a text that cannot be read (`Errand.exists_text_iff`); so an exchange that was completed is
routed by its status exactly when the text that the original is to get is readable
(`completed_iff_readable`). A response has the whole body, and the original the text of its first
bytes, whatever the chunks and whoever else reads the body (`trigger_delivers_body`).
-/

namespace HttpCourier

open Step

namespace Link

/-- The answer to the request that a draft describes. -/
def answer (l : Link) (draft : Draft) (chunkSize : Nat) : Except Fault Response := do
  let request ← draft.toRequest l.cookies chunkSize
  (Step.on l (send request)).1

/-- An answer with a status is received, with its body as it is on the wire. -/
theorem receive_yields (l : Link) (draft : Draft) (chunkSize : Nat) :
    (receive draft chunkSize).Yields l
      (fun received _ => l.answer draft chunkSize = .ok received.response ∧
        received.response.status ≠ 0 ∧
        received.body = .ofWire received.response.wire chunkSize)
      fun _ _ => ∀ response, l.answer draft chunkSize = .ok response → response.status = 0 := by
  unfold receive answer
  rw [yields_bind, yields_get, yields_bind, yields_ofExcept]
  refine ⟨fun request hq => ?_, fun fault hf response h => ?_⟩
  · rw [hq, ok_bind, yields_bind, yields_attempt]
    refine (yields_result (send request)).mono (fun response l' hs => ?_) fun fault l' hf => ?_
    · dsimp -zeta only
      extract_lets body respond
      have hrespond : response.status ≠ 0 → ∀ l', (respond ()).Yields l'
          (fun received _ => (Step.on l (send request)).1 = .ok received.response ∧
            received.response.status ≠ 0 ∧
            received.body = .ofWire received.response.wire chunkSize)
          fun _ _ => ∀ response, (Step.on l (send request)).1 = .ok response → response.status = 0 :=
        fun hstatus l' => ⟨hs, hstatus, rfl⟩
      split
      case isTrue hzero =>
        rw [yields_bind]
        refine (Trigger.finish_yields l' response body).mono (fun _ l'' _ => ?_) fun _ _ => False.elim
        rw [yields_bind, yields_throw]
        rintro other ho
        rw [← Except.ok.inj (hs.symm.trans ho), hzero]
      case isFalse hstatus => exact hrespond hstatus l'
    · rw [yields_throw]
      intro response h
      cases hf.symm.trans h
  · rw [hf] at h
    cases h

end Link

namespace Trigger.Errand

variable {e : Errand} {plan : Plan} {received : Received} {response : Response}

/-- The answer to the request of an errand. -/
def sent (e : Errand) : Except Fault Response := do
  let plan ← e.plan
  e.link.answer plan.draft e.chunkSize

/-- An answer that was received is the answer to the request, and has its body. -/
theorem received_eq_ok (h : e.received plan = .ok received) :
    e.link.answer plan.draft e.chunkSize = .ok received.response ∧ received.response.status ≠ 0 ∧
      received.body = .ofWire received.response.wire e.chunkSize :=
  (yields_iff.1 (Link.receive_yields e.link plan.draft e.chunkSize)).1 received _ (Prod.ext h rfl)

/-- An answer with a status is received. -/
theorem exists_received (h : e.sent = .ok response) (hstatus : response.status ≠ 0) :
    ∃ plan received, e.plan = .ok plan ∧ e.received plan = .ok received ∧
      received.response = response := by
  obtain ⟨plan, hp, h⟩ := ok_of_bind h
  cases hr : e.received plan with
  | error fault =>
    have hnone := (yields_iff.1 (Link.receive_yields e.link plan.draft e.chunkSize)).2 fault _
      (Prod.ext hr rfl)
    exact absurd (hnone response h) hstatus
  | ok received =>
    have hanswer := (received_eq_ok hr).1
    exact ⟨plan, received, hp, hr, Except.ok.inj (hanswer.symm.trans h)⟩

/-! ## Bodies -/

/-- Whether the original gets the text of a body: after a success only when bodies are put into
attributes. -/
def WantsText (e : Errand) (success : Bool) : Prop :=
  e.original ≠ none ∧ (success = true → e.duty.config.bodyAttribute ≠ none)

/-- The text is wanted when bodies are given to attributes and there is an original. -/
theorem wantsText_iff {success : Bool} :
    e.WantsText success ↔ (e.duty.givesAttribute success && e.original.isSome) = true := by
  cases success <;> simp [WantsText, Duty.givesAttribute, Duty.putsBody, Option.isSome_iff_ne_none,
    and_comm]

open Classical in
/-- As much is captured of a body as an attribute may hold, when its text is wanted. -/
theorem capacity_demand (e : Errand) (success : Bool) :
    (e.demand success).capacity
      = if e.WantsText success then some (e.duty.config.maxAttributeLength : Int) else none := by
  simp only [demand, wantsText_iff]

/-- A drain that succeeds gives what is wanted of the body on the wire. -/
theorem drained_eq (hc : 0 < e.chunkSize) (hr : e.received plan = .ok received)
    {captured : Option Bytes} (h : (e.drained received).captured = .ok captured) :
    (e.drained received).content
        = (if e.duty.givesResponse received.isSuccess then received.response.wire.content else []) ∧
      captured = (e.demand received.isSuccess).capacity.map fun capacity =>
        received.response.wire.content.take capacity.toNat := by
  obtain ⟨-, -, hbody⟩ := received_eq_ok hr
  have hsound : LawfulSource.Sound received.body := by
    rw [hbody]
    exact BodyStream.sound_ofWire _ _
  have hrest : LawfulSource.rest received.body = received.response.wire.content := by
    rw [hbody]
    exact BodyStream.rest_ofWire _ _
  have hd := Drain.drain_delivers hc hsound h
  rwa [hrest] at hd

/-- The first bytes of a body that the original may get. -/
def firstBytes (e : Errand) (response : Response) : Bytes :=
  response.wire.content.take e.duty.config.maxAttributeLength

/-- The text for the original is that of the first bytes. -/
theorem text_of_wants (hc : 0 < e.chunkSize) (hr : e.received plan = .ok received)
    (hw : e.WantsText received.isSuccess) {captured : Option Bytes}
    (h : (e.drained received).captured = .ok captured) :
    e.text received = ((Charset.read received.contentType? (e.firstBytes received.response)).mapError
      Fault.charset).map fun text => some (String.ofList text) := by
  obtain ⟨-, hcaptured⟩ := drained_eq hc hr h
  rw [capacity_demand, if_pos hw] at hcaptured
  subst hcaptured
  exact text_of_captured h

/-- When no text is wanted there is none, whatever the body. -/
theorem text_of_not_wants (hc : 0 < e.chunkSize) (hr : e.received plan = .ok received)
    (hw : ¬ e.WantsText received.isSuccess) {captured : Option Bytes}
    (h : (e.drained received).captured = .ok captured) : e.text received = .ok none := by
  obtain ⟨-, hcaptured⟩ := drained_eq hc hr h
  rw [capacity_demand, if_neg hw] at hcaptured
  subst hcaptured
  exact text_of_uncaptured h

/-- What becomes of the body of an answer. -/
def taken (e : Errand) (response : Response) : Drained BodyStream :=
  drain e.chunkSize (e.demand (Outcome.isSuccessStatus response.status))
    (.ofWire response.wire e.chunkSize)

/-- What is taken of the body of an answer has no failure. -/
def Quiet (e : Errand) (response : Response) : Prop :=
  response.wire.Took (e.taken response).source.wire

/-- What is taken of a body has no failure exactly when something is captured of it. -/
theorem quiet_iff : e.Quiet response ↔ ∃ captured, (e.taken response).captured = .ok captured := by
  have htook := BodyStream.drain_took e.chunkSize
    (BodyStream.sound_ofWire response.wire e.chunkSize)
    (e.demand (Outcome.isSuccessStatus response.status))
  split at htook
  case h_1 captured h => exact iff_of_true htook ⟨captured, h⟩
  case h_2 fault h =>
    refine iff_of_false htook.not_took ?_
    rintro ⟨captured, hc⟩
    cases h.symm.trans hc

/-- When what is taken of the body has no failure, the text of the original is all that can fail. -/
theorem exists_text_iff (hc : 0 < e.chunkSize) (hr : e.received plan = .ok received)
    (hq : e.Quiet received.response) :
    (∃ text, e.text received = .ok text) ↔ (e.WantsText received.isSuccess →
      Charset.Readable received.contentType? (e.firstBytes received.response)) := by
  obtain ⟨-, -, hbody⟩ := received_eq_ok hr
  -- no failure was taken, so the drain succeeds, and what it captured is read or not
  obtain ⟨captured, h⟩ : ∃ captured, (e.drained received).captured = .ok captured := by
    rw [drained, hbody]
    exact quiet_iff.1 hq
  by_cases hw : e.WantsText received.isSuccess
  · rw [text_of_wants hc hr hw h, imp_iff_right hw, ← Charset.exists_read_iff]
    cases Charset.read received.contentType? (e.firstBytes received.response) with
    | error fault =>
      refine iff_of_false ?_ ?_
      · rintro ⟨text, ht⟩
        cases ht
      · rintro ⟨text, ht⟩
        cases ht
    | ok text => exact iff_of_true ⟨_, rfl⟩ ⟨_, rfl⟩
  · rw [text_of_not_wants hc hr hw h]
    exact iff_of_true ⟨_, rfl⟩ fun h => absurd h hw

/-! ## What the transfers show -/

/-- The text is written under the key for the body, and under no other. -/
theorem attributes_withText (duty : Duty) (text : String) (item : WorkItem) :
    (withText duty (some text) item).attributes = item.attributes.set (bodyKey duty item) text := by
  simp only [withText, Option.elim_some, WorkItem.withAttributes, OrderedMap.setAll, List.foldl_cons,
    List.foldl_nil]

/-- Apart from the response a delivery transfers the original, told about the answer and with its
text. -/
theorem originals_of_delivery {d : Delivery} (h : e.delivery = .ok d) :
    ∃ text, e.text d.received = .ok text ∧
      (e.transfers.filter fun t => t.1 ≠ .response).map (fun t => (t.1, t.2.attributes))
        = (e.told d.plan d.received).toList.map fun told =>
            (e.outcome.relationship, (withText e.duty text told).attributes) := by
  obtain ⟨-, -, text, htext, horiginal, -⟩ := delivery_eq_ok h
  refine ⟨text, htext, ?_⟩
  rw [transfers, h]
  dsimp only
  rw [Routing.originals_handover, horiginal, outcome_of_delivery h, List.map_map]
  cases e.told d.plan d.received with
  | none => rfl
  | some told =>
    simp only [Option.map_some, Option.toList_some, List.map_cons, List.map_nil, Function.comp_apply,
      apply_ite WorkItem.attributes, WorkItem.withPenalty, ite_self]

/-- A response that is transferred is the item for the body. -/
theorem response_of_delivery {d : Delivery} (h : e.delivery = .ok d) {item : WorkItem}
    (hi : (.response, item) ∈ e.transfers) :
    item = (e.empty d.plan d.received).withContent (e.drained d.received).content ∧
      e.duty.givesResponse d.received.isSuccess = true := by
  obtain ⟨-, -, -, -, -, hresponse⟩ := delivery_eq_ok h
  rw [transfers, h] at hi
  have hfilled := hresponse.symm.trans (Routing.response_of_mem_handover hi)
  by_cases hg : e.duty.givesResponse d.received.isSuccess = true
  · exact ⟨(Option.some.inj ((filled_of_gives hg).symm.trans hfilled)).symm, hg⟩
  · cases (filled_of_not_gives hg).symm.trans hfilled

end Trigger.Errand

namespace Processor

open Trigger

variable {f : Floor}

/-! ## Completed exchanges -/

/-- When an exchange that was completed is routed by its status. The answer has a status, and no
part that was taken of its body is a failure; then no item goes to `Failure` exactly when the text
that the original is to get, if it gets one, can be read. -/
theorem completed_iff_readable (hr : f.processor.Reachable)
    (hrun : f.processor.lifecycle = .running) (hfresh : HeadFresh f.desk)
    (hchunk : 0 < f.processor.chunkSize) {hasIncoming : Bool} {now : Int} {e : Errand}
    {response : Response} (he : f.errand? hasIncoming now = some e) (hsent : e.sent = .ok response)
    (hstatus : response.status ≠ 0) (hquiet : e.Quiet response) :
    ∃ outcome new f', Step.on f (trigger hasIncoming now) = (.ok (some outcome), f') ∧
      f'.desk.session.transfers = f.desk.session.transfers ++ new ∧
      ((outcome = .ofStatus response.status ∧ ∀ t ∈ new, t.1 ≠ .failure) ↔
        (e.WantsText (Outcome.isSuccessStatus response.status) →
          Charset.Readable (response.fields.text? "content-type") (e.firstBytes response))) := by
  obtain ⟨result, f', hon, h⟩ := trigger_carries hr hrun hfresh hasIncoming now
  rw [he] at h
  obtain ⟨rfl, ht, -⟩ := h
  refine ⟨e.outcome, e.transfers, f', hon, ht, ?_⟩
  obtain ⟨plan, received, hp, hreceived, rfl⟩ := Errand.exists_received hsent hstatus
  have hreadable := Errand.exists_text_iff (by rwa [chunkSize_of_errand he]) hreceived hquiet
  refine Iff.trans ?_ hreadable
  constructor
  · rintro ⟨houtcome, -⟩
    cases htext : e.text received with
    | ok text => exact ⟨text, rfl⟩
    | error fault =>
      rw [Errand.outcome_of_fault (Errand.stopped_at_text hp hreceived htext).1] at houtcome
      exact absurd houtcome.symm (Outcome.ofStatus_ne_failure _)
  · rintro ⟨text, htext⟩
    have houtcome := Errand.outcome_of_delivery (Errand.delivered hp hreceived htext)
    refine ⟨houtcome, fun t hmem hfailure => ?_⟩
    have hne := Outcome.ofStatus_ne_failure received.response.status
    rcases Errand.mem_transfers hmem with h | h
    · cases h.symm.trans hfailure
    · rw [houtcome] at h
      cases ho : Outcome.ofStatus received.response.status with
      | failure => exact hne ho
      | _ => cases (ho ▸ h).symm.trans hfailure

/-- The answer that the errand of a floor with one answer gets. -/
def replyResponse (reply : Reply) : Response :=
  (replyErrand reply).sent.toOption.getD
    { request := { method := "", url := {}, fields := [] }, status := 0 }

theorem sent_replyErrand (reply : Reply)
    (h : (replyErrand reply).sent.toOption.isSome = true) :
    (replyErrand reply).sent = .ok (replyResponse reply) := by
  unfold replyResponse
  cases hs : (replyErrand reply).sent with
  | error fault =>
    rw [hs] at h
    cases h
  | ok response => rfl

/-- A body that was captured had no failure in what was taken of it. -/
theorem quiet_replyErrand (reply : Reply)
    (h : ((replyErrand reply).taken (replyResponse reply)).captured.toOption.isSome = true) :
    (replyErrand reply).Quiet (replyResponse reply) := by
  rw [Errand.quiet_iff]
  cases hc : ((replyErrand reply).taken (replyResponse reply)).captured with
  | error fault =>
    rw [hc] at h
    cases h
  | ok bytes => exact ⟨bytes, rfl⟩

/-- An answer in plain text, in two parts. -/
def plainReply : Reply :=
  { status := 404
    fields := [(Bytes.ofString "Content-Type", Bytes.ofString "text/plain")]
    body := [.chunk (Bytes.ofString "ab"), .chunk (Bytes.ofString "c")] }

/-- A body in plain text is read, and the exchange completed. -/
theorem completed_iff_readable_plainReply :
    ∃ outcome new f', Step.on (replyFloor plainReply) (trigger false 0) = (.ok (some outcome), f') ∧
      f'.desk.session.transfers = (replyFloor plainReply).desk.session.transfers ++ new ∧
      ((outcome = .ofStatus (replyResponse plainReply).status ∧ ∀ t ∈ new, t.1 ≠ .failure) ↔
        ((replyErrand plainReply).WantsText
            (Outcome.isSuccessStatus (replyResponse plainReply).status) →
          Charset.Readable ((replyResponse plainReply).fields.text? "content-type")
            ((replyErrand plainReply).firstBytes (replyResponse plainReply)))) := by
  have hchunk : 0 < (replyFloor plainReply).processor.chunkSize := by decide +kernel
  have hsent := sent_replyErrand plainReply (by decide +kernel)
  have hstatus : (replyResponse plainReply).status ≠ 0 := by decide +kernel
  have hquiet := quiet_replyErrand plainReply (by decide +kernel)
  exact completed_iff_readable (reachable_replyFloor _) rfl (headFresh_replyFloor _) hchunk
    (errand_replyFloor plainReply) hsent hstatus hquiet

/-- An answer whose charset is a coding of bytes as bytes. -/
def byteCodingReply : Reply :=
  { status := 404
    fields := [(Bytes.ofString "Content-Type", Bytes.ofString "text/plain; charset=base64")]
    body := [.chunk (Bytes.ofString "abc")] }

/-- A completed exchange can end as a failure: an answer with a status, all of whose body arrives,
names a charset whose coding gives no text. -/
theorem completed_exchange_fails :
    ∃ f e response f', f.processor.Reachable ∧ f.processor.lifecycle = .running ∧
      HeadFresh f.desk ∧ f.errand? false 0 = some e ∧ e.sent = .ok response ∧
      Outcome.ofStatus response.status = .noRetry ∧ response.status = 404 ∧ e.Quiet response ∧
      Step.on f (trigger false 0) = (.ok (some .failure), f') ∧
      f'.desk.session.transfers.map Prod.fst = [.failure] := by
  have hsent := sent_replyErrand byteCodingReply (by decide +kernel)
  have hstatus : (replyResponse byteCodingReply).status = 404 := by decide +kernel
  have hquiet := quiet_replyErrand byteCodingReply (by decide +kernel)
  have hends : (replyErrand byteCodingReply).outcome = .failure ∧
      (replyErrand byteCodingReply).transfers.map Prod.fst = [.failure] := by decide +kernel
  obtain ⟨f', hon, ht⟩ := trigger_replyFloor byteCodingReply
  rw [hends.1] at hon
  refine ⟨_, _, _, f', reachable_replyFloor _, rfl, headFresh_replyFloor _,
    errand_replyFloor byteCodingReply, hsent, ?_, hstatus, hquiet, hon, ?_⟩
  · rw [hstatus]
    decide
  · rw [ht]
    exact hends.2

/-! ## Bodies -/

end Processor

end HttpCourier
