import HttpCourier.Proofs.Attributes
import HttpCourier.Proofs.Delivery

/-!
# Bookkeeping attributes

Items say of their exchange what `Plan.statusAttributes` says, and a response says its own
identifier. The header fields of the answer are written to the same items afterwards, under names
that the server chose: to a response always, to the original when header fields are added to it. So
an item says all that it should exactly when no field disputes an entry (`trigger_records_iff`).
-/

namespace HttpCourier

open Step

namespace OrderedMap

variable {α β : Type} [DecidableEq α] {m updates : OrderedMap α β} {entries : List (α × β)}

/-- A map has the entries of a list. -/
def Says (m : OrderedMap α β) (entries : List (α × β)) : Prop :=
  ∀ entry ∈ entries, m.get? entry.1 = some entry.2

/-- A map has no other values for the keys of a list of entries. -/
def Undisputed (m : OrderedMap α β) (entries : List (α × β)) : Prop :=
  ∀ entry ∈ entries, ∀ value, m.get? entry.1 = some value → value = entry.2

/-- Entries with different keys are there once they are written. -/
theorem says_setAll_self (m : OrderedMap α β) (h : (keys entries).Nodup) :
    (m.setAll entries).Says entries := by
  intro entry he
  rw [get?_setAll_of_nodup m h, get?_of_mem h he, Option.some_or]

/-- What a map says stands after other values were written exactly when these do not dispute it. -/
theorem says_setAll_iff (hu : updates.keys.Nodup) (hm : m.Says entries) :
    (m.setAll updates).Says entries ↔ updates.Undisputed entries := by
  refine forall₂_congr fun entry he => ?_
  rw [get?_setAll_of_nodup m hu, hm entry he]
  cases updates.get? entry.1 with
  | none => simp
  | some value => simp

/-- A map has the entries of a list when it has the first and the others. -/
theorem says_cons {entry : α × β} :
    m.Says (entry :: entries) ↔ m.get? entry.1 = some entry.2 ∧ m.Says entries :=
  List.forall_mem_cons

/-- To write under another key leaves the entries of a list. -/
theorem get?_set_of_mem {key : α} (h : key ∉ keys entries) (m : OrderedMap α β) (value : β)
    {entry : α × β} (he : entry ∈ entries) : (m.set key value).get? entry.1 = m.get? entry.1 := by
  have hmem : entry.1 ∈ keys entries := List.mem_map_of_mem he
  exact get?_set_of_ne m value fun heq => h (heq ▸ hmem)

/-- A value that is written to another key changes nothing of what is said. -/
theorem says_set_iff {key : α} (h : key ∉ keys entries) (m : OrderedMap α β) (value : β) :
    (m.set key value).Says entries ↔ m.Says entries :=
  forall₂_congr fun entry he => by rw [get?_set_of_mem h m value he]

/-- To write under another key disputes no entry of a list. -/
theorem undisputed_set_iff {key : α} (h : key ∉ keys entries) (m : OrderedMap α β) (value : β) :
    (m.set key value).Undisputed entries ↔ m.Undisputed entries :=
  forall₂_congr fun entry he => by rw [get?_set_of_mem h m value he]

end OrderedMap

namespace Trigger

open OrderedMap

variable {plan : Plan} {received : Received} {response : Response}

/-! ## The header fields -/

/-- No attribute is made of two header names. -/
theorem nodup_headerAttributes (received : Received) : (headerAttributes received).keys.Nodup := by
  unfold headerAttributes
  split
  · exact Headers.nodup_toAttributes _
  · exact nodup_set (Headers.nodup_toAttributes _) _ _

/-- The name of the other side disputes nothing, so only header fields can. -/
theorem undisputed_headerAttributes {entries : List (String × String)}
    (h : Assembler.peerKey ∉ keys entries) :
    (headerAttributes received).Undisputed entries ↔
      received.headers.toAttributes.Undisputed entries := by
  unfold headerAttributes
  split
  · rfl
  · exact undisputed_set_iff h _ _

/-! ## The entries -/

theorem keys_statusAttributes (plan : Plan) (response : Response) :
    keys (plan.statusAttributes response) = [Assembler.statusCodeKey, Assembler.statusMessageKey,
      Assembler.requestUrlKey, Assembler.transactionKey] := rfl

/-- The attributes about the status have names of their own. -/
theorem nodup_statusAttributes (plan : Plan) (response : Response) :
    (keys (plan.statusAttributes response)).Nodup := by
  rw [keys_statusAttributes]
  decide

/-- What a response says of itself and its exchange. -/
def Plan.responseEntries (plan : Plan) (response : Response) (id : String) : List (String × String) :=
  (WorkItem.uuidKey, id) :: plan.statusAttributes response

theorem keys_responseEntries (plan : Plan) (response : Response) (id : String) :
    keys (plan.responseEntries response id) = [WorkItem.uuidKey, Assembler.statusCodeKey,
      Assembler.statusMessageKey, Assembler.requestUrlKey, Assembler.transactionKey] := rfl

namespace Errand

variable {e : Errand} {d : Delivery}

/-- Without an attribute of its own the text of a body gets the usual one. -/
theorem bodyKey_of_unset {duty : Duty} (h : duty.config.bodyAttribute = none) (item : WorkItem) :
    bodyKey duty item = Assembler.responseBodyKey := by
  have hkey : Text.trim (Expression.expand "" item.attributes) = "" := by
    simp [Expression.expand, Expression.expandChars, Text.trim]
  simp only [bodyKey, h, Option.getD_none, hkey]
  rfl

/-- An original says how its exchange went unless it is given a header field that disputes it. -/
theorem told_says_iff {told : WorkItem} (h : e.told plan received = some told) :
    told.attributes.Says (plan.statusAttributes received.response) ↔
      (e.duty.config.addResponseHeaders = true →
        received.headers.toAttributes.Undisputed (plan.statusAttributes received.response)) := by
  obtain ⟨item, -, h⟩ := Option.map_eq_some_iff.1 h
  subst h
  have hstatus := says_setAll_self item.attributes (nodup_statusAttributes plan received.response)
  have hpeer : Assembler.peerKey ∉ keys (plan.statusAttributes received.response) := by
    rw [keys_statusAttributes]
    decide
  by_cases ha : e.duty.config.addResponseHeaders = true
  · rw [if_pos ha, imp_iff_right ha, ← undisputed_headerAttributes hpeer]
    exact says_setAll_iff (nodup_headerAttributes received) hstatus
  · rw [if_neg ha]
    exact iff_of_true hstatus fun h => absurd h ha

/-- The text of a body leaves what an original says of its exchange. -/
theorem withText_says_iff (hb : e.duty.config.bodyAttribute = none) (text : Option String)
    (item : WorkItem) :
    (withText e.duty text item).attributes.Says (plan.statusAttributes response) ↔
      item.attributes.Says (plan.statusAttributes response) := by
  have hkey : Assembler.responseBodyKey ∉ keys (plan.statusAttributes response) := by
    rw [keys_statusAttributes]
    decide
  cases text with
  | none => rfl
  | some text =>
    rw [attributes_withText, bodyKey_of_unset hb]
    exact says_set_iff hkey _ _

/-- A new item that was told about an answer says its identifier and how the exchange went. -/
theorem created_says (ids : Ids) (inherited : Attributes) (plan : Plan) (response : Response) :
    ((WorkItem.create ids inherited).1.attributes.setAll (plan.statusAttributes response)).Says
      (plan.responseEntries response (WorkItem.create ids inherited).1.id) := by
  have hstatus := nodup_statusAttributes plan response
  have huuid : WorkItem.uuidKey ∉ keys (plan.statusAttributes response) := by
    rw [keys_statusAttributes]
    decide
  refine says_cons.2 ⟨?_, says_setAll_self _ hstatus⟩
  rw [get?_setAll_of_nodup _ hstatus, get?_eq_none_iff.2 huuid, Option.none_or, WorkItem.create_uuid]

/-- A response says its identifier and how its exchange went unless a header field disputes it. -/
theorem empty_says_iff (e : Errand) (plan : Plan) (received : Received) :
    (e.empty plan received).attributes.Says
        (plan.responseEntries received.response (e.empty plan received).id) ↔
      received.headers.toAttributes.Undisputed
        (plan.responseEntries received.response (e.empty plan received).id) := by
  generalize hid : (e.empty plan received).id = id
  have hpeer : Assembler.peerKey ∉ keys (plan.responseEntries received.response id) := by
    rw [keys_responseEntries]
    decide
  have htype : typeKey ∉ keys (plan.responseEntries received.response id) := by
    rw [keys_responseEntries]
    decide
  have hcreated := created_says e.ids ((e.told plan received).elim [] fun item =>
    item.attributes.erase WorkItem.uuidKey) plan received.response
  rw [show (WorkItem.create e.ids _).1.id = id from hid] at hcreated
  rw [← undisputed_headerAttributes hpeer,
    ← says_setAll_iff (nodup_headerAttributes received) hcreated]
  -- the type of the body is written last, to a key of its own
  simp only [empty, WorkItem.withAttributes]
  unfold typeAttribute
  split
  · split
    · rfl
    · exact says_set_iff htype _ _
  · rfl

/-- When a transferred item says what it should of a delivery. -/
structure RecordsUndisputed (e : Errand) (d : Delivery) (t : Relationship × WorkItem) : Prop where
  response : t.1 = .response →
    (t.2.attributes.Says (d.plan.responseEntries d.received.response t.2.id) ↔
      d.received.headers.toAttributes.Undisputed
        (d.plan.responseEntries d.received.response t.2.id))
  original : t.1 ≠ .response →
    (t.2.attributes.Says (d.plan.statusAttributes d.received.response) ↔
      (e.duty.config.addResponseHeaders = true →
        d.received.headers.toAttributes.Undisputed (d.plan.statusAttributes d.received.response)))

/-- Every item that a completed errand transfers says what it should as far as the header fields do
not dispute it. -/
theorem recordsUndisputed_of_mem_transfers (hb : e.duty.config.bodyAttribute = none)
    (h : e.delivery = .ok d) {t : Relationship × WorkItem} (ht : t ∈ e.transfers) :
    e.RecordsUndisputed d t := by
  refine ⟨fun hresponse => ?_, fun horiginal => ?_⟩
  · obtain ⟨relationship, item⟩ := t
    obtain rfl : relationship = .response := hresponse
    obtain ⟨rfl, -⟩ := response_of_delivery h ht
    exact empty_says_iff e d.plan d.received
  · obtain ⟨text, -, horiginals⟩ := originals_of_delivery h
    have hmem : (t.1, t.2.attributes) ∈ (e.told d.plan d.received).toList.map fun told =>
        (e.outcome.relationship, (withText e.duty text told).attributes) :=
      horiginals ▸ List.mem_map_of_mem (List.mem_filter.2 ⟨ht, decide_eq_true horiginal⟩)
    obtain ⟨told, htold, heq⟩ := List.mem_map.1 hmem
    rw [← (Prod.mk.inj heq).2, withText_says_iff hb text told]
    exact told_says_iff (Option.mem_toList.1 htold)

end Errand

end Trigger

namespace Processor

open Trigger OrderedMap

variable {f : Floor}

/-- When bookkeeping attributes tell the truth. Without an attribute for bodies, an item that a
trigger transfers after a completed exchange says the status, its phrase, the URL and the identifier
of the exchange exactly when no header field was written to it that disputes one of them; and a
response its own identifier as well. -/
theorem trigger_records_iff (hr : f.processor.Reachable) (hrun : f.processor.lifecycle = .running)
    (hfresh : HeadFresh f.desk) (hasIncoming : Bool) (now : Int) :
    ∃ result f' new, Step.on f (trigger hasIncoming now) = (.ok result, f') ∧
      f'.desk.session.transfers = f.desk.session.transfers ++ new ∧
      ∀ t ∈ new, t.1 ≠ .failure → ∃ e d, f.errand? hasIncoming now = some e ∧ e.delivery = .ok d ∧
        (e.duty.config.bodyAttribute = none → e.RecordsUndisputed d t) := by
  obtain ⟨result, f', hon, h⟩ := trigger_carries hr hrun hfresh hasIncoming now
  split at h
  case h_1 =>
    obtain ⟨rfl, rfl⟩ := h
    exact ⟨none, _, [], hon, (List.append_nil _).symm, nofun⟩
  case h_2 e he =>
    obtain ⟨-, ht, -⟩ := h
    refine ⟨result, f', e.transfers, hon, ht, fun t hmem hne => ?_⟩
    cases hd : e.delivery with
    | error fault =>
      rw [Errand.transfers, hd] at hmem
      obtain ⟨item, -, rfl⟩ := List.mem_map.1 hmem
      exact absurd rfl hne
    | ok d => exact ⟨e, d, he, hd, fun hb => Errand.recordsUndisputed_of_mem_transfers hb hd hmem⟩

/-- An answer whose header fields dispute nothing. -/
theorem trigger_records_iff_plainReply :
    ∃ (e : Errand) (d : Delivery) (item : WorkItem), e.delivery = .ok d ∧
      (∃ f', Step.on (replyFloor plainReply) (trigger false 0) = (.ok (some .noRetry), f') ∧
        f'.desk.session.transfers = [(.noRetry, item)]) ∧
      e.RecordsUndisputed d (.noRetry, item) := by
  obtain ⟨result, f', new, hon, ht, h⟩ := trigger_records_iff (reachable_replyFloor plainReply) rfl
    (headFresh_replyFloor plainReply) false 0
  obtain ⟨f'', hon', ht'⟩ := trigger_replyFloor plainReply
  obtain ⟨-, rfl⟩ := Prod.mk.inj (hon.symm.trans hon')
  obtain rfl : new = (replyErrand plainReply).transfers := ht.symm.trans ht'
  have hends : (replyErrand plainReply).outcome = .noRetry ∧
      (replyErrand plainReply).transfers.map Prod.fst = [.noRetry] := by decide +kernel
  obtain ⟨⟨relationship, item⟩, hone, rfl⟩ := List.map_eq_singleton_iff.1 hends.2
  rw [hone] at h ht'
  obtain ⟨e, d, he, hd, hrecords⟩ := h _ (List.mem_singleton_self _) nofun
  obtain rfl := Option.some.inj ((errand_replyFloor plainReply).symm.trans he)
  exact ⟨_, d, item, hd, ⟨f', hends.1 ▸ hon', ht'⟩, hrecords rfl⟩

/-- An answer with header fields named like bookkeeping attributes. -/
def forgingReply : Reply :=
  { status := 200
    fields := [(Bytes.ofString "invokehttp.status.code", Bytes.ofString "503"),
      (Bytes.ofString "uuid", Bytes.ofString "forged")]
    body := [.chunk (Bytes.ofString "abc")] }

/-- A server can forge bookkeeping attributes: the response to an answer with the status 200 says
another status, and another identifier than its own. -/
theorem bookkeeping_forged :
    ∃ f e response f', f.processor.Reachable ∧ f.processor.lifecycle = .running ∧
      HeadFresh f.desk ∧ f.errand? false 0 = some e ∧ e.duty.config.bodyAttribute = none ∧
      e.sent = .ok response ∧ response.status = 200 ∧
      Step.on f (trigger false 0) = (.ok (some .success), f') ∧
      ∃ t ∈ f'.desk.session.transfers, t.1 = .response ∧
        t.2.attributes.get? Assembler.statusCodeKey = some "503" ∧
        t.2.attributes.get? WorkItem.uuidKey ≠ some t.2.id := by
  have hsent := sent_replyErrand forgingReply (by decide +kernel)
  have hstatus : (replyResponse forgingReply).status = 200 := by decide +kernel
  have hends : (replyErrand forgingReply).outcome = .success ∧
      ∃ t ∈ (replyErrand forgingReply).transfers, t.1 = .response ∧
        t.2.attributes.get? Assembler.statusCodeKey = some "503" ∧
        t.2.attributes.get? WorkItem.uuidKey ≠ some t.2.id := by decide +kernel
  obtain ⟨f', hon, ht⟩ := trigger_replyFloor forgingReply
  rw [hends.1] at hon
  exact ⟨_, _, _, f', reachable_replyFloor _, rfl, headFresh_replyFloor _,
    errand_replyFloor forgingReply, rfl, hsent, hstatus, hon, ht ▸ hends.2⟩

end Processor

end HttpCourier
