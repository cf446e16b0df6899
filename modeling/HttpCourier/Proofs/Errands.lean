import HttpCourier.Proofs.Cycle
import HttpCourier.Proofs.Handover
import HttpCourier.Proofs.Sources

/-!
# Errands

An `Errand` is what a cycle of work sets out with: its original, if there is one, the identifier of
its exchange, and the link that it sends over. `Errand.delivery` says, without any session, what
comes back: the answer and the last versions of the items, or the fault that stopped the exchange.
`run_carries` is the account of a cycle: it makes exactly the transfers of its errand.
-/

namespace HttpCourier

open Step

namespace Trigger

/-- What a cycle sets out with. -/
structure Errand where
  duty : Duty
  chunkSize : Nat
  now : Int
  original : Option WorkItem
  /-- The identifier of the exchange. -/
  transaction : String
  /-- The supply that the response takes its identifier from. -/
  ids : Ids
  link : Link

/-- What comes back: the answer, and the items as they are handed over. -/
structure Delivery where
  plan : Plan
  received : Received
  original : Option WorkItem
  response : Option WorkItem

namespace Errand

/-- The errand for an original, whose exchange takes the next identifier of the supply. -/
def of (duty : Duty) (chunkSize : Nat) (now : Int) (original : Option WorkItem) (ids : Ids)
    (link : Link) : Errand :=
  { duty, chunkSize, now, original, transaction := ids.draw.1, ids := ids.draw.2,
    link := { link with log := [] } }

/-- The exchange as it is set up. -/
def plan (e : Errand) : Except Fault Plan :=
  (e.duty.assembler.assemble e.original e.now).map fun drafted =>
    { draft := drafted.1, transaction := e.transaction, start := e.link.network.clock }

/-- The answer, with its body open. -/
def received (e : Errand) (plan : Plan) : Except Fault Received :=
  (Step.on e.link (Link.receive plan.draft e.chunkSize)).1

/-- The original after it was told about an answer. -/
def told (e : Errand) (plan : Plan) (received : Received) : Option WorkItem :=
  e.original.map fun item =>
    let item := item.withAttributes (plan.statusAttributes received.response)
    if e.duty.config.addResponseHeaders then item.withAttributes (headerAttributes received) else item

/-- The attribute for the type of the body, if the answer names one. -/
def typeAttribute (received : Received) : List (String × String) :=
  match received.contentType? with
  | some type => if type.isEmpty then [] else [(typeKey, type)]
  | none => []

/-- The item for the body, before it has one. -/
def empty (e : Errand) (plan : Plan) (received : Received) : WorkItem :=
  let inherited := (e.told plan received).elim [] fun item => item.attributes.erase WorkItem.uuidKey
  (((WorkItem.create e.ids inherited).1.withAttributes (plan.statusAttributes received.response)
    ).withAttributes (headerAttributes received)).withAttributes (typeAttribute received)

/-- What is wanted from the body of an answer, which succeeded or not. -/
def demand (e : Errand) (success : Bool) : Demand where
  content := e.duty.givesResponse success
  capacity :=
    if e.duty.givesAttribute success && e.original.isSome then
      some e.duty.config.maxAttributeLength
    else none

/-- What becomes of the body. -/
def drained (e : Errand) (received : Received) : Drained BodyStream :=
  drain e.chunkSize (e.demand received.isSuccess) received.body

/-- The text for the original, if it gets one. -/
def text (e : Errand) (received : Received) : Except Fault (Option String) := do
  match ← (e.drained received).captured with
  | none => return none
  | some bytes =>
    let text ← (Charset.read received.contentType? bytes).mapError Fault.charset
    return some (String.ofList text)

/-- An item with the text of a body, if there is one. -/
def withText (duty : Duty) (text : Option String) (item : WorkItem) : WorkItem :=
  text.elim item fun text => item.withAttributes [(bodyKey duty item, text)]

/-- The item for the body, with the body. -/
def filled (e : Errand) (plan : Plan) (received : Received) : Option WorkItem :=
  if e.duty.givesResponse received.isSuccess then
    some ((e.empty plan received).withContent (e.drained received).content)
  else none

/-- What comes back, or the fault that stops the exchange. -/
def delivery (e : Errand) : Except Fault Delivery := do
  let plan ← e.plan
  let received ← e.received plan
  let text ← e.text received
  return { plan, received, original := (e.told plan received).map (withText e.duty text),
           response := e.filled plan received }

/-- How the errand ends. -/
def outcome (e : Errand) : Outcome :=
  match e.delivery with
  | .error _ => .failure
  | .ok d => .ofStatus d.received.response.status

/-- The last version of the original before a fault. -/
def reached (e : Errand) : Option WorkItem :=
  match e.plan with
  | .error _ => e.original
  | .ok plan =>
    match e.received plan with
    | .error _ => e.original
    | .ok received => e.told plan received

/-- The transfers that the errand makes. -/
def transfers (e : Errand) : List (Relationship × WorkItem) :=
  match e.delivery with
  | .error fault => e.reached.toList.map fun item => (.failure, fault.stamp item)
  | .ok d => e.duty.routing.handover d.received.response.status d.original d.response

/-! ### How an errand can end -/

variable {e : Errand} {plan : Plan} {received : Received} {fault : Fault}

/-- Captured bytes are read in the charset of the answer. -/
theorem text_of_captured {bytes : Bytes} (h : (e.drained received).captured = .ok (some bytes)) :
    e.text received = ((Charset.read received.contentType? bytes).mapError Fault.charset).map
      fun text => some (String.ofList text) := by
  rw [text, h, ok_bind]
  dsimp only
  cases (Charset.read received.contentType? bytes).mapError Fault.charset <;> rfl

/-- Without a captured body there is no text, and nothing that could fail. -/
theorem text_of_uncaptured (h : (e.drained received).captured = .ok none) :
    e.text received = .ok none := by
  rw [text, h, ok_bind]
  rfl

/-- An errand that cannot be planned ends with the original as it came. -/
theorem stopped_at_plan (h : e.plan = .error fault) :
    e.delivery = .error fault ∧ e.reached = e.original := by
  simp [delivery, reached, h]

/-- An errand without an answer ends with the original as it came. -/
theorem stopped_at_answer (hp : e.plan = .ok plan) (h : e.received plan = .error fault) :
    e.delivery = .error fault ∧ e.reached = e.original := by
  simp [delivery, reached, hp, h]

/-- An errand whose body cannot be read ends with the original told of the answer. -/
theorem stopped_at_text (hp : e.plan = .ok plan) (hr : e.received plan = .ok received)
    (h : e.text received = .error fault) :
    e.delivery = .error fault ∧ e.reached = e.told plan received := by
  simp [delivery, reached, hp, hr, h]

/-- A fault is the outcome of a failure. -/
theorem outcome_of_fault (h : e.delivery = .error fault) : e.outcome = .failure := by
  rw [outcome, h]

/-- The outcome of a completed errand is that of the status. -/
theorem outcome_of_delivery {d : Delivery} (h : e.delivery = .ok d) :
    e.outcome = .ofStatus d.received.response.status := by
  rw [outcome, h]

/-- A fault neither loses an original nor makes one. -/
theorem isNone_reached (e : Errand) : e.reached.isNone = e.original.isNone := by
  unfold reached
  split
  · rfl
  · split
    · rfl
    · rw [told, Option.isNone_map]

/-- An errand with a plan, an answer and a text is completed. -/
theorem delivered {text : Option String} (hp : e.plan = .ok plan)
    (hr : e.received plan = .ok received) (h : e.text received = .ok text) :
    e.delivery = .ok { plan, received, original := (e.told plan received).map (withText e.duty text),
                       response := e.filled plan received } := by
  simp [delivery, hp, hr, h, pure, Except.pure]

/-- A delivery has an answer, a text for the original if it gets one, and the items with them. -/
theorem delivery_eq_ok {d : Delivery} (h : e.delivery = .ok d) :
    e.plan = .ok d.plan ∧ e.received d.plan = .ok d.received ∧
      ∃ text, e.text d.received = .ok text ∧
        d.original = (e.told d.plan d.received).map (withText e.duty text) ∧
        d.response = e.filled d.plan d.received := by
  obtain ⟨plan, hp, h⟩ := ok_of_bind h
  obtain ⟨received, hr, h⟩ := ok_of_bind h
  obtain ⟨text, ht, h⟩ := ok_of_bind h
  obtain rfl := Except.ok.inj h
  exact ⟨hp, hr, text, ht, rfl, rfl⟩

/-- A completed errand has an original when it set out with one. -/
theorem isNone_of_delivery {d : Delivery} (h : e.delivery = .ok d) :
    d.original.isNone = e.original.isNone := by
  obtain ⟨-, -, text, -, ho, -⟩ := delivery_eq_ok h
  rw [ho, Option.isNone_map, told, Option.isNone_map]

/-- A response that is to be given has what was read of the body. -/
theorem filled_of_gives (h : e.duty.givesResponse received.isSuccess = true) :
    e.filled plan received
      = some ((e.empty plan received).withContent (e.drained received).content) := if_pos h

/-- There is no response when none is to be given. -/
theorem filled_of_not_gives (h : ¬ e.duty.givesResponse received.isSuccess = true) :
    e.filled plan received = none := if_neg h

end Errand

/-- The errand of a cycle, if there is something to do: for the head of the queue, for a new item
that is to get the body, or for none. -/
def setOut (duty : Duty) (chunkSize : Nat) (hasIncoming : Bool) (now : Int) (d : Desk)
    (link : Link) : Option Errand :=
  match d.session.incoming with
  | head :: _ => some (.of duty chunkSize now (some head) d.ids link)
  | [] =>
    if hasIncoming || Assembler.hasBody (duty.assembler.method none) then none
    else if duty.putsBody then
      some (.of duty chunkSize now (some (WorkItem.create d.ids).1) (WorkItem.create d.ids).2 link)
    else some (.of duty chunkSize now none d.ids link)

end Trigger

/-! ## What the bench has in hand -/

namespace Bench

variable {α : Type} {b : Bench} {transfers : List (Relationship × WorkItem)} {paused : Bool}
  {original response : Option WorkItem} {ids : Ids}

/-- The bench has the original and the response in hand, in the versions that the session holds. -/
structure Works (transfers : List (Relationship × WorkItem)) (paused : Bool)
    (original response : Option WorkItem) (ids : Ids) (b : Bench) : Prop where
  original_eq : b.original = original
  response_eq : b.response = response
  ids_eq : b.desk.ids = ids
  carries : b.desk.Carries transfers paused (original.toList ++ response.toList)

/-- What is done on the link leaves the items alone. -/
theorem onLink_works (h : Works transfers paused original response ids b) {step : Step Link α}
    {post : α → Prop} {fail : Fault → Prop}
    (hs : step.Yields { b.link with log := [] } (fun a _ => post a) fun fault _ => fail fault) :
    (onLink step).Yields b
      (fun a b' => post a ∧ Works transfers paused original response ids b')
      fun fault b' => fail fault ∧ Works transfers paused original response ids b' := by
  have hworks : ∀ link records, Works transfers paused original response ids
      { b with link, desk := { b.desk with log := b.desk.log ++ records } } := fun link records =>
    ⟨h.original_eq, h.response_eq, h.ids_eq, h.carries.congr rfl rfl rfl⟩
  rw [yields_iff] at hs
  simp only [onLink, yields_bind, yields_get, yields_set, yields_ofExcept]
  exact ⟨fun a ha => ⟨hs.1 a _ (Prod.ext ha rfl), hworks _ _⟩,
    fun fault hf => ⟨hs.2 fault _ (Prod.ext hf rfl), hworks _ _⟩⟩

/-- An operation that cannot end in a fault needs no guard. -/
theorem guarding_never {received : Received} {step : Step Bench α} {post : α → Bench → Prop}
    (h : step.Yields b post never) : (guarding received step).Yields b post never := by
  simp only [guarding, yields_bind, yields_attempt]
  exact h.mono (fun _ _ => id) fun _ _ => False.elim

/-- A record or an event leaves the items alone. -/
theorem records_works (h : Works transfers paused original response ids b) {change : Desk → Desk}
    (hc : ∀ d, (change d).ids = d.ids ∧ (change d).session.live = d.session.live ∧
      (change d).session.transfers = d.session.transfers ∧
      (change d).yieldRequested = d.yieldRequested) :
    (onDesk (modify change)).Yields b
      (fun _ b' => Works transfers paused original response ids b' ∧ b'.link = b.link) never := by
  obtain ⟨hids, hl, ht, hy⟩ := hc b.desk
  rw [yields_onDesk, yields_modify]
  exact ⟨⟨h.original_eq, h.response_eq, hids.trans h.ids_eq, h.carries.congr hl ht hy⟩, rfl⟩

/-- A line of the log leaves the items in hand. -/
theorem note_works (h : Works transfers paused original response ids b) (record : Log.Record) :
    (onDesk (Desk.note record)).Yields b
      (fun _ b' => Works transfers paused original response ids b' ∧ b'.link = b.link) never :=
  records_works h fun _ => ⟨rfl, rfl, rfl, rfl⟩

/-- An event leaves the items in hand. -/
theorem report_works (h : Works transfers paused original response ids b) (event : Provenance) :
    (onDesk (Desk.report event)).Yields b
      (fun _ b' => Works transfers paused original response ids b' ∧ b'.link = b.link) never :=
  records_works h fun _ => ⟨rfl, rfl, rfl, rfl⟩

/-- The original is given attributes. -/
theorem putOnOriginal_works (h : Works transfers paused original response ids b)
    (updates : List (String × String)) :
    (putOnOriginal updates).Yields b
      (fun _ => Works transfers paused (original.map (·.withAttributes updates)) response ids)
      never := by
  simp only [putOnOriginal, yields_bind, yields_get]
  cases original with
  | none =>
    rw [h.original_eq]
    exact h
  | some item =>
    have hc : b.desk.Carries transfers paused ([] ++ item :: response.toList) := h.carries
    rw [h.original_eq]
    simp only [yields_bind, yields_modify, yields_onDesk]
    refine (Desk.revise_carries hc (item.withAttributes_id updates)).mono ?_ fun _ _ => id
    rintro _ d ⟨rfl, hids, hc⟩
    exact ⟨rfl, h.response_eq, hids.trans h.ids_eq, hc⟩

/-- The response gets another version. -/
theorem reviseResponse_works {item next : WorkItem} (hid : next.id = item.id)
    (h : Works transfers paused original (some item) ids b) :
    (onDesk (Desk.revise fun s => s.update item next)).Yields b
      (fun a b' => Works transfers paused original (some next) ids { b' with response := some a })
      never := by
  have hc : b.desk.Carries transfers paused (original.toList ++ item :: []) := h.carries
  rw [yields_onDesk]
  refine (Desk.revise_carries hc hid).mono ?_ fun _ _ => id
  rintro _ d ⟨rfl, hids, hc⟩
  exact ⟨h.original_eq, rfl, hids.trans h.ids_eq, hc⟩

/-- Attributes put on the response are attributes of the version in hand. -/
theorem putOnResponse_works {item : WorkItem} (h : Works transfers paused original (some item) ids b)
    (updates : List (String × String)) :
    (putOnResponse updates).Yields b
      (fun _ => Works transfers paused original (some (item.withAttributes updates)) ids) never := by
  simp only [putOnResponse, yields_bind, yields_get]
  rw [h.response_eq]
  simp only [yields_bind, yields_modify]
  exact reviseResponse_works (item.withAttributes_id updates) h

end Bench

namespace Trigger

open Bench

variable {b : Bench} {transfers : List (Relationship × WorkItem)} {paused : Bool} {e : Errand}
  {original response : Option WorkItem} {ids : Ids}

/-! ## The steps of an exchange -/

/-- Closing the body of an answer cannot fail. -/
theorem finish_yields (l : Link) (response : Response) (body : BodyStream) :
    (Link.finish response body).Yields l (fun _ _ => True) never := by
  unfold Link.finish Link.settle
  split
  · trivial
  · trivial

/-- What is delivered of a body is what a drain makes of it. -/
theorem collect_yields (l : Link) (received : Received) (chunkSize : Nat) (demand : Demand) :
    (Link.collect received chunkSize demand).Yields l
      (fun result _ => (drain chunkSize demand received.body).captured = .ok result.1 ∧
        result.2 = (drain chunkSize demand received.body).content)
      fun fault _ => (drain chunkSize demand received.body).captured = .error fault := by
  unfold Link.collect
  extract_lets drained
  rw [yields_bind]
  refine (finish_yields l received.response drained.source).mono (fun _ l' _ => ?_)
    fun _ _ => False.elim
  rw [yields_bind, yields_ofExcept]
  exact ⟨fun captured hc => ⟨hc, rfl⟩, fun fault hf => hf⟩

/-- The exchange is set up as the errand says. -/
theorem prepare_works (h : Works transfers paused e.original none e.ids b)
    (hl : { b.link with log := [] } = e.link) :
    (prepare e.duty e.transaction e.now).Yields b
      (fun plan b' => e.plan = .ok plan ∧ Works transfers paused e.original none e.ids b' ∧
        { b'.link with log := [] } = e.link)
      fun fault b' => e.plan = .error fault ∧ Works transfers paused e.original none e.ids b' := by
  let inv (b' : Bench) : Prop :=
    Works transfers paused e.original none e.ids b' ∧ b'.link = b.link
  have hnote : ∀ record b', inv b' → (onDesk (Desk.note record)).Yields b' (fun _ => inv) never :=
    fun record b' hb => (note_works hb.1 record).mono (fun _ _ h => ⟨h.1, h.2.trans hb.2⟩)
      fun _ _ => id
  have hreport : ∀ event b', inv b' → (onDesk (Desk.report event)).Yields b' (fun _ => inv) never :=
    fun event b' hb => (report_works hb.1 event).mono (fun _ _ h => ⟨h.1, h.2.trans hb.2⟩)
      fun _ _ => id
  unfold prepare
  rw [yields_bind, yields_get, h.original_eq, yields_bind, yields_ofExcept]
  refine ⟨?_, fun fault hf => ⟨by rw [Errand.plan, hf]; rfl, h⟩⟩
  rintro ⟨draft, log⟩ hd
  have hplan : e.plan = .ok
      { draft, transaction := e.transaction, start := b.link.network.clock } := by
    rw [Errand.plan, hd, ← hl]
    rfl
  have hdone : ∀ b', inv b' → e.plan = .ok
      { draft, transaction := e.transaction, start := b.link.network.clock } ∧
      Works transfers paused e.original none e.ids b' ∧ { b'.link with log := [] } = e.link :=
    fun b' hb => ⟨hplan, hb.1, by rw [hb.2, hl]⟩
  rw [yields_bind]
  refine (yields_forM hnote log ⟨h, rfl⟩).mono (fun _ b₁ h₁ => ?_) fun _ _ => False.elim
  rw [yields_bind]
  refine (hnote _ b₁ h₁).mono (fun _ b₂ h₂ => ?_) fun _ _ => False.elim
  split
  · rw [yields_bind]
    exact (hreport _ b₂ h₂).mono (fun _ b₃ h₃ => hdone b₃ h₃) fun _ _ => False.elim
  · exact hdone b₂ h₂

/-- The item for the body comes to hand, and is told about the answer. -/
theorem createResponse_works (plan : Plan) (received : Received)
    (hfresh : ∀ item ∈ e.original, item.id ≠ Ids.text (e.ids.drawn + 1))
    (h : Works transfers paused (e.told plan received) none e.ids b) :
    (createResponse plan received).Yields b
      (fun _ b' => ∃ ids, Works transfers paused (e.told plan received)
        (some (e.empty plan received)) ids b') never := by
  have hnew : ∀ item ∈ e.told plan received, item.id ≠ Ids.text (b.desk.ids.drawn + 1) := by
    intro item hi
    obtain ⟨o, ho, rfl⟩ := Option.map_eq_some_iff.1 hi
    rw [h.ids_eq]
    refine fun heq => hfresh o ho (Eq.trans ?_ heq)
    dsimp only
    split
    · rfl
    · rfl
  have hc := h.carries
  rw [Option.toList_none, List.append_nil] at hc
  unfold createResponse
  rw [yields_bind, yields_get, yields_bind, yields_onDesk, h.original_eq]
  refine (Desk.create_carries hc hnew).mono ?_ fun _ _ => id
  rintro item d ⟨rfl, hc⟩
  rw [h.ids_eq] at hc ⊢
  rw [yields_bind, yields_modify, yields_bind]
  refine (putOnResponse_works ⟨rfl, rfl, rfl, hc⟩ _).mono (fun _ b₁ h₁ => ?_) fun _ _ => id
  rw [yields_bind]
  refine (putOnResponse_works h₁ _).mono (fun _ b₂ h₂ => ?_) fun _ _ => id
  have hnone : Errand.typeAttribute received = [] →
      ∃ ids, Works transfers paused (e.told plan received) (some (e.empty plan received)) ids b₂ := by
    intro ht
    rw [Errand.empty, ht]
    exact ⟨_, h₂⟩
  split
  case h_1 type ht =>
    split
    case isTrue hn =>
      have hk : Errand.typeAttribute received = [(typeKey, type)] := by
        simp only [Errand.typeAttribute, ht]
        exact if_neg (by simpa using hn)
      rw [Errand.empty, hk]
      exact (putOnResponse_works h₂ _).mono (fun _ _ h => ⟨_, h⟩) fun _ _ => id
    case isFalse hn =>
      refine hnone ?_
      simp only [Errand.typeAttribute, ht]
      exact if_pos (by simpa using hn)
  case h_2 ht =>
    refine hnone ?_
    simp only [Errand.typeAttribute, ht]

/-- The items are told about the answer, and the demand is that of the errand. -/
theorem greet_works (plan : Plan) (received : Received)
    (hfresh : ∀ item ∈ e.original, item.id ≠ Ids.text (e.ids.drawn + 1))
    (h : Works transfers paused e.original none e.ids b) :
    (greet e.duty plan received).Yields b
      (fun demand b' => demand = e.demand received.isSuccess ∧ ∃ ids, Works transfers paused
        (e.told plan received)
        (if e.duty.givesResponse received.isSuccess then some (e.empty plan received) else none)
        ids b')
      never := by
  unfold greet
  rw [yields_bind]
  refine (note_works h _).mono (fun _ b₁ h₁ => ?_) fun _ _ => id
  rw [yields_bind]
  refine (putOnOriginal_works h₁.1 _).mono (fun _ b₂ h₂ => ?_) fun _ _ => id
  extract_lets content respond
  have hrespond : ∀ b, Works transfers paused (e.told plan received) none e.ids b →
      (respond ()).Yields b (fun demand b' => demand = e.demand received.isSuccess ∧
        ∃ ids, Works transfers paused (e.told plan received)
          (if e.duty.givesResponse received.isSuccess then some (e.empty plan received) else none)
          ids b') never := by
    intro b h
    have hwanted : b.original.isSome = e.original.isSome := by
      rw [h.original_eq]
      simp [Errand.told]
    simp only [respond]
    rw [yields_bind, yields_get, hwanted]
    split
    case isTrue hc =>
      rw [yields_bind]
      exact (createResponse_works plan received hfresh h).mono (fun _ _ h => ⟨rfl, h⟩)
        fun _ _ => id
    case isFalse hc => exact ⟨rfl, _, h⟩
  have htold : e.told plan received = (e.original.map
      (·.withAttributes (plan.statusAttributes received.response))).map fun item =>
        if e.duty.config.addResponseHeaders then item.withAttributes (headerAttributes received)
        else item := by
    rw [Option.map_map]
    rfl
  split
  case isTrue ha =>
    simp only [ha, if_true] at htold
    rw [yields_bind]
    refine (putOnOriginal_works h₂ _).mono (fun _ b₃ h₃ => ?_) fun _ _ => id
    rw [← htold] at h₃
    exact hrespond b₃ h₃
  case isFalse ha =>
    simp only [if_neg ha, Option.map_id'] at htold
    rw [← htold] at h₂
    exact hrespond b₂ h₂

/-- The response item gets the body, and is otherwise as it was. -/
theorem fillResponse_works {item : WorkItem} (plan : Plan) (content : Bytes)
    (h : Works transfers paused original (some item) ids b) :
    (fillResponse plan content).Yields b
      (fun _ => Works transfers paused original (some (item.withContent content)) ids) never := by
  simp only [fillResponse, yields_bind, yields_get]
  rw [h.response_eq]
  simp only [yields_bind, yields_modify, since, yields_get, yields_pure]
  refine (reviseResponse_works (item.withContent_id content) h).mono ?_ fun _ _ => id
  exact fun a b' h => (report_works h _).mono (fun _ _ => And.left) fun _ _ => id

/-- The original gets the text of the body, if the body can be read in its charset, and else stays
as it was. -/
theorem fillAttribute_works {item : WorkItem} (duty : Duty) (plan : Plan) (received : Received)
    (captured : Bytes) (h : Works transfers paused (some item) response ids b) :
    (fillAttribute duty plan received captured).Yields b
      (fun _ b' => ∃ text, Charset.read received.contentType? captured = .ok text ∧
        Works transfers paused (some (Errand.withText duty (some (String.ofList text)) item))
          response ids b')
      fun fault b' =>
        ((Charset.read received.contentType? captured).mapError Fault.charset) = .error fault ∧
        Works transfers paused (some item) response ids b' := by
  simp only [fillAttribute]
  rw [yields_bind, yields_get, h.original_eq]
  simp only [yields_bind, yields_ofExcept]
  refine ⟨fun text ht => ?_, fun fault hf => ⟨hf, h⟩⟩
  refine (putOnOriginal_works h _).mono (fun _ b₁ h₁ => ?_) fun _ _ => False.elim
  simp only [since, yields_bind, yields_get, yields_pure]
  refine (report_works h₁ _).mono (fun _ b₂ h₂ => ?_) fun _ _ => False.elim
  exact ⟨text, ok_of_mapError ht, h₂.1⟩

/-- To count an exchange leaves the items in hand. -/
theorem count_works (h : Works transfers paused original response ids b) (plan : Plan)
    (answer : Response) (bytes : Nat) :
    (count plan answer bytes).Yields b
      (fun _ => Works transfers paused original response ids) never := by
  simp only [count, since, yields_bind, yields_get, yields_pure]
  refine Yields.mono (records_works h ?_) (fun _ _ => And.left) fun _ _ => id
  exact fun _ => ⟨rfl, rfl, rfl, rfl⟩

/-- Bytes are captured only for an original. -/
theorem Errand.exists_told_of_captured {received : Received} {bytes : Bytes}
    (hcaptured : (e.drained received).captured = .ok (some bytes)) (plan : Plan) :
    ∃ told, e.told plan received = some told := by
  have hwants : (e.demand received.isSuccess).capacity.isSome = true :=
    (Drain.isSome_captured hcaptured).symm
  have hsome : e.original.isSome = true := by
    simp only [Errand.demand] at hwants
    split at hwants
    case isTrue hg => exact (Bool.and_eq_true_iff.1 hg).2
    case isFalse => cases hwants
  obtain ⟨item, ho⟩ := Option.isSome_iff_exists.1 hsome
  rw [Errand.told, ho]
  exact ⟨_, rfl⟩

/-- The original, if it gets a text, gets that of the errand. -/
theorem addText_works {plan : Plan} {received : Received} {bytes : Bytes}
    (hcaptured : (e.drained received).captured = .ok (some bytes))
    (h : Works transfers paused (e.told plan received) response ids b) :
    (fillAttribute e.duty plan received bytes).Yields b
      (fun _ b' => ∃ text, e.text received = .ok text ∧ Works transfers paused
        ((e.told plan received).map (Errand.withText e.duty text)) response ids b')
      fun fault b' => e.text received = .error fault ∧
        Works transfers paused (e.told plan received) response ids b' := by
  obtain ⟨told, htold⟩ := Errand.exists_told_of_captured hcaptured plan
  have htext : e.text received = _ := Errand.text_of_captured hcaptured
  rw [htold] at h ⊢
  refine (fillAttribute_works e.duty plan received bytes h).mono ?_ ?_
  · rintro _ b' ⟨text, hread, h'⟩
    exact ⟨some (String.ofList text), by rw [htext, hread]; rfl, h'⟩
  · rintro fault b' ⟨hf, h'⟩
    exact ⟨by rw [htext, hf]; rfl, h'⟩

/-! ## The exchange -/

/-- An errand was completed: its transfers are made, and a pause was asked for if it should be. -/
def Errand.Completed (e : Errand) (transfers : List (Relationship × WorkItem)) (paused : Bool)
    (outcome : Outcome) (b : Bench) : Prop :=
  outcome = e.outcome ∧ b.desk.session.transfers = transfers ++ e.transfers ∧
    b.desk.yieldRequested = (paused || (decide (outcome ≠ .success) && e.original.isNone))

/-- An errand was stopped by a fault, with the original as far as it was told. -/
def Errand.Stopped (e : Errand) (transfers : List (Relationship × WorkItem)) (paused : Bool)
    (fault : Fault) (b : Bench) : Prop :=
  e.delivery = .error fault ∧ ∃ response ids, Works transfers paused e.reached response ids b

/-- A delivery is counted and handed over. -/
theorem settle_works {d : Delivery} (hd : e.delivery = .ok d) (bytes : Nat)
    (h : Works transfers paused d.original d.response ids b) :
    Step.Yields (do
      count d.plan d.received.response bytes
      let b ← get
      onDesk (Desk.route e.duty.routing d.received.response.status b.original b.response)) b
      (e.Completed transfers paused) never := by
  rw [yields_bind]
  refine (count_works h _ _ _).mono (fun _ b h => ?_) fun _ _ => id
  rw [yields_bind, yields_get, yields_onDesk, h.original_eq, h.response_eq]
  refine (Desk.route_carries _ _ h.carries).mono ?_ fun _ _ => id
  rintro outcome desk ⟨rfl, htransfers, hpaused⟩
  refine ⟨?_, ?_, ?_⟩
  · exact (Errand.outcome_of_delivery hd).symm
  · rw [Errand.transfers, hd]
    exact htransfers
  · rw [hpaused, Errand.isNone_of_delivery hd]

/-- An exchange completes its errand, or its fault stops it. -/
theorem exchange_works (hfresh : ∀ item ∈ e.original, item.id ≠ Ids.text (e.ids.drawn + 1))
    (h : Works transfers paused e.original none e.ids b)
    (hl : { b.link with log := [] } = e.link) :
    (exchange e.duty e.chunkSize e.transaction e.now).Yields b (e.Completed transfers paused)
      (e.Stopped transfers paused) := by
  unfold exchange
  rw [yields_bind]
  refine (prepare_works h hl).mono ?_ fun fault b' hf => ?_
  case refine_2 =>
    obtain ⟨hf, h'⟩ := hf
    obtain ⟨hd, hr⟩ := Errand.stopped_at_plan hf
    exact ⟨hd, none, e.ids, hr ▸ h'⟩
  rintro plan b₁ ⟨hp, h₁, hl₁⟩
  rw [yields_bind]
  refine (onLink_works h₁ (yields_result _)).mono ?_ fun fault b' hf => ?_
  case refine_2 =>
    obtain ⟨hf, h'⟩ := hf
    rw [hl₁] at hf
    obtain ⟨hd, hr⟩ := Errand.stopped_at_answer hp hf
    exact ⟨hd, none, e.ids, hr ▸ h'⟩
  rintro received b₂ ⟨hr, h₂⟩
  rw [hl₁] at hr
  rw [yields_bind]
  refine (guarding_never (greet_works plan received hfresh h₂)).mono ?_ fun _ _ => False.elim
  rintro demand b₃ ⟨rfl, ids, h₃⟩
  rw [yields_bind]
  refine (onLink_works h₃ (collect_yields _ _ _ _)).mono ?_ fun fault b' hf => ?_
  case refine_2 =>
    obtain ⟨hf, h'⟩ := hf
    have ht : e.text received = .error fault := by simp [Errand.text, Errand.drained, hf]
    obtain ⟨hd, hreached⟩ := Errand.stopped_at_text hp hr ht
    exact ⟨hd, _, ids, hreached ▸ h'⟩
  rintro ⟨captured, content⟩ b₄ ⟨⟨hcaptured, hcontent⟩, h₄⟩
  dsimp -zeta only at hcaptured hcontent ⊢
  -- `fill` is what is left to do once the response has the body, `route` once the original has
  -- its text; only the text can still fail
  extract_lets route fill
  have hroute : ∀ b text, e.text received = .ok text →
      Works transfers paused ((e.told plan received).map (Errand.withText e.duty text))
        (e.filled plan received) ids b →
      (route ()).Yields b (e.Completed transfers paused) (e.Stopped transfers paused) :=
    fun b text ht hw => (settle_works (Errand.delivered hp hr ht) _ hw).mono (fun _ _ => id)
      fun _ _ => False.elim
  have hfill : ∀ b, Works transfers paused (e.told plan received) (e.filled plan received) ids b →
      (fill ()).Yields b (e.Completed transfers paused) (e.Stopped transfers paused) := by
    intro b hw
    cases captured with
    | none =>
      refine hroute b none (Errand.text_of_uncaptured hcaptured) ?_
      rwa [show Errand.withText e.duty none = id from rfl, Option.map_id]
    | some bytes =>
      simp only [fill]
      rw [yields_bind]
      refine (addText_works hcaptured hw).mono ?_ ?_
      · rintro _ b' ⟨text, ht, hw'⟩
        exact hroute b' text ht hw'
      · rintro fault b' ⟨ht, hw'⟩
        obtain ⟨hd, hreached⟩ := Errand.stopped_at_text hp hr ht
        exact ⟨hd, _, ids, hreached ▸ hw'⟩
  split
  case isTrue hc =>
    have hc : e.duty.givesResponse received.isSuccess = true := hc
    have hfilled : e.filled plan received = some ((e.empty plan received).withContent content) :=
      hcontent ▸ Errand.filled_of_gives hc
    rw [yields_bind]
    rw [if_pos hc] at h₄
    refine (fillResponse_works plan content h₄).mono (fun _ b' hw => ?_) fun _ _ => False.elim
    exact hfill b' (hfilled ▸ hw)
  case isFalse hc =>
    have hc : ¬ e.duty.givesResponse received.isSuccess = true := hc
    rw [if_neg hc] at h₄
    exact hfill _ (Errand.filled_of_not_gives hc ▸ h₄)

/-! ## The cycle -/

/-- The head of the queue has an identifier that the supply will not give. -/
def HeadFresh (d : Desk) : Prop :=
  ∀ item ∈ d.session.incoming.head?, ∀ n, d.ids.drawn < n → item.id ≠ Ids.text n

/-- A cycle takes the original of its errand in hand. -/
theorem intake_carries {d : Desk} (duty : Duty) (chunkSize : Nat) (hasIncoming : Bool) (now : Int)
    (link : Link) (hfresh : HeadFresh d) :
    (intake duty hasIncoming).Yields d
      (fun taken d' => match taken with
        | none => setOut duty chunkSize hasIncoming now d link = none ∧ d' = d
        | some original =>
          setOut duty chunkSize hasIncoming now d link
            = some (.of duty chunkSize now original d'.ids link) ∧
          d'.Carries d.session.transfers d.yieldRequested original.toList ∧
          ∀ item ∈ original, ∀ n, d'.ids.drawn < n → item.id ≠ Ids.text n) never := by
  have hstart : ∀ d' : Desk, d'.session.transfers = d.session.transfers →
      d'.yieldRequested = d.yieldRequested →
      d'.Carries d.session.transfers d.yieldRequested [] := fun d' ht hy =>
    ⟨List.forall_mem_nil _, List.nodup_nil, ht, hy⟩
  unfold intake setOut
  rw [yields_bind, yields_get]
  cases hq : d.session.incoming with
  | nil =>
    simp only [Session.take?, hq]
    split
    · exact ⟨rfl, rfl⟩
    split
    · rw [yields_bind]
      refine ⟨rfl, (hstart d rfl rfl).track List.not_mem_nil _, ?_⟩
      rintro _ ⟨⟩ n hn heq
      have hdrawn : d.ids.drawn + 1 = n := Ids.text_injective heq
      have hlt : d.ids.drawn + 1 < n := hn
      omega
    · refine ⟨rfl, hstart d rfl rfl, ?_⟩
      rintro _ ⟨⟩
  | cons head rest =>
    simp only [Session.take?, hq]
    refine ⟨rfl, (hstart { d with session := { d.session with incoming := rest } } rfl rfl).track
      List.not_mem_nil d.ids, ?_⟩
    rintro _ ⟨⟩
    exact hfresh head (by rw [hq]; rfl)

/-- What is said of the cache leaves the items in hand. -/
theorem noteCache_works (h : Works transfers paused original response ids b) (client : Client) :
    (onDesk (noteCache client)).Yields b
      (fun _ b' => Works transfers paused original response ids b' ∧ b'.link = b.link) never := by
  unfold noteCache
  split
  · rw [yields_onDesk]
    exact ⟨h, rfl⟩
  · exact note_works h _

/-- A cycle without an errand changes nothing, and otherwise sets out on its errand. An invariant of
the bench that does not depend on the items of the cycle holds at that moment too. -/
theorem run_sets_out {duty : Duty} {chunkSize : Nat} {hasIncoming : Bool} {now : Int}
    {post : Option Outcome → Bench → Prop} {fail : Fault → Bench → Prop} (inv : Bench → Prop)
    (hintake : Keeps inv (onDesk (intake duty hasIncoming)))
    (hhands : ∀ b original, inv b → inv { b with original, response := none })
    (hnote : ∀ client, Keeps inv (onDesk (noteCache client)))
    (hdraw : Keeps inv (onDesk drawTransaction)) (hfresh : HeadFresh b.desk) (hb : inv b)
    (hnone : setOut duty chunkSize hasIncoming now b.desk b.link = none → post none b)
    (hsome : ∀ e b', setOut duty chunkSize hasIncoming now b.desk b.link = some e →
      Works b.desk.session.transfers b.desk.yieldRequested e.original none e.ids b' →
      { b'.link with log := [] } = e.link →
      (∀ item ∈ e.original, item.id ≠ Ids.text (e.ids.drawn + 1)) → inv b' →
      (exchange e.duty e.chunkSize e.transaction e.now).Yields b'
        (fun outcome => post (some outcome)) fun fault b'' =>
          (onDesk (Desk.routeFailure fault b''.original b''.response)).Yields b''
            (fun outcome => post (some outcome)) fail) :
    (run duty chunkSize hasIncoming now).Yields b post fail := by
  have hkept := (yields_onDesk _).1 (hintake b hb)
  unfold run
  rw [yields_bind, yields_onDesk]
  refine ((intake_carries duty chunkSize hasIncoming now b.link hfresh).and hkept).mono ?_
    fun _ _ hf => hf.1.elim
  rintro (_ | original) d ⟨h, hd⟩
  case none =>
    obtain ⟨hset, rfl⟩ := h
    exact hnone hset
  obtain ⟨hset, hc, hids⟩ := h
  let e : Errand := .of duty chunkSize now original d.ids b.link
  have hw : Works b.desk.session.transfers b.desk.yieldRequested original none d.ids
      { b with desk := d, original, response := none } :=
    ⟨rfl, rfl, rfl, by simpa using hc⟩
  simp only [yields_bind, yields_modify, yields_get]
  refine ((noteCache_works hw _).and_keeps (hnote _) (hhands _ original hd)).mono ?_ fun _ _ =>
    False.elim
  rintro _ b₁ ⟨⟨hw₁, hl₁⟩, hb₁⟩
  have hdrawn := (yields_onDesk _).1 (hdraw b₁ hb₁)
  rw [yields_onDesk]
  simp only [drawTransaction, yields_bind, yields_get, yields_set, yields_pure] at hdrawn ⊢
  have hw₂ : Works b.desk.session.transfers b.desk.yieldRequested e.original none e.ids
      { b₁ with desk := { b₁.desk with ids := b₁.desk.ids.draw.2 } } :=
    ⟨hw₁.original_eq, hw₁.response_eq, by rw [hw₁.ids_eq]; rfl, hw₁.carries.congr rfl rfl rfl⟩
  have hfresh' : ∀ item ∈ e.original, item.id ≠ Ids.text (e.ids.drawn + 1) := fun item hi =>
    hids item hi _ (Nat.lt_succ_of_lt (Nat.lt_succ_self _))
  have hl : { b₁.link with log := [] } = e.link := by
    rw [hl₁]
    rfl
  have htransaction : b₁.desk.ids.draw.1 = e.transaction := by
    rw [hw₁.ids_eq]
    rfl
  rw [htransaction, yields_attempt]
  refine (hsome e _ hset hw₂ hl hfresh' hdrawn).mono (fun _ _ => id) fun fault b₃ hf => ?_
  simp only [yields_bind, yields_get, yields_pure]
  exact hf

/-- A cycle ends as its errand does: with its outcome, its transfers, and a pause when it did not
succeed and had no original. Without an errand nothing changes. -/
theorem run_carries (duty : Duty) (chunkSize : Nat) (hasIncoming : Bool) (now : Int)
    (hfresh : HeadFresh b.desk) :
    (run duty chunkSize hasIncoming now).Yields b
      (fun result b' => match setOut duty chunkSize hasIncoming now b.desk b.link with
        | none => result = none ∧ b' = b
        | some e => result = some e.outcome ∧
          b'.desk.session.transfers = b.desk.session.transfers ++ e.transfers ∧
          b'.desk.yieldRequested
            = (b.desk.yieldRequested || (decide (e.outcome ≠ .success) && e.original.isNone)))
      never := by
  have hkeeps : ∀ {β : Type} (step : Step Bench β), Keeps (fun _ => True) step :=
    fun step b _ => (yields_result step).mono (fun _ _ _ => trivial) fun _ _ _ => trivial
  refine run_sets_out (fun _ => True) (hkeeps _) (fun _ _ => id) (fun _ => hkeeps _) (hkeeps _) hfresh
    trivial (fun hset => ?_) fun e b₂ hset hw hl hfresh' _ => ?_
  · rw [hset]
    exact ⟨rfl, rfl⟩
  rw [hset]
  refine (exchange_works hfresh' hw hl).mono ?_ ?_
  · rintro outcome b₃ ⟨rfl, ht, hy⟩
    exact ⟨rfl, ht, hy⟩
  · rintro fault b₃ ⟨hd, response, ids, hw₃⟩
    have houtcome := Errand.outcome_of_fault hd
    have hreached : e.reached.isNone = e.original.isNone := e.isNone_reached
    rw [yields_onDesk, hw₃.original_eq, hw₃.response_eq]
    refine (Desk.routeFailure_carries fault hw₃.carries).mono ?_ fun _ _ => id
    rintro _ d' ⟨rfl, ht, hy⟩
    refine ⟨congrArg some houtcome.symm, ?_, ?_⟩
    · rw [Errand.transfers, hd]
      exact ht
    · rw [houtcome, hy, hreached]
      rfl

end Trigger

end HttpCourier
