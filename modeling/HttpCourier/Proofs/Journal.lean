import HttpCourier.Proofs.Closing
import HttpCourier.Proofs.Effects

/-!
# What a cycle records

A cycle records events, counts in the metrics, and requests on the network. `Errand.marks`,
`Errand.answered` and `Errand.requests` say what an errand records, and `trigger_journals` is the
account of a trigger. Nearly all operations of a cycle are discreet (`Desk.Discreet`): they record
no event, and count what they transfer and nothing else.
-/

namespace HttpCourier

open Step

/-! ## Counts -/

namespace Metrics

/-- What is counted, without the time that exchanges took. -/
def counts (m : Metrics) : Metrics := { m with duration := .ofNat 0 }

/-- The metrics after some transfers. -/
def tally (m : Metrics) (transfers : List (Relationship × WorkItem)) : Metrics :=
  { m with transfers := transfers.foldl (fun c t => c.count t.1) m.transfers }

/-- The metrics after an answer that was used. -/
def recordAnswer (m : Metrics) (response : Response) (bytes : Nat) : Metrics :=
  let m := m.recordRequest response.status bytes
  if response.fromCache then m.recordCacheHit else m

/-- Transfers are counted one after another. -/
theorem tally_append (m : Metrics) (earlier later : List (Relationship × WorkItem)) :
    m.tally (earlier ++ later) = (m.tally earlier).tally later := by
  simp [tally]

/-- An answer may as well be counted before the transfers it leads to. -/
theorem tally_recordAnswer (m : Metrics) (response : Response) (bytes : Nat)
    (transfers : List (Relationship × WorkItem)) :
    (m.tally transfers).recordAnswer response bytes
      = (m.recordAnswer response bytes).tally transfers := by
  unfold recordAnswer
  split <;> rfl

end Metrics

/-- The kind of an event and the item that it names. -/
abbrev Mark := Provenance.Kind × String

/-- What an event says, apart from times and words. -/
def Provenance.mark (event : Provenance) : Mark := (event.kind, event.itemId)

/-! ## Discreet operations -/

namespace Desk

variable {α β : Type} {marks : List Mark} {base : Metrics}
  {before : List (Relationship × WorkItem)} {d d' : Desk}

/-- The books of a desk: its events, and the metrics after what was transferred since a moment. -/
structure Books (marks : List Mark) (base : Metrics) (before : List (Relationship × WorkItem))
    (d : Desk) : Prop where
  marks_eq : d.session.events.map Provenance.mark = marks
  tallied : ∃ new, d.session.transfers = before ++ new ∧ d.metrics.counts = base.tally new

/-- The books of a desk at a moment, with nothing transferred since. -/
theorem Books.refl (d : Desk) :
    Books (d.session.events.map Provenance.mark) d.metrics.counts d.session.transfers d :=
  ⟨rfl, [], (List.append_nil _).symm, rfl⟩

/-- Only events, transfers and metrics are kept in the books. -/
theorem Books.congr (h : Books marks base before d) (he : d'.session.events = d.session.events)
    (ht : d'.session.transfers = d.session.transfers) (hm : d'.metrics = d.metrics) :
    Books marks base before d' :=
  ⟨he ▸ h.marks_eq, by rw [ht, hm]; exact h.tallied⟩

/-- An operation that records no event, and counts what it transfers and nothing else. -/
def Discreet (step : Step Desk α) : Prop :=
  ∀ marks base before, Keeps (Books marks base before) step

/-- What does nothing is discreet. -/
theorem Discreet.pure (a : α) : Discreet (pure a : Step Desk α) := fun _ _ _ => .pure a

/-- Discreet operations one after another are discreet. -/
theorem Discreet.bind {step : Step Desk α} {next : α → Step Desk β} (h : Discreet step)
    (hn : ∀ a, Discreet (next a)) : Discreet (step >>= next) := fun marks base before =>
  (h marks base before).bind fun a => hn a marks base before

/-- A change of the desk is discreet when it leaves events, transfers and metrics. -/
theorem discreet_modify {change : Desk → Desk}
    (he : ∀ d, (change d).session.events = d.session.events)
    (ht : ∀ d, (change d).session.transfers = d.session.transfers)
    (hm : ∀ d, (change d).metrics = d.metrics) : Discreet (modify change) := fun _ _ _ d h =>
  h.congr (he d) (ht d) (hm d)

/-- A line of the log is no event. -/
theorem discreet_note (record : Log.Record) : Discreet (note record) :=
  discreet_modify (fun _ => rfl) (fun _ => rfl) fun _ => rfl

/-- To ask for a pause is no event. -/
theorem discreet_requestYield : Discreet requestYield :=
  discreet_modify (fun _ => rfl) (fun _ => rfl) fun _ => rfl

/-- An item gets another version. -/
theorem discreet_revise (item next : WorkItem) :
    Discreet (revise fun s => s.update item next) := by
  intro marks base before d h
  simp only [revise, yields_bind, yields_get, yields_ofExcept, yields_set, yields_pure]
  refine ⟨fun pair hp => ?_, fun _ _ => h⟩
  obtain ⟨-, -, hp⟩ := ok_of_bind hp
  obtain rfl := Except.ok.inj hp
  exact h.congr rfl rfl rfl

/-- A new item is known by the session, and is not announced. -/
theorem discreet_create : Discreet create := fun _ _ _ _ h => h.congr rfl rfl rfl

/-- A child of an item is not announced either. -/
theorem discreet_createChild (parent : WorkItem) : Discreet (createChild parent) := by
  intro marks base before d h
  simp only [createChild, yields_bind, yields_get, yields_ofExcept, yields_set, yields_pure]
  refine ⟨fun created hc => ?_, fun _ _ => h⟩
  obtain ⟨-, -, hc⟩ := ok_of_bind hc
  obtain rfl := Except.ok.inj hc
  exact h.congr rfl rfl rfl

/-- A transfer is counted. -/
theorem discreet_transfer (item : WorkItem) (r : Relationship) : Discreet (transfer item r) := by
  intro marks base before d h
  simp only [transfer, yields_bind, yields_get, yields_ofExcept, yields_set]
  refine ⟨fun session hs => ?_, fun _ _ => h⟩
  obtain ⟨-, -, hs⟩ := ok_of_bind hs
  obtain rfl := Except.ok.inj hs
  obtain ⟨new, ht, hm⟩ := h.tallied
  refine ⟨h.marks_eq, new ++ [(r, item)], ?_, ?_⟩
  · rw [← List.append_assoc, ← ht]
  · rw [Metrics.tally_append, ← hm]
    rfl

/-- A response that is dropped is neither announced nor transferred, and a failure to drop it is a
line of the log. -/
theorem discreet_discardResponse (item : WorkItem) : Discreet (discardResponse item) := by
  have hremove : Discreet (remove item) := by
    intro marks base before d h
    simp only [remove, yields_bind, yields_get, yields_ofExcept, yields_set]
    refine ⟨fun session hs => ?_, fun _ _ => h⟩
    unfold Session.remove at hs
    split at hs
    case isTrue => cases hs
    case isFalse =>
      obtain ⟨-, -, hs⟩ := ok_of_bind hs
      obtain rfl := Except.ok.inj hs
      exact h.congr rfl rfl rfl
  intro marks base before d h
  simp only [discardResponse, yields_bind, yields_attempt]
  exact (hremove marks base before d h).mono (fun _ _ => id)
    fun _ d' h => discreet_note _ marks base before d' h

/-- A response that is passed on is counted as a transfer. -/
theorem discreet_transferResponse (response : Option WorkItem) :
    Discreet (transferResponse response) := by
  cases response with
  | none => exact .pure _
  | some item => exact discreet_transfer item .response

/-- Wherever the original goes, penalized or not, it is counted once as a transfer. -/
theorem discreet_transferOriginal (routing : Routing) (outcome : Outcome) (item : WorkItem) :
    Discreet (transferOriginal routing outcome item) := by
  have hpenalized : ∀ r, Discreet (penalize item >>= fun item => transfer item r) := fun r =>
    (discreet_revise item item.withPenalty).bind fun item => discreet_transfer item r
  unfold transferOriginal
  split
  case h_1 => exact discreet_transfer item .original
  case h_2 => exact hpenalized .retry
  case h_3 =>
    dsimp only
    split
    case isTrue => exact hpenalized .noRetry
    case isFalse => exact discreet_transfer item .noRetry

/-- In whichever order the two items are passed on, they are counted as transfers and nothing
else. -/
theorem discreet_route (routing : Routing) (status : Int) (original response : Option WorkItem) :
    Discreet (route routing status original response) := by
  unfold route
  extract_lets outcome finish sendLate sendOriginal sendEarly
  have hlate : Discreet (sendLate ()) := by
    simp only [sendLate]
    split
    case isTrue => exact (discreet_transferResponse response).bind fun _ => .pure _
    case isFalse => exact .pure _
  have horiginal : Discreet (sendOriginal ()) := by
    simp only [sendOriginal]
    split
    case h_1 item => exact (discreet_transferOriginal routing outcome item).bind fun _ => hlate
    case h_2 => exact hlate
  have hearly : Discreet (sendEarly ()) := by
    simp only [sendEarly]
    split
    case isTrue => exact (discreet_transferResponse response).bind fun _ => horiginal
    case isFalse => exact horiginal
  split
  case isTrue => exact discreet_requestYield.bind fun _ => (discreet_note _).bind fun _ => hearly
  case isFalse => exact hearly

/-- A failure is counted by its kind, and what is transferred for it as always. -/
theorem routeFailure_books (fault : Fault) (original response : Option WorkItem)
    (h : Books marks base before d) :
    (routeFailure fault original response).Yields d
      (fun _ => Books marks (base.recordFailure fault.label) before)
      fun _ => Books marks (base.recordFailure fault.label) before := by
  unfold routeFailure
  rw [yields_bind, yields_modify]
  extract_lets finish discard
  have hdiscard : Discreet (discard ()) := by
    simp only [discard]
    split
    case h_1 item => exact (discreet_discardResponse item).bind fun _ => .pure _
    case h_2 => exact .pure _
  have hcounted : Books marks (base.recordFailure fault.label) before
      { d with metrics := d.metrics.recordFailure fault.label } := by
    obtain ⟨new, ht, hm⟩ := h.tallied
    exact ⟨h.marks_eq, new, ht, congrArg (·.recordFailure fault.label) hm⟩
  split
  case h_1 item =>
    refine Discreet.bind (discreet_note _) (fun _ => ?_) _ _ _ _ hcounted
    refine (discreet_revise item item.withPenalty).bind fun item => ?_
    refine (discreet_revise item (item.withAttributes _)).bind fun item => ?_
    exact (discreet_transfer item .failure).bind fun _ => hdiscard
  case h_2 =>
    refine Discreet.bind (discreet_note _) (fun _ => ?_) _ _ _ _ hcounted
    exact discreet_requestYield.bind fun _ => hdiscard

end Desk

/-! ## The operations of a cycle -/

namespace Bench

variable {α : Type} {requests : List Request} {marks : List Mark} {base : Metrics}
  {before : List (Relationship × WorkItem)} {b : Bench}

/-- The books of a bench: those of its desk, and the requests that reached the network. -/
structure Books (requests : List Request) (marks : List Mark) (base : Metrics)
    (before : List (Relationship × WorkItem)) (b : Bench) : Prop where
  requests_eq : b.link.requests = requests
  desk : b.desk.Books marks base before

/-- An operation on the bench that records no event, sends nothing, and counts what it transfers and
nothing else. -/
def Discreet (step : Step Bench α) : Prop :=
  ∀ requests marks base before, Keeps (Books requests marks base before) step

/-- What does nothing is discreet. -/
theorem Discreet.pure (a : α) : Discreet (pure a : Step Bench α) := fun _ _ _ _ => .pure a

/-- Discreet operations one after another are discreet. -/
theorem Discreet.bind {β : Type} {step : Step Bench α} {next : α → Step Bench β}
    (h : Discreet step) (hn : ∀ a, Discreet (next a)) : Discreet (step >>= next) :=
  fun requests marks base before =>
    (h requests marks base before).bind fun a => hn a requests marks base before

/-- An operation that depends on the state is discreet when it is so for each. -/
theorem Discreet.get_bind {next : Bench → Step Bench α} (hn : ∀ b, Discreet (next b)) :
    Discreet (get >>= next) := fun requests marks base before =>
  .get_bind fun b => hn b requests marks base before

/-- Which items are in hand is no matter of the books. -/
theorem discreet_hands {change : Bench → Bench} (hd : ∀ b, (change b).desk = b.desk)
    (hl : ∀ b, (change b).link = b.link) : Discreet (modify change) := fun _ _ _ _ b h =>
  ⟨hl b ▸ h.requests_eq, hd b ▸ h.desk⟩

/-- What is discreet at the desk is so on the bench: it has no part in the network. -/
theorem discreet_onDesk {step : Step Desk α} (h : Desk.Discreet step) : Discreet (onDesk step) := by
  intro requests marks base before b hb
  rw [yields_onDesk]
  exact (h marks base before b.desk hb.desk).mono (fun _ _ hd => ⟨hb.requests_eq, hd⟩)
    fun _ _ hd => ⟨hb.requests_eq, hd⟩

/-- What is done on the link changes the requests only. -/
theorem onLink_books (h : Books requests marks base before b) {step : Step Link α} :
    (onLink step).Yields b
      (fun _ => Books (Step.on { b.link with log := [] } step).2.requests marks base before)
      fun _ => Books (Step.on { b.link with log := [] } step).2.requests marks base before := by
  rw [yields_onLink]
  have hdone : ∀ l, l = (Step.on { b.link with log := [] } step).2 →
      Books (Step.on { b.link with log := [] } step).2.requests marks base before { b with
        link := { l with log := [] }, desk := { b.desk with log := b.desk.log ++ l.log } } := by
    rintro _ rfl
    exact ⟨rfl, h.desk.congr rfl rfl rfl⟩
  exact (yields_on step).mono (fun _ => hdone) fun _ => hdone

/-- What sends nothing on the link is discreet. -/
theorem discreet_onLink {step : Step Link α} (h : Link.Quiet step) : Discreet (onLink step) := by
  intro requests marks base before b hb
  rw [yields_onLink]
  have hsent : ∀ l, Link.Sent { b.link with log := [] } [] l → l.requests = requests := by
    intro l hl
    rw [hl.2, List.append_nil]
    exact hb.requests_eq
  exact (h { b.link with log := [] }).mono
    (fun _ l hl => ⟨hsent l hl, hb.desk.congr rfl rfl rfl⟩)
    fun _ l hl => ⟨hsent l hl, hb.desk.congr rfl rfl rfl⟩

/-- Attributes of the original are changed without an event. -/
theorem discreet_putOnOriginal (updates : List (String × String)) :
    Discreet (putOnOriginal updates) := by
  refine .get_bind fun b => ?_
  split
  case h_1 => exact .pure _
  case h_2 item _ =>
    exact (discreet_onDesk (Desk.discreet_revise item (item.withAttributes updates))).bind fun _ =>
      discreet_hands (fun _ => rfl) fun _ => rfl

/-- Attributes of the response are changed without an event. -/
theorem discreet_putOnResponse (updates : List (String × String)) :
    Discreet (putOnResponse updates) := by
  refine .get_bind fun b => ?_
  split
  case h_1 => exact .pure _
  case h_2 item _ =>
    exact (discreet_onDesk (Desk.discreet_revise item (item.withAttributes updates))).bind fun _ =>
      discreet_hands (fun _ => rfl) fun _ => rfl

/-- An event is recorded. -/
theorem report_books (h : Books requests marks base before b) (event : Provenance) :
    (onDesk (Desk.report event)).Yields b
      (fun _ => Books requests (marks ++ [event.mark]) base before) never := by
  rw [yields_onDesk]
  refine ⟨h.requests_eq, ?_, h.desk.tallied⟩
  rw [← h.desk.marks_eq]
  exact List.map_append

end Bench

namespace Trigger

open Bench

variable {rs : List Request} {ms : List Mark} {base : Metrics}
  {before transfers : List (Relationship × WorkItem)} {paused : Bool} {b : Bench} {e : Errand}
  {original response : Option WorkItem} {ids : Ids}

namespace Errand

/-- The event of an exchange that is set up: the payload of the original is to be sent. -/
def sendMarks (e : Errand) (plan : Plan) : List Mark :=
  match plan.draft.body, e.original with
  | some _, some item => [(.send, item.id)]
  | _, _ => []

/-- The event of a response that got its payload. -/
def fillMarks (e : Errand) (plan : Plan) (received : Received) : List Mark :=
  if e.duty.givesResponse received.isSuccess then
    [(if e.original.isSome then .fetch else .receive, (e.empty plan received).id)]
  else []

/-- The event of an original that got a text. -/
def textMarks (e : Errand) (text : Option String) : List Mark :=
  match e.original, text with
  | some item, some _ => [(.attributesModified, item.id)]
  | _, _ => []

/-- The events that are recorded once an answer has arrived. -/
def answerMarks (e : Errand) (plan : Plan) (received : Received) : List Mark :=
  match (e.drained received).captured with
  | .error _ => []
  | .ok _ => e.fillMarks plan received ++ ((e.text received).toOption.elim [] e.textMarks)

/-- The events that an errand records. -/
def marks (e : Errand) : List Mark :=
  match e.plan with
  | .error _ => []
  | .ok plan => e.sendMarks plan ++ ((e.received plan).toOption.elim [] (e.answerMarks plan))

/-- The requests that reached the network by the end of an errand. -/
def requests (e : Errand) : List Request :=
  match e.plan with
  | .error _ => e.link.requests
  | .ok plan => (Step.on e.link (Link.receive plan.draft e.chunkSize)).2.requests

/-- The number of bytes that an errand counts for an answer: those of the response if there is one,
and otherwise those that were captured for the original. -/
def size (e : Errand) (received : Received) : Nat :=
  if e.duty.givesResponse received.isSuccess then (e.drained received).content.length
  else ((e.drained received).captured.toOption.join.getD []).length

/-- The metrics after an errand, before its transfers. -/
def answered (e : Errand) (m : Metrics) : Metrics :=
  match e.delivery with
  | .error fault => m.recordFailure fault.label
  | .ok d => m.recordAnswer d.received.response (e.size d.received)

variable {plan : Plan} {received : Received} {fault : Fault}

/-- An errand that cannot be planned sends nothing and records no event. -/
theorem unplanned (h : e.plan = .error fault) : e.requests = e.link.requests ∧ e.marks = [] := by
  simp [requests, marks, h]

/-- A planned errand sends what the exchange of its draft sends. -/
theorem requests_of_plan (hp : e.plan = .ok plan) :
    e.requests = (Step.on e.link (Link.receive plan.draft e.chunkSize)).2.requests := by
  simp [requests, hp]

/-- Without an answer, the events are those of the sending. -/
theorem marks_of_unanswered (hp : e.plan = .ok plan) (hr : e.received plan = .error fault) :
    e.marks = e.sendMarks plan := by
  simp [marks, hp, hr, Except.toOption]

/-- With an answer, its events follow those of the sending. -/
theorem marks_of_answered (hp : e.plan = .ok plan) (hr : e.received plan = .ok received) :
    e.marks = e.sendMarks plan ++ e.answerMarks plan received := by
  simp [marks, hp, hr, Except.toOption]

/-- A body that broke off gives no event. -/
theorem answerMarks_of_broken (h : (e.drained received).captured = .error fault) :
    e.answerMarks plan received = [] := by
  simp [answerMarks, h]

/-- A body that cannot be read as text still gives the event of the filled response. -/
theorem answerMarks_of_unread {captured : Option Bytes}
    (h : (e.drained received).captured = .ok captured) (ht : e.text received = .error fault) :
    e.answerMarks plan received = e.fillMarks plan received := by
  simp [answerMarks, h, ht, Except.toOption]

/-- A body that was read gives the event of the filled response, then that of the text. -/
theorem answerMarks_of_text {captured : Option Bytes} {text : Option String}
    (h : (e.drained received).captured = .ok captured) (ht : e.text received = .ok text) :
    e.answerMarks plan received = e.fillMarks plan received ++ e.textMarks text := by
  simp [answerMarks, h, ht, Except.toOption]

end Errand

/-! ## The steps of an exchange -/

/-- The response item is made without an event. -/
theorem discreet_createResponse (plan : Plan) (received : Received) :
    Bench.Discreet (createResponse plan received) := by
  refine .get_bind fun b => ?_
  have hcreate : Desk.Discreet (b.original.elim Desk.create Desk.createChild) := by
    cases b.original with
    | none => exact Desk.discreet_create
    | some item => exact Desk.discreet_createChild item
  refine (discreet_onDesk hcreate).bind fun item => ?_
  refine Bench.Discreet.bind (discreet_hands (fun _ => rfl) fun _ => rfl) fun _ => ?_
  refine (discreet_putOnResponse _).bind fun _ => (discreet_putOnResponse _).bind fun _ => ?_
  split
  case h_1 =>
    split
    case isTrue => exact discreet_putOnResponse _
    case isFalse => exact .pure _
  case h_2 => exact .pure _

/-- To note the answer and its attributes records no event. -/
theorem discreet_greet (duty : Duty) (plan : Plan) (received : Received) :
    Bench.Discreet (greet duty plan received) := by
  refine (discreet_onDesk (Desk.discreet_note _)).bind fun _ => ?_
  refine (discreet_putOnOriginal _).bind fun _ => ?_
  extract_lets content respond
  have hrespond : Bench.Discreet (respond ()) := by
    refine .get_bind fun b => ?_
    split
    case isTrue => exact (discreet_createResponse plan received).bind fun _ => .pure _
    case isFalse => exact .pure _
  split
  case isTrue => exact (discreet_putOnOriginal _).bind fun _ => hrespond
  case isFalse => exact hrespond

/-- An exchange that is set up for an original with a payload to send says so. -/
theorem prepare_books (h : Works transfers paused e.original none e.ids b)
    (hb : Bench.Books rs ms base before b) :
    (prepare e.duty e.transaction e.now).Yields b
      (fun plan => Bench.Books rs (ms ++ e.sendMarks plan) base before)
      fun _ => Bench.Books rs ms base before := by
  have hnote : ∀ record, Bench.Discreet (onDesk (Desk.note record)) := fun record =>
    discreet_onDesk (Desk.discreet_note record)
  unfold prepare
  rw [yields_bind, yields_get, h.original_eq, yields_bind, yields_ofExcept]
  refine ⟨?_, fun _ _ => hb⟩
  rintro ⟨draft, log⟩ -
  rw [yields_bind]
  refine (yields_forM (fun r => hnote r _ _ _ _) log hb).mono (fun _ b₁ h₁ => ?_) fun _ _ => id
  rw [yields_bind]
  refine (hnote _ _ _ _ _ b₁ h₁).mono (fun _ b₂ h₂ => ?_) fun _ _ => id
  dsimp only
  split
  case h_1 body item hbody ho =>
    rw [yields_bind]
    refine (report_books h₂ _).mono (fun _ b₃ h₃ => ?_) fun _ _ => False.elim
    rw [yields_pure, Errand.sendMarks, hbody, ho]
    exact h₃
  case h_2 hnot =>
    rw [yields_pure]
    have hnone : ∀ plan : Plan, plan.draft = draft → e.sendMarks plan = [] := by
      rintro plan rfl
      unfold Errand.sendMarks
      split
      case h_1 body item hbody ho => exact absurd ho (hnot body item hbody)
      case h_2 => rfl
    rw [hnone _ rfl, List.append_nil]
    exact h₂

/-- The event of a filled response is a fetch where there is an original, and a receipt else. -/
theorem fillResponse_books {item : WorkItem} (plan : Plan) (content : Bytes)
    (h : Works transfers paused original (some item) ids b) (hb : Bench.Books rs ms base before b) :
    (fillResponse plan content).Yields b
      (fun _ => Bench.Books rs
        (ms ++ [(if original.isSome then .fetch else .receive, item.id)]) base before)
      fun _ => Bench.Books rs ms base before := by
  have hrevise := discreet_onDesk (Desk.discreet_revise item (item.withContent content))
  simp only [fillResponse, yields_bind, yields_get]
  rw [h.response_eq, h.original_eq]
  simp only [yields_bind, yields_modify, since, yields_get, yields_pure]
  refine ((reviseResponse_works (item.withContent_id content) h).and (hrevise _ _ _ _ b hb)).mono ?_
    fun _ _ hf => hf.1.elim
  rintro a b₁ ⟨hw, hb₁⟩
  obtain rfl : a = item.withContent content := Option.some.inj hw.response_eq
  have hhands : Bench.Books rs ms base before { b₁ with response := some (item.withContent content) } :=
    ⟨hb₁.requests_eq, hb₁.desk⟩
  exact (report_books hhands _).mono (fun _ _ => id) fun _ _ => False.elim

/-- The event of the text put on the original is that its attributes were modified. -/
theorem fillAttribute_books {item : WorkItem} (duty : Duty) (plan : Plan) (received : Received)
    (captured : Bytes) (h : Works transfers paused (some item) response ids b)
    (hb : Bench.Books rs ms base before b) :
    (fillAttribute duty plan received captured).Yields b
      (fun _ => Bench.Books rs (ms ++ [(.attributesModified, item.id)]) base before)
      fun _ => Bench.Books rs ms base before := by
  simp only [fillAttribute]
  rw [yields_bind, yields_get, h.original_eq]
  simp only [yields_bind, yields_ofExcept]
  refine ⟨fun text _ => ?_, fun _ _ => hb⟩
  refine (discreet_putOnOriginal _ _ _ _ _ b hb).mono (fun _ b₁ h₁ => ?_) fun _ _ => id
  simp only [since, yields_bind, yields_get, yields_pure]
  exact (report_books h₁ _).mono (fun _ _ => id) fun _ _ => False.elim

/-- A completed exchange is counted, and the time that it took. -/
theorem count_books (plan : Plan) (answer : Response) (bytes : Nat)
    (hb : Bench.Books rs ms base before b) :
    (count plan answer bytes).Yields b
      (fun _ => Bench.Books rs ms (base.recordAnswer answer bytes) before) never := by
  simp only [count, since, yields_bind, yields_get, yields_pure, yields_onDesk, yields_modify]
  obtain ⟨new, ht, hm⟩ := hb.desk.tallied
  refine ⟨hb.requests_eq, hb.desk.marks_eq, new, ht, ?_⟩
  rw [← Metrics.tally_recordAnswer, ← hm]
  unfold Metrics.recordAnswer
  split <;> rfl

/-- Reading the body sends nothing. -/
theorem quiet_collect (received : Received) (chunkSize : Nat) (demand : Demand) :
    Link.Quiet (Link.collect received chunkSize demand) :=
  (Link.quiet_settle _ _).bind fun _ => (Link.Quiet.ofExcept _).bind fun _ => .pure _

/-! ## The exchange -/

/-- A text is recorded for the original that gets one. -/
theorem addText_books {plan : Plan} {received : Received} {bytes : Bytes}
    (hcaptured : (e.drained received).captured = .ok (some bytes))
    (h : Works transfers paused (e.told plan received) response ids b)
    (hb : Bench.Books rs ms base before b) :
    (fillAttribute e.duty plan received bytes).Yields b
      (fun _ b' => ∀ text, e.text received = .ok text →
        Bench.Books rs (ms ++ e.textMarks text) base before b')
      fun _ => Bench.Books rs ms base before := by
  obtain ⟨item, htold⟩ := Errand.exists_told_of_captured hcaptured plan
  rw [htold] at h
  refine (fillAttribute_books e.duty plan received bytes h hb).mono (fun _ b' h' text ht => ?_)
    fun _ _ => id
  obtain ⟨chars, rfl⟩ : ∃ chars, text = some (String.ofList chars) := by
    rw [Errand.text_of_captured hcaptured] at ht
    obtain ⟨chars, -, rfl⟩ := ok_of_map ht
    exact ⟨chars, rfl⟩
  have hid := e.map_id_told plan received
  rw [htold, Option.map_some, eq_comm, Option.map_eq_some_iff] at hid
  obtain ⟨original, ho, hid⟩ := hid
  have hmarks : e.textMarks (some (String.ofList chars)) = [(.attributesModified, item.id)] := by
    simp [Errand.textMarks, ho, hid]
  rwa [hmarks]

/-- A delivery is counted before it is handed over. -/
theorem settle_books {d : Delivery} (hd : e.delivery = .ok d)
    (hb : Bench.Books rs ms base before b) :
    Step.Yields (do
      count d.plan d.received.response (e.size d.received)
      let b ← get
      onDesk (Desk.route e.duty.routing d.received.response.status b.original b.response)) b
      (fun _ => Bench.Books rs ms (e.answered base) before) fun _ _ => True := by
  rw [yields_bind]
  refine (count_books _ _ _ hb).mono (fun _ b' hb' => ?_) fun _ _ => False.elim
  rw [yields_bind, yields_get, Errand.answered, hd]
  exact (discreet_onDesk (Desk.discreet_route _ _ _ _) _ _ _ _ b' hb').mono (fun _ _ => id)
    fun _ _ _ => trivial

/-- An exchange records what its errand does, up to the transfers. -/
theorem exchange_books (hfresh : ∀ item ∈ e.original, item.id ≠ Ids.text (e.ids.drawn + 1))
    (h : Works transfers paused e.original none e.ids b)
    (hl : { b.link with log := [] } = e.link)
    (hb : Bench.Books e.link.requests ms base before b) :
    (exchange e.duty e.chunkSize e.transaction e.now).Yields b
      (fun _ => Bench.Books e.requests (ms ++ e.marks) (e.answered base) before)
      fun _ => Bench.Books e.requests (ms ++ e.marks) base before := by
  unfold exchange
  rw [yields_bind]
  refine ((prepare_works h hl).and (prepare_books h hb)).mono ?_ fun fault b' hf => ?_
  case refine_2 =>
    obtain ⟨⟨hp, -⟩, hb'⟩ := hf
    rw [(Errand.unplanned hp).1, (Errand.unplanned hp).2, List.append_nil]
    exact hb'
  rintro plan b₁ ⟨⟨hp, h₁, hl₁⟩, hb₁⟩
  rw [yields_bind]
  refine ((onLink_works h₁ (yields_result _)).and (onLink_books hb₁)).mono ?_ fun fault b' hf => ?_
  case refine_2 =>
    obtain ⟨⟨hr, -⟩, hb'⟩ := hf
    rw [hl₁] at hr hb'
    rw [Errand.requests_of_plan hp, Errand.marks_of_unanswered hp hr]
    exact hb'
  rintro received b₂ ⟨⟨hr, h₂⟩, hb₂⟩
  rw [hl₁] at hr hb₂
  rw [← Errand.requests_of_plan hp] at hb₂
  rw [Errand.marks_of_answered hp hr, ← List.append_assoc]
  rw [yields_bind]
  refine (guarding_never ((greet_works plan received hfresh h₂).and_keeps
    (discreet_greet e.duty plan received _ _ _ _) hb₂)).mono ?_ fun _ _ => False.elim
  rintro demand b₃ ⟨⟨rfl, ids, h₃⟩, hb₃⟩
  rw [yields_bind]
  refine ((onLink_works h₃ (collect_yields _ _ _ _)).and
    (discreet_onLink (quiet_collect _ _ _) _ _ _ _ b₃ hb₃)).mono ?_ fun fault b' hf => ?_
  case refine_2 =>
    obtain ⟨⟨hcaptured, -⟩, hb'⟩ := hf
    rw [Errand.answerMarks_of_broken hcaptured, List.append_nil]
    exact hb'
  rintro ⟨captured, content⟩ b₄ ⟨⟨⟨hcaptured, hcontent⟩, h₄⟩, hb₄⟩
  dsimp -zeta only at hcaptured hcontent ⊢
  have hsize : (if (e.demand received.isSuccess).content then content.length
      else (captured.getD []).length) = e.size received := by
    simp only [Errand.size, Errand.drained, hcaptured, hcontent]
    rfl
  rw [hsize]
  obtain ⟨marks, hmarks⟩ : ∃ marks, marks = ms ++ e.sendMarks plan ++ e.answerMarks plan received :=
    ⟨_, rfl⟩
  rw [← hmarks]
  -- `fill` is what is left to do once the response has the body, `route` once the original has
  -- its text; the event of the response is recorded before the text, which can still fail
  extract_lets route fill
  have hroute : ∀ b text, e.text received = .ok text →
      Works transfers paused ((e.told plan received).map (Errand.withText e.duty text))
        (e.filled plan received) ids b →
      Bench.Books e.requests marks base before b →
      (route ()).Yields b (fun _ => Bench.Books e.requests marks (e.answered base) before)
        fun _ => Bench.Books e.requests marks base before := by
    intro b text ht hw hb
    have hd := Errand.delivered hp hr ht
    exact ((settle_works hd _ hw).and (settle_books hd hb)).mono (fun _ _ h => h.2)
      fun _ _ h => h.1.elim
  have hfill : ∀ b, Works transfers paused (e.told plan received) (e.filled plan received) ids b →
      Bench.Books e.requests (ms ++ e.sendMarks plan ++ e.fillMarks plan received) base before b →
      (fill ()).Yields b (fun _ => Bench.Books e.requests marks (e.answered base) before)
        fun _ => Bench.Books e.requests marks base before := by
    intro b hw hb
    cases captured with
    | none =>
      have ht := Errand.text_of_uncaptured hcaptured
      refine hroute b none ht ?_ ?_
      · rwa [show Errand.withText e.duty none = id from rfl, Option.map_id]
      · have hnone : e.textMarks none = [] := by cases ho : e.original <;> simp [Errand.textMarks, ho]
        rwa [hmarks, Errand.answerMarks_of_text hcaptured ht, hnone, List.append_nil]
    | some bytes =>
      simp only [fill]
      rw [yields_bind]
      refine ((addText_works hcaptured hw).and (addText_books hcaptured hw hb)).mono ?_ ?_
      · rintro _ b' ⟨⟨text, ht, hw'⟩, hb'⟩
        refine hroute b' text ht hw' ?_
        rw [hmarks, Errand.answerMarks_of_text hcaptured ht, ← List.append_assoc]
        exact hb' text ht
      · rintro fault b' ⟨⟨ht, -⟩, hb'⟩
        rwa [hmarks, Errand.answerMarks_of_unread hcaptured ht]
  split
  case isTrue hc =>
    have hc : e.duty.givesResponse received.isSuccess = true := hc
    have hfilled : e.filled plan received = some ((e.empty plan received).withContent content) :=
      hcontent ▸ Errand.filled_of_gives hc
    rw [yields_bind]
    rw [if_pos hc] at h₄
    refine ((fillResponse_works plan content h₄).and (fillResponse_books plan content h₄ hb₄)).mono
      ?_ fun _ _ h => h.1.elim
    rintro _ b' ⟨hw, hb'⟩
    refine hfill b' (hfilled ▸ hw) ?_
    have hsome : (e.told plan received).isSome = e.original.isSome := by
      rw [Errand.told, Option.isSome_map]
    rw [Errand.fillMarks, if_pos hc, ← hsome]
    exact hb'
  case isFalse hc =>
    have hc : ¬ e.duty.givesResponse received.isSuccess = true := hc
    rw [if_neg hc] at h₄
    refine hfill _ (Errand.filled_of_not_gives hc ▸ h₄) ?_
    rw [Errand.fillMarks, if_neg hc, List.append_nil]
    exact hb₄

/-! ## The cycle -/

/-- To take an item from the queue records no event. -/
theorem discreet_intake (duty : Duty) (hasIncoming : Bool) :
    Desk.Discreet (intake duty hasIncoming) := by
  intro marks base before d hd
  unfold intake
  rw [yields_bind, yields_get]
  have hsession : d.session.take?.2.events = d.session.events ∧
      d.session.take?.2.transfers = d.session.transfers := by
    unfold Session.take?
    split <;> exact ⟨rfl, rfl⟩
  dsimp only
  split
  case h_1 => exact hd.congr hsession.1 hsession.2 rfl
  case h_2 =>
    split
    case isTrue => exact hd
    case isFalse =>
      split
      case isTrue => exact Desk.Discreet.bind Desk.discreet_create (fun _ => .pure _) _ _ _ d hd
      case isFalse => exact hd

/-- What is said of the cache is a line of the log. -/
theorem discreet_noteCache (client : Client) : Desk.Discreet (noteCache client) := by
  unfold noteCache
  split
  case h_1 => exact .pure _
  case h_2 => exact Desk.discreet_note _

/-- To draw a name for the exchange records no event. -/
theorem discreet_drawTransaction : Desk.Discreet drawTransaction := fun _ _ _ _ h =>
  h.congr rfl rfl rfl

/-- A cycle records what its errand does, and counts what it transfers. -/
theorem run_books (duty : Duty) (chunkSize : Nat) (hasIncoming : Bool) (now : Int)
    (hfresh : HeadFresh b.desk) (hb : Bench.Books b.link.requests ms base before b) :
    (run duty chunkSize hasIncoming now).Yields b
      (fun _ b' => ∀ e, setOut duty chunkSize hasIncoming now b.desk b.link = some e →
        Bench.Books e.requests (ms ++ e.marks) (e.answered base) before b')
      fun _ _ => True := by
  refine run_sets_out (Bench.Books b.link.requests ms base before)
    (discreet_onDesk (discreet_intake duty hasIncoming) _ _ _ _)
    (fun _ _ h => ⟨h.requests_eq, h.desk⟩) (fun _ => discreet_onDesk (discreet_noteCache _) _ _ _ _)
    (discreet_onDesk discreet_drawTransaction _ _ _ _) hfresh hb (fun hset => ?_)
    fun e b' hset hw hl hfresh' hb' => ?_
  · exact fun e he => nomatch hset.symm.trans he
  obtain ⟨original, ids, he⟩ := of_setOut hset
  have hlink : e.link.requests = b.link.requests := by rw [he]; rfl
  refine ((exchange_works hfresh' hw hl).and
    (exchange_books hfresh' hw hl (hlink ▸ hb'))).mono ?_ ?_
  · rintro outcome b'' ⟨-, hb''⟩ e' he'
    obtain rfl := Option.some.inj (hset.symm.trans he')
    exact hb''
  · rintro fault b'' ⟨⟨hd, -⟩, hb''⟩
    have hanswered : e.answered base = base.recordFailure fault.label := by
      rw [Errand.answered, hd]
    rw [yields_onDesk]
    refine (Desk.routeFailure_books fault _ _ hb''.desk).mono ?_ fun _ _ _ => trivial
    rintro _ d hdesk e' he'
    obtain rfl := Option.some.inj (hset.symm.trans he')
    rw [hanswered]
    exact ⟨hb''.requests_eq, hdesk⟩

end Trigger

/-! ## The trigger -/

namespace Processor

variable {f f' : Floor}

/-- What a trigger with an errand leaves on the floor: the requests, the events, the transfers and
the counts of the errand. -/
structure Journals (e : Trigger.Errand) (before after : Floor) : Prop where
  requests_eq : after.network.exchanges.map (·.request) = e.requests
  marks_eq : after.desk.session.events.map Provenance.mark
    = before.desk.session.events.map Provenance.mark ++ e.marks
  transfers_eq : after.desk.session.transfers = before.desk.session.transfers ++ e.transfers
  counts_eq : after.desk.metrics.counts = (e.answered before.desk.metrics.counts).tally e.transfers

/-- A trigger of a running processor leaves what its errand does; without an errand nothing
changes. -/
theorem trigger_journals (hr : f.processor.Reachable) (hrun : f.processor.lifecycle = .running)
    (hfresh : Trigger.HeadFresh f.desk) (hasIncoming : Bool) (now : Int) :
    ∃ result f', Step.on f (trigger hasIncoming now) = (.ok result, f') ∧
      match f.errand? hasIncoming now with
      | none => result = none ∧ f' = f
      | some e => result = some e.outcome ∧ Journals e f f' := by
  refine trigger_of_run hr hrun fun duty number transport herrand hleave => ?_
  have hcarries := Trigger.run_carries (b := benchOf f transport) duty f.processor.chunkSize
    hasIncoming now hfresh
  have hbooks := Trigger.run_books (b := benchOf f transport) duty f.processor.chunkSize hasIncoming
    now hfresh ⟨rfl, .refl _⟩
  refine (hcarries.and hbooks).mono ?_ fun _ _ => And.left
  rintro result b ⟨h, hb⟩
  rw [herrand]
  cases hset : Trigger.setOut duty f.processor.chunkSize hasIncoming now (benchOf f transport).desk
      (benchOf f transport).link with
  | none =>
    rw [hset] at h
    obtain ⟨rfl, rfl⟩ := h
    exact ⟨rfl, hleave⟩
  | some e =>
    rw [hset] at h
    obtain ⟨rfl, htransfers, -⟩ := h
    obtain ⟨hrequests, hmarks, new, hnew, hcounts⟩ := hb e hset
    obtain rfl : new = e.transfers := List.append_cancel_left (hnew.symm.trans htransfers)
    exact ⟨rfl, hrequests, hmarks, htransfers, hcounts⟩

end Processor

end HttpCourier
