import HttpCourier.Proofs.Journal
import HttpCourier.Proofs.Schedules

/-!
# What the metrics count

The metrics are shared by all processors. `Processor.History` has the metrics and the sessions after
any triggers since a reset, and `History.accounts` says that the metrics are the account of those
triggers: of their outcomes and statuses, of the bytes that they received, and of what they
transferred.
-/

namespace HttpCourier

open Step

/-! ## Counts by key -/

/-- The sum of a measure over a list. -/
def sumOf {α : Type} (measure : α → Nat) : List α → Nat
  | [] => 0
  | a :: rest => measure a + sumOf measure rest

/-- Sums are added part by part. -/
theorem sumOf_append {α : Type} (measure : α → Nat) (as bs : List α) :
    sumOf measure (as ++ bs) = sumOf measure as + sumOf measure bs := by
  induction as with
  | nil => exact (Nat.zero_add _).symm
  | cons a rest ih => rw [List.cons_append, sumOf, sumOf, ih, Nat.add_assoc]

namespace OrderedMap

variable {α : Type} [DecidableEq α]

/-- The count of a key. -/
def countOf (m : OrderedMap α Nat) (key : α) : Nat := (m.get? key).getD 0

/-- The sum of all counts. -/
def total (m : OrderedMap α Nat) : Nat := sumOf Prod.snd m

/-- A count is one more for its own key. -/
theorem countOf_count (m : OrderedMap α Nat) (key other : α) :
    (m.count key).countOf other = m.countOf other + if key = other then 1 else 0 := by
  unfold count countOf
  by_cases h : key = other
  · subst h
    simp
  · rw [get?_set_of_ne m _ (Ne.symm h), if_neg h, Nat.add_zero]

/-- A count that is replaced is replaced in the sum. -/
theorem total_set (m : OrderedMap α Nat) (key : α) (n : Nat) :
    (m.set key n).total + m.countOf key = m.total + n := by
  unfold total countOf
  induction m with
  | nil => simp [set, sumOf]
  | cons kv rest ih =>
    obtain ⟨k, v⟩ := kv
    by_cases hk : k = key
    · simp only [set, get?, hk, if_true, sumOf, Option.getD_some]
      omega
    · simp only [set, get?, hk, if_false, sumOf]
      omega

/-- The sum is one more after any count. -/
theorem total_count (m : OrderedMap α Nat) (key : α) : (m.count key).total = m.total + 1 := by
  have h := m.total_set key (m.countOf key + 1)
  unfold count
  rw [← countOf]
  omega

end OrderedMap

namespace Metrics

/-- An answer is counted as a request, and as a hit when it came out of the cache. -/
theorem recordAnswer_eq (m : Metrics) (response : Response) (bytes : Nat) :
    m.recordAnswer response bytes = { m.recordRequest response.status bytes with
      cacheHits := m.cacheHits + response.fromCache.toNat } := by
  unfold recordAnswer
  split
  case isTrue h => rw [h]; rfl
  case isFalse h => rw [Bool.eq_false_iff.2 h]; rfl

/-- The count of a relationship grows by the transfers to it. -/
theorem countOf_tally (m : Metrics) (transfers : List (Relationship × WorkItem)) (r : Relationship) :
    (m.tally transfers).transfers.countOf r
      = m.transfers.countOf r + (transfers.filter fun t => t.1 == r).length := by
  induction transfers generalizing m with
  | nil => rfl
  | cons t rest ih =>
    rw [show m.tally (t :: rest) = (m.tally [t]).tally rest from rfl, ih, List.filter_cons]
    have hfirst : (m.tally [t]).transfers.countOf r
        = m.transfers.countOf r + if t.1 = r then 1 else 0 := OrderedMap.countOf_count _ _ _
    rw [hfirst]
    by_cases h : t.1 = r
    · simp only [h, if_true, beq_self_eq_true, List.length_cons]
      omega
    · simp only [h, if_false, beq_iff_eq, Nat.add_zero]

end Metrics

namespace Trigger.Errand

variable {e : Errand} {d : Delivery}

/-- The number of bytes that were captured of an answer for the original. -/
def capturedSize (e : Errand) (received : Received) : Nat :=
  ((e.drained received).captured.toOption.join.getD []).length

/-- What is counted for a delivery is the size of the response that is transferred, and what was
captured if there is none. -/
theorem size_of_delivery (h : e.delivery = .ok d) :
    e.size d.received = match (e.transfers.find? fun t => t.1 = .response) with
      | some (_, item) => item.content.length
      | none => e.capturedSize d.received := by
  rw [← List.head?_filter, responses_of_delivery h, filled, size]
  split <;> rfl

end Trigger.Errand

/-! ## Turns -/

namespace Processor

open Trigger

/-- A trigger: the floor that it finds, and what it is told. -/
structure Turn where
  floor : Floor
  hasIncoming : Bool
  now : Int

namespace Turn

/-- The result of the trigger. -/
def result (t : Turn) : Except Fault (Option Outcome) :=
  (Step.on t.floor (trigger t.hasIncoming t.now)).1

/-- The floor that the trigger leaves. -/
def after (t : Turn) : Floor := (Step.on t.floor (trigger t.hasIncoming t.now)).2

/-- The outcome that the trigger returned, if any. -/
def outcome? (t : Turn) : Option Outcome := t.result.toOption.join

/-- Whether the trigger returned that its exchange was completed. -/
def completed (t : Turn) : Bool :=
  t.outcome? == some .success || t.outcome? == some .retry || t.outcome? == some .noRetry

/-- The errand of the trigger, if the processor runs and there is something to do. -/
def errand? (t : Turn) : Option Errand :=
  if t.floor.processor.lifecycle = .running then t.floor.errand? t.hasIncoming t.now else none

/-- The answer that the trigger came to in the end, with its body open. -/
def received? (t : Turn) : Option Received :=
  t.errand?.bind fun e => e.delivery.toOption.map (·.received)

/-- The final status of the trigger. -/
def status? (t : Turn) : Option Int := t.received?.map (·.response.status)

/-- What the trigger transferred. -/
def sent (t : Turn) : List (Relationship × WorkItem) :=
  t.after.desk.session.transfers.drop t.floor.desk.session.transfers.length

/-- The size of the response that the trigger transferred, and of what it captured if there is
none. -/
def bytes (t : Turn) : Nat :=
  match t.sent.find? fun sent => sent.1 = .response with
  | some (_, item) => item.content.length
  | none => (t.errand?.bind fun e => t.received?.map e.capturedSize).getD 0

end Turn

/-- The metrics and the sessions after the triggers since a reset, by processors of any kind.
Between them sessions are opened, and items are queued, made, changed and removed, but not
transferred. -/
inductive History : Metrics → List Session → List Turn → Prop where
  | reset : History {} [] []
  | opened {metrics : Metrics} {sessions : List Session} {turns : List Turn} (session : Session)
    (hnew : session.transfers = []) (h : History metrics sessions turns) :
    History metrics (sessions ++ [session]) turns
  | handled {metrics : Metrics} {earlier later : List Session} {session : Session}
    {turns : List Turn} (session' : Session) (hsame : session'.transfers = session.transfers)
    (h : History metrics (earlier ++ session :: later) turns) :
    History metrics (earlier ++ session' :: later) turns
  | triggered {earlier later : List Session} {turns : List Turn} (t : Turn)
    (hr : t.floor.processor.Reachable) (hfresh : HeadFresh t.floor.desk)
    (h : History t.floor.desk.metrics (earlier ++ t.floor.desk.session :: later) turns) :
    History t.after.desk.metrics (earlier ++ t.after.desk.session :: later) (turns ++ [t])

/-! ## What a turn adds -/

namespace Turn

variable {t : Turn} {e : Errand} {d : Delivery}

/-- A trigger leaves what its errand does, and without an errand nothing changes. -/
theorem records (t : Turn) (hr : t.floor.processor.Reachable) (hfresh : HeadFresh t.floor.desk) :
    match t.errand? with
    | none => t.outcome? = none ∧ t.after = t.floor
    | some e => t.result = .ok (some e.outcome) ∧ Journals e t.floor t.after := by
  unfold errand? outcome? result after
  by_cases hrun : t.floor.processor.lifecycle = .running
  · obtain ⟨result, f', hon, h⟩ := trigger_journals hr hrun hfresh t.hasIncoming t.now
    rw [if_pos hrun, hon]
    cases he : t.floor.errand? t.hasIncoming t.now with
    | none =>
      rw [he] at h
      obtain ⟨rfl, rfl⟩ := h
      exact ⟨rfl, rfl⟩
    | some e =>
      rw [he] at h
      obtain ⟨rfl, h⟩ := h
      exact ⟨rfl, h⟩
  · rw [if_neg hrun, trigger_refused hrun]
    exact ⟨rfl, rfl⟩

/-- What a trigger adds to the metrics, and to its session. -/
structure Counted (t : Turn) : Prop where
  completed_iff : t.completed = true ↔ t.status?.isSome = true
  outcome_eq : ∀ status, t.status? = some status → t.outcome? = some (.ofStatus status)
  requestTotal : t.after.desk.metrics.requests.total
    = t.floor.desk.metrics.requests.total + [t].countP completed
  requestCount : t.after.desk.metrics.requestCount
    = t.floor.desk.metrics.requestCount + [t].countP completed
  statuses : ∀ status, t.after.desk.metrics.requests.countOf status
    = t.floor.desk.metrics.requests.countOf status + [t].countP fun t => t.status? = some status
  failures : t.after.desk.metrics.failures.total
    = t.floor.desk.metrics.failures.total + [t].countP fun t => t.outcome? = some .failure
  bytes : t.after.desk.metrics.bytes
    = t.floor.desk.metrics.bytes + sumOf Turn.bytes ([t].filter completed)
  transfers : ∀ r, t.after.desk.metrics.transfers.countOf r
      + (t.floor.desk.session.transferred r).length
    = t.floor.desk.metrics.transfers.countOf r + (t.after.desk.session.transferred r).length

/-- A trigger that had nothing to do counted nothing. -/
theorem counted_of_idle (hnone : t.errand? = none) (ho : t.outcome? = none)
    (ha : t.after = t.floor) : t.Counted := by
  have hcompleted : t.completed = false := by simp [completed, ho]
  have hstatus : t.status? = none := by simp [status?, received?, hnone]
  constructor
  case completed_iff => simp [hcompleted, hstatus]
  case outcome_eq => simp [hstatus]
  all_goals simp [ha, hcompleted, hstatus, ho, sumOf]

/-- What a trigger transferred is what its errand transfers. -/
theorem sent_of_journals (h : Journals e t.floor t.after) : t.sent = e.transfers := by
  rw [sent, h.transfers_eq, List.drop_left]

/-- What is transferred is counted, however the exchange ended. -/
theorem transfers_counted (h : Journals e t.floor t.after)
    (hkept : (e.answered t.floor.desk.metrics.counts).transfers = t.floor.desk.metrics.transfers)
    (r : Relationship) :
    t.after.desk.metrics.transfers.countOf r + (t.floor.desk.session.transferred r).length
      = t.floor.desk.metrics.transfers.countOf r + (t.after.desk.session.transferred r).length := by
  have hcount : t.after.desk.metrics.transfers.countOf r
      = t.floor.desk.metrics.transfers.countOf r
        + (e.transfers.filter fun t => t.1 == r).length := by
    rw [← hkept, ← Metrics.countOf_tally, ← h.counts_eq]
    rfl
  simp only [Session.transferred, h.transfers_eq, List.filter_append, List.map_append,
    List.length_append, List.length_map, hcount]
  omega

/-- A trigger that failed is counted as a failure of its kind, and as no request. -/
theorem counted_of_fault {fault : Fault} (he : t.errand? = some e) (hd : e.delivery = .error fault)
    (hresult : t.result = .ok (some e.outcome)) (h : Journals e t.floor t.after) : t.Counted := by
  have houtcome : t.outcome? = some .failure := by
    rw [outcome?, hresult, Errand.outcome_of_fault hd]
    rfl
  have hcompleted : t.completed = false := by simp [completed, houtcome]
  have hstatus : t.status? = none := by simp [status?, received?, he, hd, Except.toOption]
  have hanswered : e.answered t.floor.desk.metrics.counts
      = t.floor.desk.metrics.counts.recordFailure fault.label := by rw [Errand.answered, hd]
  have hcounts := h.counts_eq
  rw [hanswered] at hcounts
  have hrequests : t.after.desk.metrics.requests = t.floor.desk.metrics.requests :=
    (congrArg Metrics.requests hcounts :)
  have hcount : t.after.desk.metrics.requestCount = t.floor.desk.metrics.requestCount :=
    (congrArg Metrics.requestCount hcounts :)
  have hfailures : t.after.desk.metrics.failures
      = t.floor.desk.metrics.failures.count fault.label :=
    (congrArg Metrics.failures hcounts :)
  have hsize : t.after.desk.metrics.bytes = t.floor.desk.metrics.bytes :=
    (congrArg Metrics.bytes hcounts :)
  refine ⟨?_, ?_, ?_, ?_, fun status => ?_, ?_, ?_, transfers_counted h (hanswered ▸ rfl)⟩
  · simp [hcompleted, hstatus]
  · simp [hstatus]
  · simp [hrequests, hcompleted]
  · simp [hcount, hcompleted]
  · simp [hrequests, hstatus]
  · simp [hfailures, OrderedMap.total_count, houtcome]
  · simp [hsize, hcompleted, sumOf]

/-- A trigger that was completed is counted as a request with its status and its bytes. -/
theorem counted_of_delivery (he : t.errand? = some e) (hd : e.delivery = .ok d)
    (hresult : t.result = .ok (some e.outcome)) (h : Journals e t.floor t.after) : t.Counted := by
  have houtcome : t.outcome? = some (.ofStatus d.received.response.status) := by
    rw [outcome?, hresult, Errand.outcome_of_delivery hd]
    rfl
  have hcompleted : t.completed = true := by
    rw [completed, houtcome]
    generalize hs : Outcome.ofStatus d.received.response.status = outcome
    cases outcome with
    | failure => exact absurd hs (Outcome.ofStatus_ne_failure _)
    | _ => rfl
  have hreceived : t.received? = some d.received := by simp [received?, he, hd, Except.toOption]
  have hbytes : t.bytes = e.size d.received := by
    rw [bytes, sent_of_journals h, Errand.size_of_delivery hd, he, hreceived]
    rfl
  have hanswered : e.answered t.floor.desk.metrics.counts
      = { t.floor.desk.metrics.counts.recordRequest d.received.response.status (e.size d.received) with
          cacheHits := t.floor.desk.metrics.counts.cacheHits
            + d.received.response.fromCache.toNat } := by
    rw [Errand.answered, hd]
    exact Metrics.recordAnswer_eq _ _ _
  have hcounts := h.counts_eq
  rw [hanswered] at hcounts
  have hrequests : t.after.desk.metrics.requests
      = t.floor.desk.metrics.requests.count d.received.response.status :=
    (congrArg Metrics.requests hcounts :)
  have hcount : t.after.desk.metrics.requestCount = t.floor.desk.metrics.requestCount + 1 :=
    (congrArg Metrics.requestCount hcounts :)
  have hfailures : t.after.desk.metrics.failures = t.floor.desk.metrics.failures :=
    (congrArg Metrics.failures hcounts :)
  have hsize : t.after.desk.metrics.bytes = t.floor.desk.metrics.bytes + e.size d.received :=
    (congrArg Metrics.bytes hcounts :)
  refine ⟨?_, ?_, ?_, ?_, fun status => ?_, ?_, ?_, transfers_counted h (hanswered ▸ rfl)⟩
  · simp [hcompleted, status?, hreceived]
  · simp [houtcome, status?, hreceived]
  · simp [hrequests, OrderedMap.total_count, hcompleted]
  · simp [hcount, hcompleted]
  · simp [hrequests, OrderedMap.countOf_count, status?, hreceived]
  · simp [hfailures, houtcome, Outcome.ofStatus_ne_failure]
  · simp [hsize, hcompleted, hbytes, sumOf]

/-- A trigger adds to the metrics what it did. -/
theorem counted (t : Turn) (hr : t.floor.processor.Reachable) (hfresh : HeadFresh t.floor.desk) :
    t.Counted := by
  have h := t.records hr hfresh
  cases he : t.errand? with
  | none =>
    rw [he] at h
    exact counted_of_idle he h.1 h.2
  | some e =>
    rw [he] at h
    cases hd : e.delivery with
    | error fault => exact counted_of_fault he hd h.1 h.2
    | ok d => exact counted_of_delivery he hd h.1 h.2

/-- The trigger of a processor that runs has a result. -/
theorem exists_result (t : Turn) (hr : t.floor.processor.Reachable) (hfresh : HeadFresh t.floor.desk)
    (hrun : t.floor.processor.lifecycle = .running) : ∃ result, t.result = .ok result := by
  obtain ⟨result, f', hon, -⟩ := trigger_journals hr hrun hfresh t.hasIncoming t.now
  exact ⟨result, congrArg Prod.fst hon⟩

/-- A trigger that had nothing to do changed nothing. -/
theorem after_of_idle (t : Turn) (hr : t.floor.processor.Reachable) (hfresh : HeadFresh t.floor.desk)
    (hidle : t.result = .ok none) : t.after = t.floor := by
  have h := t.records hr hfresh
  split at h
  case h_1 => exact h.2
  case h_2 => exact nomatch hidle.symm.trans h.1

end Turn

/-! ## The account -/

/-- The metrics are the account of the triggers. A completed trigger is one request, with its final
status and its bytes, and one that failed is a failure; a transfer counts wherever it was made. The
trigger of a processor that runs has a result, the completed ones are those with a final status,
whose class is their outcome, and those that had nothing to do changed nothing. -/
structure Accounts (metrics : Metrics) (sessions : List Session) (turns : List Turn) : Prop where
  requestTotal : metrics.requests.total = metrics.requestCount
  requestCount : metrics.requestCount = turns.countP Turn.completed
  statuses : ∀ status, metrics.requests.countOf status
    = turns.countP fun t => t.status? = some status
  failures : metrics.failures.total = turns.countP fun t => t.outcome? = some .failure
  transfers : ∀ r, metrics.transfers.countOf r
    = sumOf (fun s => (s.transferred r).length) sessions
  bytes : metrics.bytes = sumOf Turn.bytes (turns.filter Turn.completed)
  answered : ∀ t ∈ turns, t.floor.processor.lifecycle = .running → ∃ result, t.result = .ok result
  completed_iff : ∀ t ∈ turns, t.completed = true ↔ t.status?.isSome = true
  outcome_eq : ∀ t ∈ turns, ∀ status, t.status? = some status → t.outcome? = some (.ofStatus status)
  idle : ∀ t ∈ turns, t.result = .ok none → t.after = t.floor

/-- The metrics account for every trigger since the reset. -/
theorem History.accounts {metrics : Metrics} {sessions : List Session} {turns : List Turn}
    (h : History metrics sessions turns) : Accounts metrics sessions turns := by
  induction h with
  | reset => constructor <;> simp [OrderedMap.total, OrderedMap.countOf, sumOf]
  | opened session hnew h ih =>
    refine { ih with transfers := fun r => ?_ }
    rw [ih.transfers r]
    simp [Session.transferred, hnew, sumOf_append, sumOf]
  | handled session' hsame h ih =>
    refine { ih with transfers := fun r => ?_ }
    rw [ih.transfers r]
    simp [Session.transferred, hsame, sumOf_append, sumOf]
  | @triggered earlier later turns t hr hfresh h ih =>
    have ht := t.counted hr hfresh
    have hall : ∀ {p : Turn → Prop}, p t → (∀ t ∈ turns, p t) → ∀ t' ∈ turns ++ [t], p t' :=
      fun hp hps => List.forall_mem_append.2 ⟨hps, List.forall_mem_singleton.2 hp⟩
    constructor
    case requestTotal => rw [ht.requestTotal, ht.requestCount, ih.requestTotal]
    case requestCount => rw [ht.requestCount, ih.requestCount, List.countP_append]
    case statuses =>
      intro status
      rw [ht.statuses, ih.statuses, List.countP_append]
    case failures => rw [ht.failures, ih.failures, List.countP_append]
    case transfers =>
      intro r
      have hsent := ht.transfers r
      rw [ih.transfers r] at hsent
      simp only [sumOf_append, sumOf] at hsent ⊢
      omega
    case bytes => rw [ht.bytes, ih.bytes, List.filter_append, sumOf_append]
    case answered => exact hall (t.exists_result hr hfresh) ih.answered
    case completed_iff => exact hall ht.completed_iff ih.completed_iff
    case outcome_eq => exact hall ht.outcome_eq ih.outcome_eq
    case idle => exact hall (t.after_of_idle hr hfresh) ih.idle

/-- The trigger of a processor with one item and one answer, after what was counted before. -/
def replyTurn (metrics : Metrics) (reply : Reply) : Turn where
  floor := { replyFloor reply with desk := { (replyFloor reply).desk with metrics } }
  hasIncoming := false
  now := 0

/-- Two processors that share their metrics, with one exchange each. -/
theorem accounts_two_processors :
    let first := replyTurn {} { status := 404 }
    let second := replyTurn first.after.desk.metrics { status := 200 }
    Accounts second.after.desk.metrics [first.after.desk.session, second.after.desk.session]
      [first, second] := by
  intro first second
  have hopened : History {} ([] ++ first.floor.desk.session :: []) [] := .opened _ rfl .reset
  have hfirst : History first.after.desk.metrics ([] ++ first.after.desk.session :: []) ([] ++ [first]) :=
    .triggered first (reachable_replyFloor { status := 404 })
      (headFresh_replyFloor { status := 404 }) hopened
  have hnext : History second.floor.desk.metrics
      ([first.after.desk.session] ++ second.floor.desk.session :: []) [first] :=
    .opened second.floor.desk.session rfl hfirst
  exact History.accounts (.triggered second (reachable_replyFloor { status := 200 })
    (headFresh_replyFloor { status := 200 }) hnext)

end Processor

end HttpCourier
