import HttpCourier.Proofs.Answers
import HttpCourier.Proofs.Errands
import HttpCourier.Proofs.Streams

/-!
# How often an answer is closed

A body is wrapped up to three times, and every wrapper may try to close it. `BodyStream.Counted` is
what every use of a body keeps: its wire was asked to close once when the stream is closed, and not
before; and a closed stream is left alone by every further use. The client hands its answers out
unclosed (`Link.Open`), so that after `Link.execute`, whatever is made of the answer, whatever a
block does with the body, and wherever a fault stops it, the answer was closed exactly once
(`Link.closes_once`).
-/

namespace HttpCourier

open Step

/-! ## Reading does not close -/

/-- To take a part from the wire closes nothing. -/
theorem Wire.closeCalls_pull (w : Wire) : w.pull.2.closeCalls = w.closeCalls := by
  fun_induction pull w with
  | case1 w hp => rfl
  | case2 w time rest hp ih => exact ih
  | case3 w bytes rest hp => rfl
  | case4 w failure rest hp => rfl

namespace BodyStream

variable {s : BodyStream} {size : Int}

/-! ## Uses of a body -/

/-- Something that is done with a body. -/
inductive Use where
  | read (size : Int)
  | close
  | drain (chunkSize : Nat) (demand : Demand)

/-- The body after it was used. -/
def use (s : BodyStream) : Use → BodyStream
  | .read size => (s.read size).2
  | .close => s.close
  | .drain chunkSize demand => (HttpCourier.drain chunkSize demand s).source

/-- The body after several uses. -/
def handle (s : BodyStream) (uses : List Use) : BodyStream := uses.foldl use s

/-- The wire was asked to close once if the stream is closed, and not if it is open. -/
def Counted (s : BodyStream) : Prop := s.wire.closeCalls = if s.closed then 1 else 0

/-- A read closes nothing, and so the count stays right. -/
theorem Counted.read (h : s.Counted) (size : Int) : (s.read size).2.Counted := by
  obtain ⟨hclosed, hcalls⟩ := read_keeps Wire.closeCalls_pull size s
  rw [Counted, hclosed, hcalls]
  exact h

/-- A close is counted the first time, and not again. -/
theorem Counted.close (h : s.Counted) : s.close.Counted := by
  unfold BodyStream.close
  split
  case isTrue => exact h
  case isFalse hc =>
    rw [Counted, if_neg hc] at h
    exact congrArg (· + 1) h

/-- Every use keeps the count. -/
theorem Counted.use (h : s.Counted) (u : Use) : (s.use u).Counted := by
  cases u with
  | read size => exact h.read size
  | close => exact h.close
  | drain chunkSize demand =>
    have hread : ∀ n s' result s'', Counted s' → ByteSource.read n s' = (result, s'') →
        Counted s'' := by
      intro n s' result s'' hs hr
      have := hs.read n
      change Counted (ByteSource.read n s').2 at this
      rwa [hr] at this
    have hd := Drain.drain_keeps chunkSize Counted Counted
      (fun n s' s'' bytes hs hr => hread n s' _ s'' hs hr)
      (fun n s' s'' fault hs hr => hread n s' _ s'' hs hr)
      (fun s' hs => hs.close) (fun s' hs => hs.close) demand h
    split at hd
    · exact hd
    · exact hd

/-- The count stays right over any uses of a body, by induction on them. -/
theorem Counted.handle (h : s.Counted) (uses : List Use) : (s.handle uses).Counted := by
  induction uses generalizing s with
  | nil => exact h
  | cons u uses ih => exact ih (h.use u)

/-- A use leaves a closed stream alone. -/
theorem use_of_closed (h : s.closed = true) (u : Use) : s.use u = s := by
  cases u with
  | read size => exact congrArg Prod.snd (read_of_closed h size)
  | close => exact close_of_closed h
  | drain chunkSize demand =>
    have hread : ∀ n s' result s'', s' = s → ByteSource.read n s' = (result, s'') → s'' = s := by
      rintro n s' result s'' rfl hr
      exact congrArg Prod.snd (hr.symm.trans (read_of_closed h n))
    have hclose : ∀ s', s' = s → ByteSource.close s' = s := by
      rintro s' rfl
      exact close_of_closed h
    have hd := Drain.drain_keeps chunkSize (· = s) (· = s)
      (fun n s' s'' bytes hs hr => hread n s' _ s'' hs hr)
      (fun n s' s'' fault hs hr => hread n s' _ s'' hs hr) hclose hclose demand rfl
    split at hd
    · exact hd
    · exact hd

/-- A closed body is not changed by any use. -/
theorem handle_of_closed (h : s.closed = true) (uses : List Use) : s.handle uses = s := by
  induction uses with
  | nil => rfl
  | cons u uses ih =>
    rw [handle, List.foldl_cons, use_of_closed h]
    exact ih

/-- What becomes of a body that is used and closed at the end: its wire is closed once, at the first
use that closes it or at the end, and from then on nothing is read. -/
structure Closes (body : BodyStream) (uses : List Use) (done : BodyStream) : Prop where
  closed : done.closed = true
  closeCalls_eq : done.wire.closeCalls = 1
  /-- Before it is closed nobody asked for it; once it is closed, nothing changes any more. -/
  at_first : ∀ before after, uses = before ++ after →
    if (body.handle before).closed then done = body.handle before
    else (body.handle before).wire.closeCalls = 0
  /-- Nothing can be done with it later. -/
  handle_eq : ∀ more, done.handle more = done
  read_eq : ∀ size, done.read size = (.ok [], done)

/-- An unclosed body that is closed after some uses is closed once. -/
theorem closes_handle (h : s.Counted) (uses : List Use) : s.Closes uses (s.handle uses).close := by
  have hclosed := closed_close (s.handle uses)
  refine ⟨hclosed, ?_, ?_, handle_of_closed hclosed, read_of_closed hclosed⟩
  · rw [(h.handle uses).close, if_pos hclosed]
  · rintro before after rfl
    have hsplit : s.handle (before ++ after) = (s.handle before).handle after := List.foldl_append
    split
    case isTrue hc => rw [hsplit, handle_of_closed hc, close_of_closed hc]
    case isFalse hc => rw [h.handle before, if_neg hc]

end BodyStream

/-! ## Answers of the client -/

namespace Link

variable {α : Type} {l l₁ : Link} {response : Response}

/-- To go on with a login after an answer leaves the network alone. -/
theorem offline_resume (flow : AuthFlow) (response : Response) : Offline (resume flow response) := by
  refine fun network l h => ?_
  unfold resume
  rw [yields_bind, yields_get]
  exact Keeps.ofExcept _ _ h

/-- An operation under guard that has a result yields what it yields unguarded. -/
theorem guarding_yields {step : Step Link α} {post : α → Link → Prop}
    (h : step.Yields l post fun _ _ => True) :
    (guarding response step).Yields l post fun _ _ => True := by
  unfold guarding
  rw [yields_bind, yields_attempt]
  refine h.mono (fun _ _ => id) fun fault l' _ => ?_
  dsimp only
  rw [yields_bind]
  exact (yields_true _).mono (fun _ _ _ => trivial) fun _ _ => id

/-- The answer at the end of a chain of redirects is open. -/
theorem follow_open (left : Nat) (request : Request) :
    (follow left request).Yields l Open fun _ _ => True := by
  induction left generalizing l request with
  | zero => trivial
  | succ left ih =>
    unfold follow
    rw [yields_bind]
    refine (sendOne_answered request).mono (fun response l₁ h => ?_) fun _ _ => id
    replace h := h.2
    split
    · exact h
    · rw [yields_bind, yields_get, yields_bind]
      refine (guarding_yields (h.after fun _ => .ofExcept _)).mono (fun next l₂ h => ?_) fun _ _ => id
      split
      · rw [yields_bind]
        exact (yields_true _).mono (fun _ _ _ => ih next) fun _ _ => id
      · exact h

/-- Whatever a login takes, its last answer is the one that is open on the network. -/
theorem converse_open (rounds left : Nat) (request : Request) (flow : AuthFlow) :
    (converse rounds left request flow).Yields l Open fun _ _ => True := by
  induction rounds generalizing l left request flow with
  | zero => exact follow_open left request
  | succ rounds ih =>
    unfold converse
    rw [yields_bind]
    refine (follow_open left request).mono (fun response l₁ h => ?_) fun _ _ => id
    rw [yields_bind]
    refine (guarding_yields (h.after (offline_resume flow response))).mono (fun next l₂ h => ?_)
      fun _ _ => id
    split
    · exact h
    · rw [yields_bind]
      exact (yields_true _).mono (fun _ _ _ => ih _ _ _) fun _ _ => id

/-- The client hands its answers out open. -/
theorem send_open (request : Request) : (send request).Yields l Open fun _ _ => True := by
  unfold send
  rw [yields_bind, yields_get]
  extract_lets client go
  have hgo : (go ⟨⟩).Yields l Open fun _ _ => True := by
    simp only [go, client]
    rw [yields_bind, yields_set, yields_bind]
    exact (yields_true _).mono (fun _ _ _ => converse_open _ _ _ _) fun _ _ => id
  split
  · trivial
  · exact hgo

/-! ## Closing what was received -/

/-- What is recorded of an answer that was closed: for one from the network, what became of the wire
of its exchange. The other exchanges stay as they are. -/
structure Records (response : Response) (done : BodyStream) (before after : Network) : Prop where
  closeCalls_eq : response.wire.closeCalls = 0
  of_network : response.fromNetwork = true → ∃ past request,
    before.exchanges = past ++ [{ request, wire := some response.wire }] ∧
      after.exchanges = past ++ [{ request, wire := some done.wire }]
  of_memory : response.fromNetwork = false → after = before

/-- To finish an answer closes its body and records what became of the wire. -/
theorem finish_records (h : Open response l) (body : BodyStream) :
    (finish response body).Yields l
      (fun _ l' => Records response body.close l.network l'.network) never := by
  unfold finish settle
  split
  case isTrue hn =>
    obtain ⟨past, request, he⟩ := h.recorded hn
    refine ⟨h.closeCalls_eq, fun _ => ⟨past, request, he, ?_⟩, fun hf => absurd (hn.symm.trans hf) nofun⟩
    simp [Network.settle, he]
  case isFalse hn => exact ⟨h.closeCalls_eq, fun ht => absurd ht hn, fun _ => rfl⟩

/-- To collect an answer drains its body, closes it and records what became of its wire, also when
the drain fails. -/
theorem collect_records {received : Received} (h : Open received.response l) (chunkSize : Nat)
    (demand : Demand) :
    (collect received chunkSize demand).Yields l
      (fun _ l' => Records received.response (drain chunkSize demand received.body).source.close
        l.network l'.network)
      fun _ l' => Records received.response (drain chunkSize demand received.body).source.close
        l.network l'.network := by
  unfold collect
  extract_lets drained
  rw [yields_bind]
  refine (finish_records h drained.source).mono (fun _ l' h => ?_) fun _ _ => False.elim
  rw [yields_bind, yields_ofExcept]
  exact ⟨fun _ _ => h, fun _ _ => h⟩

section
variable {ρ : Type} (build : Received → Except Fault ρ)
  (block : ρ → List BodyStream.Use × Except Fault α)

/-- What is done with the body of an answer, as far as no fault stops it, and how that ends. A
result is made of the answer, and is given to a block; when none can be made, the body is not
used. -/
def scope (received : Received) : List BodyStream.Use × Except Fault α :=
  match build received with
  | .ok result => block result
  | .error fault => ([], .error fault)

/-- Carries out an exchange, and gives what is made of the answer to a block. However that ends, the
body is closed after it. -/
def execute (draft : Draft) (chunkSize : Nat) : Step Link α := do
  let received ← receive draft chunkSize
  let ended := scope build block received
  finish received.response (received.body.handle ended.1)
  Step.ofExcept ended.2

/-- The exchange with an answer has a result, and closed the answer once, after all that was done
with its body. An answer without a status is closed before anything is made of it. -/
def Released (response : Response) (chunkSize : Nat) (sent : Network) (result : Except Fault α)
    (l : Link) : Prop :=
  ∃ uses done,
    let body := BodyStream.ofWire response.wire chunkSize
    (if response.status = 0 then uses = [] ∧ result = .error (.report .noStatus noStatusMessage)
      else ∃ elapsed, scope build block { response, body, elapsed } = (uses, result)) ∧
      body.Closes uses done ∧ Records response done sent l.network

end

variable {draft : Draft} {chunkSize : Nat} {request : Request}
  (hrequest : draft.toRequest l.cookies chunkSize = .ok request)
  (hsend : Step.on l (send request) = (.ok response, l₁))
include hrequest hsend

/-- An answer is received open; one without a status is closed at once. -/
theorem receive_open :
    (receive draft chunkSize).Yields l
      (fun received l₂ => response.status ≠ 0 ∧ received.response = response ∧
        received.body = .ofWire response.wire chunkSize ∧ l₂ = l₁)
      fun fault l₂ => response.status = 0 ∧ fault = .report .noStatus noStatusMessage ∧
        Records response (BodyStream.ofWire response.wire chunkSize).close l₁.network l₂.network := by
  have hopen : Open response l₁ := (yields_iff.1 (send_open request)).1 response l₁ hsend
  unfold receive
  rw [yields_bind, yields_get, yields_bind, hrequest, yields_ok, yields_bind, yields_attempt,
    yields_of_ok hsend]
  dsimp -zeta only
  extract_lets body respond
  split
  case isTrue hzero =>
    rw [yields_bind]
    refine (finish_records hopen body).mono (fun _ l₂ h => ?_) fun _ _ => False.elim
    rw [yields_bind, yields_throw]
    exact ⟨hzero, rfl, h⟩
  case isFalse hstatus => exact ⟨hstatus, rfl, rfl, rfl⟩

/-- Whatever is made of an answer and done with it, the answer is closed once. -/
theorem execute_released {ρ : Type} (build : Received → Except Fault ρ)
    (block : ρ → List BodyStream.Use × Except Fault α) :
    Released build block response chunkSize l₁.network
      (on l (execute build block draft chunkSize)).1
      (on l (execute build block draft chunkSize)).2 := by
  have hopen : Open response l₁ := (yields_iff.1 (send_open request)).1 response l₁ hsend
  have hcounted : (BodyStream.ofWire response.wire chunkSize).Counted := hopen.closeCalls_eq
  refine Yields.both (Released build block response chunkSize l₁.network) ?_
  unfold execute
  rw [yields_bind]
  refine (receive_open hrequest hsend).mono ?_ ?_
  · rintro received l₂ ⟨hstatus, hresponse, hbody, rfl⟩
    obtain ⟨response, body, elapsed⟩ := received
    dsimp only at hresponse hbody
    subst hresponse hbody
    extract_lets ended
    rw [yields_bind]
    refine (finish_records hopen _).mono (fun _ l₃ h => ?_) fun _ _ => False.elim
    have hreleased : Released build block response chunkSize l₂.network ended.2 l₃ := by
      refine ⟨ended.1, _, ?_, BodyStream.closes_handle hcounted ended.1, h⟩
      rw [if_neg hstatus]
      exact ⟨elapsed, rfl⟩
    rw [yields_ofExcept]
    exact ⟨fun _ he => he ▸ hreleased, fun _ he => he ▸ hreleased⟩
  · rintro fault l₂ ⟨hzero, rfl, h⟩
    refine ⟨[], _, ?_, BodyStream.closes_handle hcounted [], h⟩
    rw [if_pos hzero]
    exact ⟨rfl, rfl⟩

end Link

/-! ## The exchanges of a cycle -/

namespace Bench

variable {α : Type} {b : Bench}

/-- What is done on the link is judged there, with its log taken to the desk afterwards. -/
theorem yields_onLink {post : α → Bench → Prop} {fail : Fault → Bench → Prop} (step : Step Link α) :
    (onLink step).Yields b post fail ↔
      step.Yields { b.link with log := [] }
        (fun a link => post a { b with
          link := { link with log := [] }, desk := { b.desk with log := b.desk.log ++ link.log } })
        fun e link => fail e { b with
          link := { link with log := [] }, desk := { b.desk with log := b.desk.log ++ link.log } } := by
  simp only [onLink, yields_bind, yields_get, yields_set, yields_ofExcept]
  unfold Yields
  generalize Step.on { b.link with log := [] } step = result
  rcases result with ⟨e | a, link⟩
  · simp
  · simp

/-- An operation that leaves the link alone. -/
def Deskwork (step : Step Bench α) : Prop := ∀ link, Keeps (fun b => b.link = link) step

/-- What is done at the desk leaves the link alone. -/
theorem deskwork_onDesk (step : Step Desk α) : Deskwork (onDesk step) := by
  refine fun link b h => (yields_onDesk step).2 ?_
  exact (yields_true step).mono (fun _ _ _ => h) fun _ _ _ => h

/-- To put attributes on the original leaves the link alone. -/
theorem deskwork_putOnOriginal (updates : List (String × String)) :
    Deskwork (putOnOriginal updates) := by
  refine fun link => Keeps.get_bind fun b => ?_
  split
  · exact .pure _
  · exact (deskwork_onDesk _ link).bind fun item b h => h

/-- To put attributes on the response leaves the link alone. -/
theorem deskwork_putOnResponse (updates : List (String × String)) :
    Deskwork (putOnResponse updates) := by
  refine fun link => Keeps.get_bind fun b => ?_
  split
  · exact .pure _
  · exact (deskwork_onDesk _ link).bind fun item b h => h

end Bench

namespace Trigger

open Bench

/-- To plan an exchange leaves the link alone. -/
theorem deskwork_prepare (duty : Duty) (transaction : String) (now : Int) :
    Deskwork (prepare duty transaction now) := by
  refine fun link => Keeps.get_bind fun b => (Keeps.ofExcept _).bind fun ⟨draft, log⟩ => ?_
  refine (Keeps.forM (fun r => deskwork_onDesk _ link) log).bind fun _ => ?_
  refine (deskwork_onDesk _ link).bind fun _ => ?_
  split
  · exact (deskwork_onDesk _ link).bind fun _ => .pure _
  · exact .pure _

/-- To make the response item leaves the link alone. -/
theorem deskwork_createResponse (plan : Plan) (received : Received) :
    Deskwork (createResponse plan received) := by
  refine fun link => Keeps.get_bind fun b => (deskwork_onDesk _ link).bind fun item => ?_
  refine Keeps.bind (fun b h => h) fun _ => ?_
  refine (deskwork_putOnResponse _ link).bind fun _ => ?_
  refine (deskwork_putOnResponse _ link).bind fun _ => ?_
  split
  · split
    · exact deskwork_putOnResponse _ link
    · exact .pure _
  · exact .pure _

/-- To note the answer and its attributes leaves the link alone. -/
theorem deskwork_greet (duty : Duty) (plan : Plan) (received : Received) :
    Deskwork (greet duty plan received) := by
  refine fun link => (deskwork_onDesk _ link).bind fun _ => ?_
  refine (deskwork_putOnOriginal _ link).bind fun _ => ?_
  extract_lets content respond
  have hrespond : Keeps (fun b => b.link = link) (respond ()) := by
    refine Keeps.get_bind fun b => ?_
    split
    · exact (deskwork_createResponse plan received link).bind fun _ => .pure _
    · exact .pure _
  split
  · exact (deskwork_putOnOriginal _ link).bind fun _ => hrespond
  · exact hrespond

/-- To fill the response item leaves the link alone. -/
theorem deskwork_fillResponse (plan : Plan) (content : Bytes) :
    Deskwork (fillResponse plan content) := by
  refine fun link => Keeps.get_bind fun b => ?_
  split
  · exact .pure _
  · refine (deskwork_onDesk _ link).bind fun item => Keeps.bind (fun b h => h) fun _ => ?_
    exact Keeps.bind (fun b h => h) fun elapsed => deskwork_onDesk _ link

/-- To put the text on the original leaves the link alone. -/
theorem deskwork_fillAttribute (duty : Duty) (plan : Plan) (received : Received) (captured : Bytes) :
    Deskwork (fillAttribute duty plan received captured) := by
  refine fun link => Keeps.get_bind fun b => ?_
  split
  · exact .pure _
  · refine (Keeps.ofExcept _).bind fun text => (deskwork_putOnOriginal _ link).bind fun _ => ?_
    exact Keeps.bind (fun b h => h) fun elapsed => deskwork_onDesk _ link

/-- To count an exchange leaves the link alone. -/
theorem deskwork_count (plan : Plan) (response : Response) (bytes : Nat) :
    Deskwork (count plan response bytes) := fun link =>
  Keeps.bind (fun _ h => h) fun _ => deskwork_onDesk _ link

/-- An answer was closed once, after a drain of its body or without one. -/
def Closed (response : Response) (chunkSize : Nat) (sent : Network) (b : Bench) : Prop :=
  ∃ uses done, (uses = [] ∨ ∃ demand, uses = [.drain chunkSize demand]) ∧
    (BodyStream.ofWire response.wire chunkSize).Closes uses done ∧
    Link.Records response done sent b.link.network

section
variable {response : Response} {received : Received} {chunkSize : Nat} {l : Link} {b : Bench}

/-- The uses that end with the close that is recorded. -/
theorem closed_of_records (h : Link.Open response l) {uses : List BodyStream.Use}
    (hu : uses = [] ∨ ∃ demand, uses = [.drain chunkSize demand])
    (hr : Link.Records response ((BodyStream.ofWire response.wire chunkSize).handle uses).close
      l.network b.link.network) :
    Closed response chunkSize l.network b := by
  have hcounted : (BodyStream.ofWire response.wire chunkSize).Counted := h.closeCalls_eq
  exact ⟨uses, _, hu, BodyStream.closes_handle hcounted uses, hr⟩

/-- What stops the greeting closes the answer. -/
theorem greet_closes (duty : Duty) (plan : Plan) (h : Link.Open received.response b.link)
    (hbody : received.body = .ofWire received.response.wire chunkSize) :
    (guarding received (greet duty plan received)).Yields b (fun _ b' => b'.link = b.link)
      fun _ => Closed received.response chunkSize b.link.network := by
  unfold guarding
  rw [yields_bind, yields_attempt]
  refine (deskwork_greet duty plan received _ b rfl).mono (fun _ _ => id) fun fault b₁ h₁ => ?_
  have hopen : Link.Open received.response { b.link with log := [] } := h.congr rfl
  dsimp -zeta only
  rw [yields_bind, yields_onLink, h₁]
  refine (Link.finish_records hopen received.body).mono (fun _ l' hr => ?_) fun _ _ => False.elim
  rw [hbody] at hr
  exact closed_of_records h (.inl rfl) hr

/-- The drain closes the answer, however it ends. -/
theorem collect_closes (demand : Demand) (h : Link.Open received.response b.link)
    (hbody : received.body = .ofWire received.response.wire chunkSize) :
    (onLink (Link.collect received chunkSize demand)).Yields b
      (fun _ => Closed received.response chunkSize b.link.network)
      fun _ => Closed received.response chunkSize b.link.network := by
  have hopen : Link.Open received.response { b.link with log := [] } := h.congr rfl
  have hdone : ∀ b' : Bench, Link.Records received.response
      (drain chunkSize demand received.body).source.close b.link.network b'.link.network →
      Closed received.response chunkSize b.link.network b' := by
    intro b' hr
    rw [hbody] at hr
    exact closed_of_records h (.inr ⟨demand, rfl⟩) hr
  rw [yields_onLink]
  exact (Link.collect_records hopen chunkSize demand).mono (fun _ _ hr => hdone _ hr)
    fun _ _ hr => hdone _ hr

/-- What happens on the desk later does not touch the answer. -/
theorem Closed.keeps {α : Type} {response : Response} {sent : Network} {step : Step Bench α}
    (hs : Deskwork step) : Keeps (Closed response chunkSize sent) step := by
  intro b h
  have hsame : ∀ b' : Bench, b'.link = b.link → Closed response chunkSize sent b' := by
    intro b' hl
    rwa [Closed, hl]
  exact (hs b.link b rfl).mono (fun _ b' hl => hsame b' hl) fun _ b' hl => hsame b' hl

end

/-- Once its answer has arrived, an exchange of a cycle closes it once: at the end of the drain, or
after the fault that comes before it. -/
theorem exchange_closes {duty : Duty} {chunkSize : Nat} {transaction : String} {now : Int}
    {b b₁ : Bench} {plan : Plan} {request : Request} {response : Response} {l₁ : Link}
    (hprepare : Step.on b (prepare duty transaction now) = (.ok plan, b₁))
    (hrequest : plan.draft.toRequest b.link.cookies chunkSize = .ok request)
    (hsend : Step.on { b.link with log := [] } (Link.send request) = (.ok response, l₁)) :
    Closed response chunkSize l₁.network
      (Step.on b (exchange duty chunkSize transaction now)).2 := by
  have hopen : Link.Open response l₁ := (yields_iff.1 (Link.send_open request)).1 response l₁ hsend
  have hlink : b₁.link = b.link := by
    have h := deskwork_prepare duty transaction now b.link b rfl
    rwa [yields_of_ok hprepare] at h
  refine Yields.on ?_
  unfold exchange
  rw [yields_bind, yields_of_ok hprepare, yields_bind, yields_onLink, hlink]
  refine (Link.receive_open (l := { b.link with log := [] }) hrequest hsend).mono
    (fun received l₂ h => ?_) fun fault l₂ h => closed_of_records hopen (.inl rfl) h.2.2
  obtain ⟨-, rfl, hbody, rfl⟩ := h
  have hlater : ∀ {α : Type} {step : Step Bench α}, Deskwork step →
      Keeps (Closed received.response chunkSize l₂.network) step := fun hs => Closed.keeps hs
  rw [yields_bind]
  refine Yields.mono (greet_closes duty plan ⟨hopen.closeCalls_eq, hopen.recorded⟩ hbody)
    (fun demand b₃ h₃ => ?_) fun _ _ => id
  have hopen : Link.Open received.response b₃.link := by
    rw [h₃]
    exact ⟨hopen.closeCalls_eq, hopen.recorded⟩
  have hcollect := collect_closes demand hopen hbody
  rw [h₃] at hcollect
  rw [yields_bind]
  refine hcollect.mono (fun result b₄ h₄ => ?_) fun _ _ => id
  dsimp -zeta only
  extract_lets route fill
  have hroute : Keeps (Closed received.response chunkSize l₂.network) (route ()) :=
    (hlater (deskwork_count plan received.response _)).bind fun _ =>
      Keeps.get_bind fun b => hlater (deskwork_onDesk _)
  have hfill : Keeps (Closed received.response chunkSize l₂.network) (fill ()) := by
    simp only [fill]
    split
    · exact (hlater (deskwork_fillAttribute duty plan received _)).bind fun _ => hroute
    · exact hroute
  split
  · exact (hlater (deskwork_fillResponse plan result.2)).bind (fun _ => hfill) b₄ h₄
  · exact hfill b₄ h₄

end Trigger

/-! ## Exactly once -/

namespace Link

/-- An answer that the client handed out is closed exactly once. Its wire was not asked to close
before, is asked once by the end of the exchange, and gives nothing after that. -/
structure ClosesOnce (l : Link) (draft : Draft) (chunkSize : Nat) (response : Response) (l₁ : Link) :
    Prop where
  /-- Whatever is made of the answer, whatever a block does with the body, and wherever a fault
  stops it. -/
  released : ∀ {ρ α : Type} (build : Received → Except Fault ρ)
    (block : ρ → List BodyStream.Use × Except Fault α),
    Released build block response chunkSize l₁.network
      (Step.on l (execute build block draft chunkSize)).1
      (Step.on l (execute build block draft chunkSize)).2
  /-- In a cycle, whatever the desk makes of the answer. -/
  cycle : ∀ duty transaction now b plan b₁, { b.link with log := [] } = l →
    Step.on b (Trigger.prepare duty transaction now) = (.ok plan, b₁) → plan.draft = draft →
      Trigger.Closed response chunkSize l₁.network
        (Step.on b (Trigger.exchange duty chunkSize transaction now)).2

/-- Every answer that the client hands out is closed exactly once. -/
theorem closes_once {l l₁ : Link} {draft : Draft} {chunkSize : Nat} {request : Request}
    {response : Response} (hrequest : draft.toRequest l.cookies chunkSize = .ok request)
    (hsend : Step.on l (send request) = (.ok response, l₁)) :
    ClosesOnce l draft chunkSize response l₁ where
  released := execute_released hrequest hsend
  cycle := by
    rintro duty transaction now b plan b₁ rfl hprepare rfl
    exact Trigger.exchange_closes hprepare hrequest hsend

/-- A bench before a network that breaks off in the middle of a body. -/
def brokenBench : Bench where
  desk := {}
  link := {
    client := {}
    network := {
      steps := [{ answer := .ok {
        status := 200
        body := [.chunk (Bytes.ofString "ab"), .fail (.plain .read "reset")] } }] } }

/-- A duty without an item. -/
def plainDuty : Duty where
  config := { request := { url := "http://example.com/r" } }
  assembler := { config := { url := "http://example.com/r" }, basicField := none, pattern := none }

/-- A body that breaks off after two bytes is closed once like any other. -/
theorem closes_once_brokenBench :
    ∃ plan b₁ request response l₁,
      Step.on brokenBench (Trigger.prepare plainDuty "" 0) = (.ok plan, b₁) ∧
      plan.draft.toRequest brokenBench.link.cookies 8192 = .ok request ∧
      Step.on brokenBench.link (send request) = (.ok response, l₁) ∧
      ClosesOnce brokenBench.link plan.draft 8192 response l₁ := by
  have hrun : ((Step.on brokenBench (Trigger.prepare plainDuty "" 0)).1 >>= fun plan =>
      plan.draft.toRequest brokenBench.link.cookies 8192 >>= fun request =>
        (Step.on brokenBench.link (send request)).1).toOption.isSome = true := by decide +kernel
  generalize hr : (_ >>= _ : Except Fault Response) = result at hrun
  cases result with
  | error fault => cases hrun
  | ok response =>
    obtain ⟨plan, hprepare, hr⟩ := ok_of_bind hr
    obtain ⟨request, hrequest, hsend⟩ := ok_of_bind hr
    exact ⟨plan, _, request, response, _, Prod.ext hprepare rfl, hrequest, Prod.ext hsend rfl,
      closes_once hrequest (Prod.ext hsend rfl)⟩

end Link

end HttpCourier
