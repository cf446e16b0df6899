import HttpCourier.Proofs.Answers
import HttpCourier.Proofs.Challenges
import HttpCourier.Proofs.Framing

/-!
# Sending a body again

An exchange sends a request more than once: to answer a challenge, to revalidate a stored answer,
and to follow a redirect. Each of its requests comes from the first one (`Request.Reaches`); one
lemma for each operation of the link shows it of the requests that the operation sends
(`Link.SentOnly`). So the body of a draft is sent again as it was, or not at all
(`Link.framed_of_receive`).
-/

namespace HttpCourier

open Step

/-- What the cache hands to the network for a request. -/
theorem Request.Leads.of_outgoing? {l : Link} {first q q' : Request} {turned : Bool}
    (h : first.Leads turned q) (ho : l.outgoing? q = some q') : first.Leads turned q' := by
  rcases Link.outgoing?_eq_some ho with rfl | rfl | ⟨stored, hconditional⟩
  · exact h
  · exact h.prepared
  · exact h.prepared.conditional hconditional

/-- What an answer to a request names. -/
theorem Request.Leads.asked {first q : Request} {turned : Bool} (h : first.Leads turned q)
    (l : Link) : first.Leads turned (l.asked q).seen := by
  unfold Link.asked
  split
  · exact h.prepared.seen
  · exact h.seen

/-- A request that an exchange comes to. -/
def Request.Reaches (first q : Request) : Prop := ∃ turned, first.Leads turned q

namespace AuthFlow

variable {first request q : Request} {state : DigestState}

/-- The request that a flow would send again. -/
def pending? : AuthFlow → Option Request
  | finished => none
  | digest _ _ request => some request
  | ntlmOffer request => some request
  | ntlmToken _ request => some request

/-- The exchange comes to a request, and to what its flow would send again. -/
def Readies (first : Request) (next : Request × AuthFlow) : Prop :=
  first.Reaches next.1 ∧ ∀ q, next.2.pending? = some q → first.Reaches q

/-- The first request of an exchange, and what its flow would send again. -/
theorem leads_of_start {choice : Authenticator} {next : Request × AuthFlow}
    (h : (start choice state request).1 = .ok next) :
    request.Leads false next.1 ∧ ∀ q, next.2.pending? = some q → request.Leads false q := by
  have hanswered : ∀ {q : Request} {value : String}, answered request value = .ok q →
      request.Leads false q := fun hq => .answered .refl hq
  have hown : ∀ q, withOwnCredentials request = .ok q → request.Leads false q := by
    intro q hq
    unfold withOwnCredentials at hq
    dsimp only at hq
    split at hq
    · exact Except.ok.inj hq ▸ .refl
    · exact hanswered hq
  unfold start at h
  split at h
  case h_1 | h_2 =>
    obtain ⟨q, hq, rfl⟩ := ok_of_map h
    exact ⟨hown q hq, nofun⟩
  case h_3 =>
    obtain rfl := Except.ok.inj h
    exact ⟨.refl, fun q hq => Option.some.inj hq ▸ .refl⟩
  case h_4 =>
    dsimp only at h
    split at h
    · obtain rfl := Except.ok.inj h
      exact ⟨.refl, fun q hq => Option.some.inj hq ▸ .refl⟩
    · obtain ⟨q, hq, rfl⟩ := ok_of_map h
      obtain ⟨value, hvalue⟩ := answered_of_authorize hq
      exact ⟨hanswered hvalue, fun q' hq' => Option.some.inj hq' ▸ hanswered hvalue⟩

/-- A flow begins with the request of the exchange, or with its answer to a challenge. -/
theorem readies_of_start {choice : Authenticator} {next : Request × AuthFlow}
    (h : (start choice state request).1 = .ok next) : Readies request next := by
  obtain ⟨hnext, hpending⟩ := leads_of_start h
  exact ⟨⟨false, hnext⟩, fun q hq => ⟨false, hpending q hq⟩⟩

/-- The answer to a challenge is a request that the exchange comes to. -/
theorem readies_of_resume {flow : AuthFlow} {response : Response} {next : Request × AuthFlow}
    (hflow : ∀ q, flow.pending? = some q → first.Reaches q)
    (h : (flow.resume state response).1 = .ok (some next)) : Readies first next := by
  have hanswered : ∀ {q q' : Request} {value : String}, first.Reaches q →
      answered q.seen value = .ok q' → first.Reaches q' := fun ⟨turned, hq⟩ he =>
    ⟨turned, hq.seen.answered he⟩
  cases flow with
  | finished => cases h
  | digest who route request =>
    obtain ⟨hfinished, c, -, h⟩ := resume_next h
    obtain ⟨q, hq, hcookies⟩ := ok_of_bind h
    obtain ⟨value, hvalue⟩ := answered_of_authorize hq
    obtain ⟨turned, hleads⟩ := hanswered (hflow request rfl) hvalue
    exact ⟨⟨turned, hleads.cookies hcookies⟩, by rw [hfinished]; nofun⟩
  | ntlmOffer request =>
    unfold resume at h
    dsimp only at h
    split at h
    · cases h
    split at h
    · cases h
    obtain ⟨q, hq, heq⟩ := ok_of_map h
    obtain rfl := Option.some.inj heq
    have hq := hanswered (hflow request rfl) hq
    exact ⟨hq, fun q' hq' => Option.some.inj hq' ▸ hq⟩
  | ntlmToken scheme request =>
    unfold resume at h
    dsimp only at h
    obtain ⟨token, -, h⟩ := ok_of_bind h
    split at h
    · split at h
      · cases h
      obtain ⟨message, -, h⟩ := ok_of_bind h
      obtain ⟨q, hq, h⟩ := ok_of_bind h
      obtain rfl := Option.some.inj (Except.ok.inj h)
      exact ⟨hanswered (hflow request rfl) hq, nofun⟩
    · cases h

end AuthFlow

namespace Link

variable {α : Type} {l l' l'' : Link} {first request : Request} {response : Response}
  {p : Request → Prop}

/-- The requests that reached the network in between are of a kind. -/
def SentOnly (p : Request → Prop) (l l' : Link) : Prop :=
  ∃ sent, l'.requests = l.requests ++ sent ∧ ∀ q ∈ sent, p q

theorem SentOnly.refl (l : Link) : SentOnly p l l := ⟨[], (List.append_nil _).symm, nofun⟩

/-- Requests of a kind are sent after requests of that kind. -/
theorem SentOnly.sent {rs : List Request} (h : SentOnly p l l') (hs : Sent l' rs l'')
    (hp : ∀ q ∈ rs, p q) : SentOnly p l l'' := by
  obtain ⟨sent, heq, hsent⟩ := h
  exact ⟨sent ++ rs, by rw [hs.2, heq, List.append_assoc],
    List.forall_mem_append.2 ⟨hsent, hp⟩⟩

/-- Nothing is sent when the client changes. -/
theorem SentOnly.congr (h : SentOnly p l l') (hr : l''.requests = l'.requests) :
    SentOnly p l l'' := by
  obtain ⟨sent, heq, hsent⟩ := h
  exact ⟨sent, hr.trans heq, hsent⟩

/-- Where nothing more is sent, all that was sent is still of the kind. -/
theorem SentOnly.quiet (h : SentOnly p l l') (hs : Sent l' [] l'') : SentOnly p l l'' :=
  h.sent hs nofun

/-- What sends nothing keeps to requests of a kind. -/
theorem Quiet.keeps_only {step : Step Link α} (h : Quiet step) : Keeps (SentOnly p l) step :=
  fun l' hl => (h l').mono (fun _ _ => hl.quiet) fun _ _ => hl.quiet

/-- Closing an answer after a fault sends nothing. -/
theorem guarding_only {step : Step Link α} {post : α → Link → Prop} (response : Response)
    (h : step.Yields l' post fun _ => SentOnly p l) :
    (guarding response step).Yields l' post fun _ => SentOnly p l := by
  simp only [guarding, yields_bind, yields_attempt]
  refine h.mono (fun _ _ => id) fun e l'' hl => ?_
  exact (quiet_settle _ _ l'').mono (fun _ _ => hl.quiet) fun _ _ => hl.quiet

/-! ## Runs -/

/-- One round sends a request that the exchange comes to. -/
theorem sendOne_only (h : first.Reaches request) (hl : SentOnly first.Reaches l l') :
    (sendOne request).Yields l'
      (fun response l'' => SentOnly first.Reaches l l'' ∧ first.Reaches response.request)
      fun _ => SentOnly first.Reaches l := by
  have hout : ∀ q ∈ (l'.outgoing? request).toList, first.Reaches q := by
    intro q hq
    obtain ⟨turned, h⟩ := h
    exact ⟨turned, h.of_outgoing? (Option.mem_toList.1 hq)⟩
  refine ((sendOne_yields request).and (sendOne_answered request)).mono ?_ ?_
  · rintro response l'' ⟨⟨hs, -⟩, hrequest, -⟩
    obtain ⟨turned, h⟩ := h
    exact ⟨hl.sent hs hout, turned, hrequest ▸ h.asked l'⟩
  · rintro e l'' ⟨hs, -⟩
    exact hl.sent hs hout

/-- Following redirects sends requests that the exchange comes to. -/
theorem keeps_follow_only (left : Nat) (h : first.Reaches request) :
    Keeps (SentOnly first.Reaches l) (follow left request) := by
  -- On the redirects that are left: each leads to a request that the first one reaches.
  induction left generalizing request with
  | zero => exact fun _ hl => hl
  | succ left ih =>
    intro l' hl
    unfold follow
    rw [yields_bind]
    refine (sendOne_only h hl).mono ?_ fun _ _ => id
    rintro response l₁ ⟨hl₁, turned, hresponse⟩
    cases hloc : Redirect.location? response with
    | none => exact hl₁
    | some location =>
      dsimp only
      rw [yields_bind, yields_get, yields_bind]
      have hredirect :
          (Step.ofExcept (Redirect.request l₁.cookies response location)).Yields l₁
          (fun next l'' => SentOnly first.Reaches l l'' ∧ first.Reaches next)
          fun _ => SentOnly first.Reaches l := by
        rw [yields_ofExcept]
        exact ⟨fun next hnext => ⟨hl₁, _, hresponse.redirected hloc hnext⟩, fun _ _ => hl₁⟩
      refine (guarding_only response hredirect).mono ?_ fun _ _ => id
      rintro next l₂ ⟨hl₂, hnext⟩
      split
      · exact (quiet_readAll response).keeps_only.bind (fun _ => ih hnext) l₂ hl₂
      · exact hl₂

/-- A flow that goes on after an answer sends what it had pending, or an answer to a challenge made
from it. -/
theorem resume_only {flow : AuthFlow} (response : Response)
    (hflow : ∀ q, flow.pending? = some q → first.Reaches q) (hl : SentOnly first.Reaches l l') :
    (guarding response (resume flow response)).Yields l'
      (fun next l'' => SentOnly first.Reaches l l'' ∧
        ∀ pair, next = some pair → AuthFlow.Readies first pair)
      fun _ => SentOnly first.Reaches l := by
  refine guarding_only response ?_
  simp only [resume, yields_bind, yields_get, yields_set, yields_ofExcept]
  exact ⟨fun next hnext => ⟨hl.congr rfl, fun pair hpair =>
    AuthFlow.readies_of_resume hflow (hnext.trans (congrArg Except.ok hpair))⟩,
    fun _ _ => hl.congr rfl⟩

/-- Answering challenges sends requests that the exchange comes to. -/
theorem keeps_converse_only (rounds left : Nat) {flow : AuthFlow}
    (h : AuthFlow.Readies first (request, flow)) :
    Keeps (SentOnly first.Reaches l) (converse rounds left request flow) := by
  induction rounds generalizing left request flow with
  | zero => exact keeps_follow_only left h.1
  | succ rounds ih =>
    intro l' hl
    unfold converse
    rw [yields_bind]
    refine (keeps_follow_only left h.1 l' hl).mono (fun response l₁ hl₁ => ?_) fun _ _ => id
    rw [yields_bind]
    refine (resume_only response h.2 hl₁).mono ?_ fun _ _ => id
    rintro next l₂ ⟨hl₂, hnext⟩
    cases next with
    | none => exact hl₂
    | some pair =>
      exact (quiet_readAll response).keeps_only.bind
        (fun _ => ih (left - 1) (hnext pair rfl)) l₂ hl₂

/-- An exchange sends requests that it comes to from its first one. -/
theorem send_only (request : Request) :
    (send request).Yields l (fun _ => SentOnly request.Reaches l)
      fun _ => SentOnly request.Reaches l := by
  have hl : SentOnly request.Reaches l l := .refl l
  unfold send
  simp only [yields_bind, yields_get]
  split
  · exact hl
  · simp only [yields_bind, yields_set, yields_ofExcept]
    refine ⟨fun next hnext => ?_, fun _ _ => hl.congr rfl⟩
    have hready := AuthFlow.readies_of_start hnext
    exact keeps_converse_only maxChallenges (maxRedirects + 1) hready _ (hl.congr rfl)

/-- An exchange for a draft sends requests that it comes to from the first request of the draft. -/
theorem receive_only (draft : Draft) (chunkSize : Nat) :
    ∃ sent, (Step.on l (receive draft chunkSize)).2.requests = l.requests ++ sent ∧
      ∀ q ∈ sent, ∃ first,
        draft.toRequest l.cookies chunkSize = .ok first ∧ first.Reaches q := by
  cases hr : draft.toRequest l.cookies chunkSize with
  | error e =>
    refine ⟨[], ?_, nofun⟩
    have hfault : (receive draft chunkSize).Yields l (fun _ l' => l' = l) fun _ l' => l' = l := by
      unfold receive
      rw [yields_bind, yields_get, yields_bind, hr, yields_error]
    rw [hfault.on, List.append_nil]
  | ok first =>
    obtain ⟨sent, heq, hsent⟩ := (send_only (l := l) first).on
    exact ⟨sent, (requests_receive hr).trans heq, fun q hq => ⟨first, rfl, hsent q hq⟩⟩

/-- A request that an exchange for an assembled draft puts on the network carries the body of the
draft and says once where it ends, or a redirect turned it into a GET, which has no body and says
nothing of one. -/
theorem framed_of_receive {a : Assembler} {item : Option WorkItem} {now : Int} {draft : Draft}
    {log : List Log.Record} (h : a.assemble item now = .ok (draft, log))
    (hframing : draft.LeavesFraming) (chunkSize : Nat) (l : Link) :
    ∃ sent, (Step.on l (receive draft chunkSize)).2.requests = l.requests ++ sent ∧
      ∀ q ∈ sent, q.Frames draft.body ∨
        (q.method = "GET" ∧ q.Frames none ∧
          ∃ first, draft.toRequest l.cookies chunkSize = .ok first ∧ first.Leads true q) := by
  obtain ⟨sent, heq, hsent⟩ := receive_only (l := l) draft chunkSize
  refine ⟨sent, heq, fun q hq => ?_⟩
  obtain ⟨first, hfirst, turned, hleads⟩ := hsent q hq
  have hframes : first.Frames draft.body :=
    Draft.frames_of_toRequest hframing (Assembler.bodyFits_of_assemble h) hfirst
  cases turned with
  | false => exact .inl (hframes.of_same (hleads.framing.1 rfl))
  | true =>
    obtain ⟨hget, hnone⟩ := hleads.framing.2 rfl
    exact .inr ⟨hget, hnone, first, hfirst, hleads⟩

/-- An assembler that sends payloads with PUT and in chunks. -/
def chunkingAssembler : Assembler where
  config := {
    method := "PUT", url := "http://example.com/a", chunked := true, dateField := false }
  basicField := none
  pattern := none

/-- An item with three bytes. -/
def smallItem : WorkItem := { id := "item-1", content := Bytes.ofString "abc" }

/-- The draft for the item. -/
def chunkedDraft : Draft where
  method := "PUT"
  url := "http://example.com/a"
  body := some {
    contentType := some "application/octet-stream", content := smallItem.content, chunked := true }

theorem assemble_smallItem :
    chunkingAssembler.assemble (some smallItem) 0 = .ok (chunkedDraft, []) := by
  have hmethod : chunkingAssembler.method (some smallItem) = chunkedDraft.method := by
    decide +kernel
  have hurl : chunkingAssembler.url (some smallItem) = chunkedDraft.url := by decide +kernel
  have hbody : some (chunkingAssembler.body (some smallItem)) = chunkedDraft.body := by
    decide +kernel
  unfold Assembler.assemble
  rw [hmethod, hurl, hbody]
  rfl

/-- A link that follows redirects, before a server whose first redirect keeps the method and whose
second one does not. -/
def redirectingLink : Link where
  client := { followsRedirects := true }
  network := {
    steps := [
      { answer := .ok {
          status := 307, fields := [(Bytes.ofString "Location", Bytes.ofString "/b")] } },
      { answer := .ok {
          status := 303, fields := [(Bytes.ofString "Location", Bytes.ofString "/c")] } },
      { answer := .ok { status := 200 } }] }

/-- The chunks are sent again after the first redirect, and a GET after the second. -/
theorem framed_of_receive_redirected :
    chunkedDraft.LeavesFraming ∧
      ∃ sent, (Step.on redirectingLink (receive chunkedDraft 2)).2.requests = sent ∧
        sent.map (fun q => (q.method, q.body.pieces))
          = [("PUT", [Bytes.ofString "ab", Bytes.ofString "c"]),
            ("PUT", [Bytes.ofString "ab", Bytes.ofString "c"]), ("GET", [[]])] ∧
        ∀ q ∈ sent, q.Frames chunkedDraft.body ∨
          (q.method = "GET" ∧ q.Frames none ∧ ∃ first,
            chunkedDraft.toRequest redirectingLink.cookies 2 = .ok first ∧
              first.Leads true q) := by
  have hframing : chunkedDraft.LeavesFraming := by
    unfold Draft.LeavesFraming
    decide +kernel
  obtain ⟨sent, hsent, hall⟩ := framed_of_receive assemble_smallItem hframing 2 redirectingLink
  have hsent : (Step.on redirectingLink (receive chunkedDraft 2)).2.requests = sent := hsent
  have hpieces : (Step.on redirectingLink (receive chunkedDraft 2)).2.requests.map
      (fun q => (q.method, q.body.pieces))
      = [("PUT", [Bytes.ofString "ab", Bytes.ofString "c"]),
        ("PUT", [Bytes.ofString "ab", Bytes.ofString "c"]), ("GET", [[]])] := by
    decide +kernel
  exact ⟨hframing, sent, hsent, hsent ▸ hpieces, hall⟩

end Link

end HttpCourier
