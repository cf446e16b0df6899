import HttpCourier.Proofs.Resending

/-!
# The first request of an exchange

`Link.opening?` is the request that an exchange hands to the network first, if it hands it any
(`opens_send`). It has the method and the body of the draft that the exchange is for, and whatever
the exchange hands to the network later has the same body or none. So the network gets the payload
of a draft as soon as it gets a request (`exists_conveys_iff`).
-/

namespace HttpCourier

open Step Text

/-- Before it was challenged a flow has nothing to do with an answer that is no challenge. -/
theorem AuthFlow.resume_unchallenged {choice : Authenticator} {state state' : DigestState}
    {request : Request} {next : Request × AuthFlow} {response : Response}
    (h : (start choice state request).1 = .ok next) (hs : response.status ≠ unauthorized) :
    next.2.resume state' response = (.ok none, state', []) := by
  unfold start at h
  split at h
  case h_1 | h_2 =>
    obtain ⟨q, -, rfl⟩ := ok_of_map h
    rfl
  case h_3 =>
    obtain rfl := Except.ok.inj h
    exact if_pos hs
  case h_4 =>
    dsimp only at h
    split at h
    · obtain rfl := Except.ok.inj h
      exact if_pos hs
    · obtain ⟨q, -, rfl⟩ := ok_of_map h
      exact if_pos hs

namespace Link

variable {l l' : Link} {first request q : Request}

/-- The first request that an exchange hands to the network, if it hands it one. -/
def opening? (l : Link) (request : Request) : Option Request :=
  if l.client.closed then none
  else (AuthFlow.start l.client.authenticator l.client.digest request).1.toOption.bind fun next =>
    l.outgoing? next.1

/-- The network got this request first, or none at all. -/
def Opens (l : Link) (opening : Option Request) (l' : Link) : Prop :=
  l.requests ++ opening.toList <+: l'.requests ∧ (opening = none → l'.requests = l.requests)

/-- Where nothing was sent the requests on the network are the same. -/
theorem Sent.requests_eq (h : Sent l [] l') : l'.requests = l.requests := by
  rw [h.2, List.append_nil]

/-- An exchange that sends nothing opens with nothing. -/
theorem Opens.of_requests (h : l'.requests = l.requests ++ []) : Opens l none l' :=
  ⟨h ▸ List.prefix_refl _, fun _ => h.trans (List.append_nil _)⟩

/-- What an exchange hands to the network first is what its first round does. -/
theorem opens_converse (rounds left : Nat) {flow : AuthFlow}
    (h : AuthFlow.Readies first (request, flow))
    (hflow : ∀ state (response : Response), response.status = 504 →
      flow.resume state response = (.ok none, state, [])) :
    (converse (rounds + 1) (left + 1) request flow).Yields l
      (fun _ => Opens l (l.outgoing? request)) fun _ => Opens l (l.outgoing? request) := by
  unfold converse
  rw [yields_bind]
  refine (follow_yields left request).mono ?_ fun _ l' hf => ⟨hf.1.2, fun hn => (hf.2 hn).requests_eq⟩
  rintro response l₁ ⟨hg, hnone⟩
  cases hout : l.outgoing? request with
  | none =>
    obtain ⟨hstatus, hsent⟩ := hnone hout
    have hopens : Opens l none l₁ := ⟨hout ▸ hg.2, fun _ => hsent.requests_eq⟩
    simp only [guarding, resume, yields_bind, yields_get, yields_set, yields_attempt,
      hflow l₁.client.digest response hstatus, yields_ok, yields_pure]
    exact hopens
  | some out =>
    have hlater : ∀ l', SentOnly first.Reaches l₁ l' → Opens l (some out) l' := by
      rintro l' ⟨sent, heq, -⟩
      exact ⟨heq ▸ (hout ▸ hg.2).trans (List.prefix_append _ _),
        fun hn => absurd hn (Option.some_ne_none out)⟩
    rw [yields_bind]
    refine (resume_only response h.2 (.refl l₁)).mono ?_ fun _ => hlater
    rintro next l₂ ⟨hl₂, hnext⟩
    cases next with
    | none => exact hlater l₂ hl₂
    | some pair =>
      exact ((quiet_readAll response).keeps_only.bind
        (fun _ => keeps_converse_only rounds left (hnext pair rfl)) l₂ hl₂).mono (fun _ => hlater)
        fun _ => hlater

/-- An exchange hands its opening to the network first, and nothing if there is none. -/
theorem opens_send (request : Request) :
    Opens l (l.opening? request) (Step.on l (send request)).2 := by
  have hstays : ∀ l', l'.requests = l.requests → Opens l none l' := fun l' h =>
    .of_requests (h.trans (List.append_nil _).symm)
  have h : (send request).Yields l (fun _ => Opens l (l.opening? request))
      fun _ => Opens l (l.opening? request) := by
    unfold send opening?
    rw [yields_bind, yields_get]
    by_cases hclosed : l.client.closed = true
    · rw [if_pos hclosed, if_pos hclosed]
      exact hstays l rfl
    rw [if_neg hclosed, if_neg hclosed]
    simp only [yields_bind, yields_set, yields_ofExcept]
    refine ⟨fun next hnext => ?_, fun fault hf => ?_⟩
    · rw [hnext]
      exact opens_converse _ _ (AuthFlow.readies_of_start hnext) fun state response hs =>
        AuthFlow.resume_unchallenged hnext (by rw [hs]; decide)
    · rw [hf]
      exact hstays _ rfl
  exact h.on

/-- The opening of an exchange has the method and the body of its request. -/
theorem sameFraming_opening (h : l.opening? request = some q) : request.SameFraming q := by
  unfold opening? at h
  split at h
  case isTrue => cases h
  case isFalse =>
    obtain ⟨next, hnext, hout⟩ := Option.bind_eq_some_iff.1 h
    have hstart := toOption_eq_some_iff.1 hnext
    exact ((AuthFlow.leads_of_start hstart).1.of_outgoing? hout).framing.1 rfl

/-- The first request that an exchange for a draft hands to the network, if it hands it one. -/
def openingOf? (l : Link) (draft : Draft) (chunkSize : Nat) : Option Request :=
  (draft.toRequest l.cookies chunkSize).toOption.bind l.opening?

/-- The first request of an exchange is the opening of its draft, if it has one. -/
theorem opens_receive (l : Link) (draft : Draft) (chunkSize : Nat) :
    Opens l (l.openingOf? draft chunkSize) (Step.on l (receive draft chunkSize)).2 := by
  unfold openingOf?
  cases hr : draft.toRequest l.cookies chunkSize with
  | error fault =>
    obtain ⟨sent, heq, hsent⟩ := receive_only (l := l) draft chunkSize
    obtain rfl : sent = [] := by
      refine List.eq_nil_iff_forall_not_mem.2 fun q hq => ?_
      obtain ⟨first, hfirst, -⟩ := hsent q hq
      cases hr.symm.trans hfirst
    exact .of_requests heq
  | ok request =>
    have hopens := opens_send (l := l) request
    rwa [Opens, ← requests_receive hr] at hopens

end Link

/-! ## Payloads -/

/-- A request conveys a payload as its body. -/
def Request.Conveys (content : Bytes) (q : Request) : Prop :=
  Assembler.hasBody q.method = true ∧ q.body.content = content

/-- What a request conveys is a matter of its framing. -/
theorem Request.SameFraming.conveys_iff {q q' : Request} {content : Bytes} (h : q.SameFraming q') :
    q'.Conveys content ↔ q.Conveys content := by
  rw [Conveys, Conveys, h.method_eq, h.content_eq]

/-- The request of a draft has its method in capitals, and its body. -/
theorem Draft.content_of_toRequest {d : Draft} {jar : CookieJar} {chunkSize : Nat} {q : Request}
    (h : d.toRequest jar chunkSize = .ok q) :
    q.method = upper d.method ∧ q.body.content = d.body.elim [] (·.content) := by
  obtain ⟨url, -, h⟩ := ok_of_bind h
  obtain ⟨given, -, h⟩ := ok_of_bind h
  obtain ⟨fields, -, h⟩ := ok_of_bind h
  obtain rfl := Except.ok.inj h
  refine ⟨rfl, ?_⟩
  change (d.sentBody chunkSize).content = _
  unfold sentBody
  cases d.body with
  | none => rfl
  | some body =>
    dsimp only
    split <;> rfl

/-- The draft for an item has a body exactly when the method of its request has one. -/
theorem Assembler.body_of_assemble {a : Assembler} {item : Option WorkItem} {now : Int} {d : Draft}
    {log : List Log.Record} (h : a.assemble item now = .ok (d, log)) :
    d.body = if hasBody (upper d.method) then some (a.body item) else none := by
  have hfits := bodyFits_of_assemble h
  have hupper : ∀ method ∈ bodyMethods, upper method = method := by decide +kernel
  obtain ⟨date, -, rfl⟩ := assemble_eq_ok h
  unfold Draft.BodyFits at hfits
  dsimp only at hfits ⊢
  -- the method stays a variable here: comparing it would unfold the case tables
  generalize a.method item = method at hfits ⊢
  by_cases hb : hasBody method = true
  · rw [hupper method (List.contains_iff_mem.1 hb)]
  · rw [if_neg hb] at hfits ⊢
    have hnone : hasBody (upper method) = false := hfits rfl
    rw [hnone, if_neg Bool.false_ne_true]

namespace Link

variable {l : Link} {a : Assembler} {item : Option WorkItem} {now : Int} {draft : Draft}
  {log : List Log.Record} {sent : List Request}

/-- The network gets a payload exactly when it gets a request and the payload is the body of the
draft. -/
theorem exists_conveys_iff (h : a.assemble item now = .ok (draft, log)) {chunkSize : Nat}
    (hsent : (Step.on l (receive draft chunkSize)).2.requests = l.requests ++ sent)
    (content : Bytes) :
    (∃ q ∈ sent, q.Conveys content) ↔
      (∃ body, draft.body = some body ∧ body.content = content) ∧
        (l.openingOf? draft chunkSize).isSome = true := by
  obtain ⟨hfirstSent, hnone⟩ := opens_receive l draft chunkSize
  have hfirst : ∀ {first}, draft.toRequest l.cookies chunkSize = .ok first →
      (first.Conveys content ↔ ∃ body, draft.body = some body ∧ body.content = content) := by
    intro first hfirst
    obtain ⟨hmethod, hcontent⟩ := Draft.content_of_toRequest hfirst
    have hbody := Assembler.body_of_assemble h
    rw [Request.Conveys, hmethod, hcontent, hbody]
    by_cases hb : Assembler.hasBody (upper draft.method) = true
    · simp [hb]
    · simp [hb]
  constructor
  · rintro ⟨q, hq, hconveys⟩
    obtain ⟨sent', heq, hreaches⟩ := receive_only (l := l) draft chunkSize
    obtain rfl : sent = sent' := List.append_cancel_left (hsent.symm.trans heq)
    obtain ⟨first, hrequest, turned, hleads⟩ := hreaches q hq
    refine ⟨(hfirst hrequest).1 ?_, ?_⟩
    · cases turned with
      | false => exact (hleads.framing.1 rfl).conveys_iff.1 hconveys
      | true =>
        rw [Request.Conveys, (hleads.framing.2 rfl).1] at hconveys
        exact absurd hconveys.1 (by decide)
    · refine Option.isSome_iff_ne_none.2 fun hopening => ?_
      have hnil : sent = [] := List.append_cancel_left
        (hsent.symm.trans ((hnone hopening).trans (List.append_nil _).symm))
      rw [hnil] at hq
      cases hq
  · rintro ⟨hbody, hopening⟩
    obtain ⟨q, hq⟩ := Option.isSome_iff_exists.1 hopening
    rw [hq, hsent, List.prefix_append_right_inj] at hfirstSent
    refine ⟨q, hfirstSent.subset (List.mem_singleton_self q), ?_⟩
    obtain ⟨first, hrequest, hopening⟩ := Option.bind_eq_some_iff.1 hq
    exact (sameFraming_opening hopening).conveys_iff.2
      ((hfirst (toOption_eq_some_iff.1 hrequest)).2 hbody)

end Link

end HttpCourier
