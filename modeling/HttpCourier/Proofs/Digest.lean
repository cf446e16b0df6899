import HttpCourier.Proofs.Sending

/-!
# Exchanges with Digest credentials

An exchange of a client with Digest credentials has one or two legs. The first request answers the
challenge that is kept for its route, if there is one (`Link.readied`); the first answer may show a
challenge (`Link.shown?`), which is kept and answered by a second request (`Link.second?`).
`Link.send_yields` says what an exchange sends and which challenges it leaves.
-/

namespace HttpCourier

open Step

/-- The state after the answer to a challenge was computed, or could not be. -/
def DigestState.spent (s : DigestState) (c : Digest.Challenge) : DigestState :=
  if (Digest.hashOf c).isOk then s.counted else s

/-- The state after a challenge was received for a route. -/
def DigestState.renewed (s : DigestState) (route : String) (c : Digest.Challenge) : DigestState :=
  ({ s.keep route c with counter := 1 } : DigestState).spent c

namespace AuthFlow

variable {who : Digest.Credentials} {s : DigestState} {c : Digest.Challenge} {request r : Request}

/-- The well-formed Digest challenge that an answer shows. -/
def challengeOf? (response : Response) : Option Digest.Challenge :=
  if response.status = unauthorized then
    (digestChallenge? response).bind fun value => (Digest.Challenge.ofField value).toOption
  else none

@[simp] theorem authorize_state : (authorize who s c request).2 = s.spent c := by
  unfold authorize Digest.authorize DigestState.spent
  cases Digest.hashOf c with
  | error e => rfl
  | ok hash => cases Digest.usesCounter c <;> rfl

/-- The challenges after an answer: the one that it shows is kept. -/
theorem resume_state (route : String) (response : Response) :
    (resume (.digest who route request) s response).2.1
      = (challengeOf? response).elim s (s.renewed route) := by
  unfold resume challengeOf?
  by_cases hs : response.status = unauthorized
  · simp only [hs, ne_eq, not_true_eq_false, if_false, if_true]
    cases digestChallenge? response with
    | none => rfl
    | some value =>
      simp only [Option.bind_some, answerDigest]
      cases Digest.Challenge.ofField value with
      | error e => rfl
      | ok c => simp [Except.toOption, DigestState.renewed]
  · simp [hs]

/-- A second request answers the challenge that was shown, with the first count. -/
theorem resume_next {route : String} {response : Response} {next : Request} {flow : AuthFlow}
    (h : (resume (.digest who route request) s response).1 = .ok (some (next, flow))) :
    flow = .finished ∧ ∃ c, challengeOf? response = some c ∧
      (authorize who { s.keep route c with counter := 1 } c request.seen).1
        >>= withCookiesOf response = .ok next := by
  unfold resume at h
  unfold challengeOf?
  by_cases hs : response.status = unauthorized
  · simp only [hs, ne_eq, not_true_eq_false, if_false, if_true] at h ⊢
    cases hv : digestChallenge? response with
    | none => simp [hv] at h
    | some value =>
      simp only [hv, answerDigest] at h
      cases hc : Digest.Challenge.ofField value with
      | error e => simp [hc, Except.map] at h
      | ok c =>
        simp only [hc] at h
        cases hr : (authorize who { s.keep route c with counter := 1 } c request.seen).1
            >>= withCookiesOf response with
        | error e => simp [hr, Except.map] at h
        | ok r =>
          simp only [hr, Except.map, Except.ok.injEq, Option.some.injEq, Prod.mk.injEq] at h
          obtain ⟨rfl, rfl⟩ := h
          exact ⟨rfl, c, by simp [hc, Except.toOption], hr⟩
  · simp [hs] at h

end AuthFlow

namespace Link

variable {who : Digest.Credentials} {l l' : Link} {request r : Request} {rs : List Request}

/-- The link with other challenges. -/
def withDigest (l : Link) (digest : DigestState) : Link :=
  { l with client := { l.client with digest } }

/-- The challenge that is kept for the route of a request. -/
def kept? (l : Link) (request : Request) : Option Digest.Challenge :=
  l.client.digest.challenges.get? request.url.route

/-- The first request as it is sent, and the link that it is sent over. -/
def readied (who : Digest.Credentials) (l : Link) (request : Request) :
    Except Fault Request × Link :=
  match l.kept? request with
  | none => (.ok request, l)
  | some c =>
    let (result, digest) := AuthFlow.authorize who l.client.digest c request
    (result, l.withDigest digest)

/-- The answer to the first request, that request, and the link afterwards. -/
def firstAnswer? (who : Digest.Credentials) (l : Link) (request : Request) :
    Option (Response × Request × Link) :=
  match readied who l request with
  | (.error _, _) => none
  | (.ok r, l) =>
    match Step.on l (follow (maxRedirects + 1) r) with
    | (.error _, _) => none
    | (.ok response, l) => some (response, r, l)

/-- The challenge that an exchange is shown. -/
def shown? (who : Digest.Credentials) (l : Link) (request : Request) : Option Digest.Challenge :=
  (firstAnswer? who l request).bind fun (response, _, _) => AuthFlow.challengeOf? response

/-- The second request of an exchange, and the link that it is sent over. -/
def second? (who : Digest.Credentials) (l : Link) (request : Request) : Option (Request × Link) :=
  (firstAnswer? who l request).bind fun (response, r, l) =>
    match Step.on l (guarding response (resume (.digest who request.url.route r) response)) with
    | (.ok (some (next, _)), l) =>
      match Step.on l (readAll response) with
      | (.ok _, l) => some (next, l)
      | (.error _, _) => none
    | _ => none

/-- The challenges when the first request was readied. -/
def digestReadied (l : Link) (request : Request) : DigestState :=
  (l.kept? request).elim l.client.digest l.client.digest.spent

/-- The challenges after an exchange. -/
def digestAfter (who : Digest.Credentials) (l : Link) (request : Request) : DigestState :=
  (shown? who l request).elim (l.digestReadied request)
    ((l.digestReadied request).renewed request.url.route)

/-- The requests that the two legs of an exchange put on the network, when no redirect is
followed. -/
def firstSent? (who : Digest.Credentials) (l : Link) (request : Request) : Option Request :=
  match readied who l request with
  | (.error _, _) => none
  | (.ok r, l) => l.outgoing? r

def secondSent? (who : Digest.Credentials) (l : Link) (request : Request) : Option Request :=
  (second? who l request).bind fun (r, l) => l.outgoing? r

/-- No redirect is followed in an exchange. -/
structure Direct (who : Digest.Credentials) (l : Link) (request : Request) : Prop where
  first : ∀ r l₁, readied who l request = (.ok r, l₁) → l₁.Unredirected r
  second : ∀ r l₁, second? who l request = some (r, l₁) → l₁.Unredirected r

/-! ## Digest states -/

/-- Other challenges take nothing back that was sent. -/
theorem Grown.withDigest (h : Grown l rs l') (digest : DigestState) :
    Grown (l.withDigest digest) rs (l'.withDigest digest) :=
  ⟨⟨h.1.1, h.1.2, rfl, h.1.4⟩, h.2⟩

/-- Other challenges send nothing. -/
theorem Sent.withDigest (h : Sent l rs l') (digest : DigestState) :
    Sent (l.withDigest digest) rs (l'.withDigest digest) :=
  ⟨⟨h.1.1, h.1.2, rfl, h.1.4⟩, h.2⟩

/-- To make a request ready changes the challenges only. -/
theorem readied_link : (readied who l request).2 = l.withDigest (l.digestReadied request) := by
  unfold readied digestReadied
  cases l.kept? request with
  | none => rfl
  | some c => simp

/-- A first request is readied unless the challenge that is kept cannot be answered. -/
theorem readied_of_kept {c : Digest.Challenge} (hk : l.kept? request = some c) :
    readied who l request = ((AuthFlow.authorize who l.client.digest c request).1,
      l.withDigest (l.client.digest.spent c)) := by
  simp [readied, hk]

theorem link_of_readied {result : Except Fault Request} {l₁ : Link}
    (h : readied who l request = (result, l₁)) : l₁ = l.withDigest (l.digestReadied request) := by
  have hl := @readied_link who l request
  rwa [h] at hl

/-- A flow that waits for a challenge keeps the one that is shown. -/
theorem resume_yields (who : Digest.Credentials) (l : Link) (r : Request) (route : String)
    (response : Response) :
    (guarding response (resume (.digest who route r) response)).Yields l
      (fun next l' => ((AuthFlow.digest who route r).resume l.client.digest response).1 = .ok next ∧
        Sent (l.withDigest ((AuthFlow.challengeOf? response).elim l.client.digest
          (l.client.digest.renewed route))) [] l')
      fun _ => Sent (l.withDigest ((AuthFlow.challengeOf? response).elim l.client.digest
        (l.client.digest.renewed route))) [] := by
  have hd := @AuthFlow.resume_state who l.client.digest r route response
  simp only [guarding, resume, yields_bind, yields_attempt, yields_get, yields_set, yields_ofExcept,
    hd]
  have hs : ∀ digest log, Sent (l.withDigest digest) []
      { l with client := { l.client with digest }, log } := fun _ _ =>
    sent_nil ⟨rfl, rfl, rfl, rfl⟩ rfl
  refine ⟨fun next hn => ⟨hn, hs _ _⟩, fun e _ => ?_⟩
  exact (quiet_settle _ _ _).mono (fun _ l' => (hs _ _).quiet) fun _ l' => (hs _ _).quiet

/-- A conversation whose flow is finished sends what its request and the redirects send. -/
theorem converse_finished (inv : Link → Prop) {left : Nat}
    (hq : ∀ {l' l''}, inv l' → Sent l' [] l'' → inv l'')
    (h : (follow left r).Yields l (fun _ => inv) fun _ => inv) :
    (converse 1 left r .finished).Yields l (fun _ => inv) fun _ => inv := by
  have hresume : ∀ response l', inv l' → (guarding response (resume .finished response)).Yields l'
      (fun next l'' => next = none ∧ inv l'') never := by
    intro response l' hl
    simp only [guarding, resume, yields_bind, yields_attempt, yields_get, yields_set]
    exact ⟨rfl, hq hl (sent_nil ⟨rfl, rfl, rfl, rfl⟩ rfl)⟩
  unfold converse
  rw [yields_bind]
  refine h.mono (fun response l' hl => ?_) fun _ _ => id
  rw [yields_bind]
  refine (hresume response l' hl).mono (fun next l'' hn => ?_) fun _ _ => False.elim
  obtain ⟨rfl, hl⟩ := hn
  exact hl

/-- What an exchange does to its link: which challenges it leaves, and what it sends. -/
structure Turn (who : Digest.Credentials) (l : Link) (request : Request) (l' : Link) : Prop where
  grown : Grown (l.withDigest (digestAfter who l request)) (firstSent? who l request).toList l'
  silent : firstSent? who l request = none → l'.requests = l.requests
  direct : Direct who l request → l'.requests
    = l.requests ++ ((firstSent? who l request).toList ++ (secondSent? who l request).toList)

/-- Credentials of the Digest scheme ready the first request. -/
theorem start_digest (hauth : l.client.authenticator = .digest who) :
    AuthFlow.start l.client.authenticator l.client.digest request
      = ((readied who l request).1.map fun r => (r, .digest who request.url.route r),
          (readied who l request).2.client.digest) := by
  rw [hauth]
  unfold AuthFlow.start readied kept?
  cases hk : l.client.digest.challenges.get? request.url.route with
  | none => simp [hk, Except.map]
  | some c => simp [hk, withDigest]

/-- An exchange whose first request could not be readied sends nothing. -/
theorem Turn.of_unready {e : Fault} {l₁ : Link} (hready : readied who l request = (.error e, l₁)) :
    Turn who l request l₁ := by
  have hlink := link_of_readied hready
  have hnone : firstAnswer? who l request = none := by rw [firstAnswer?, hready]
  have hafter : l.withDigest (digestAfter who l request) = l₁ := by
    rw [digestAfter, shown?, hnone, hlink]
    rfl
  have hfirst : firstSent? who l request = none := by rw [firstSent?, hready]
  have hsecond : secondSent? who l request = none := by rw [secondSent?, second?, hnone]; rfl
  have hrequests : l₁.requests = l.requests := by rw [hlink]; rfl
  refine ⟨?_, fun _ => hrequests, fun _ => ?_⟩
  · rw [hafter, hfirst]
    exact (sent_nil (.refl _) rfl).grown
  · rw [hfirst, hsecond, hrequests]
    simp

/-- An exchange whose first request is not answered. -/
theorem Turn.of_unanswered {e : Fault} {l₁ l₂ : Link} (hready : readied who l request = (.ok r, l₁))
    (hfollow : Step.on l₁ (follow (maxRedirects + 1) r) = (.error e, l₂)) :
    Turn who l request l₂ := by
  have hlink := link_of_readied hready
  have hnone : firstAnswer? who l request = none := by simp only [firstAnswer?, hready, hfollow]
  have hafter : l.withDigest (digestAfter who l request) = l₁ := by
    rw [digestAfter, shown?, hnone, hlink]
    rfl
  have hfirst : firstSent? who l request = l₁.outgoing? r := by rw [firstSent?, hready]
  have hsecond : secondSent? who l request = none := by rw [secondSent?, second?, hnone]; rfl
  have hrequests : l₁.requests = l.requests := by rw [hlink]; rfl
  have hf := (yields_of_error hfollow).1 (follow_yields maxRedirects r)
  refine ⟨?_, fun hn => ?_, fun hd => ?_⟩
  · rw [hafter, hfirst]
    exact hf.1
  · rw [hfirst] at hn
    rw [(hf.2 hn).2, hrequests, List.append_nil]
  · have hs := (yields_of_error hfollow).1 (follow_unredirected maxRedirects (hd.first r l₁ hready))
    rw [hs.2, hfirst, hsecond, hrequests]
    simp

/-- An exchange whose first request was answered, by what it does afterwards. -/
theorem Turn.of_answered {response : Response} {l₁ l₂ : Link}
    (hready : readied who l request = (.ok r, l₁))
    (hfollow : Step.on l₁ (follow (maxRedirects + 1) r) = (.ok response, l₂))
    (hgrown : Grown (l₂.withDigest (digestAfter who l request)) [] l')
    (hsilent : response.status = 504 → l'.requests = l₂.requests)
    (hdirect : Direct who l request →
      l'.requests = l₂.requests ++ (secondSent? who l request).toList) :
    Turn who l request l' := by
  have hlink := link_of_readied hready
  have hfirst : firstSent? who l request = l₁.outgoing? r := by rw [firstSent?, hready]
  have hrequests : l₁.requests = l.requests := by rw [hlink]; rfl
  have hf := (yields_of_ok hfollow).1 (follow_yields maxRedirects r)
  refine ⟨?_, fun hn => ?_, fun hd => ?_⟩
  · have hg := (hf.1.withDigest (digestAfter who l request)).trans hgrown
    rw [hlink] at hg
    rw [hfirst, hlink]
    exact hg
  · rw [hfirst] at hn
    obtain ⟨hstatus, hs⟩ := hf.2 hn
    rw [hsilent hstatus, hs.2, hrequests, List.append_nil]
  · have hs := (yields_of_ok hfollow).1 (follow_unredirected maxRedirects (hd.first r l₁ hready))
    rw [hdirect hd, hs.2, hfirst, hrequests, List.append_assoc]

/-- What an exchange does with its second request, however it ends. -/
theorem second_yields {response : Response} {c : Digest.Challenge} {r₂ : Request} {l₁ l₂ l₃ : Link}
    (hready : readied who l request = (.ok r, l₁))
    (hfollow : Step.on l₁ (follow (maxRedirects + 1) r) = (.ok response, l₂))
    (hc : AuthFlow.challengeOf? response = some c) (hsecond : second? who l request = some (r₂, l₃))
    (hs : Sent (l₂.withDigest (digestAfter who l request)) [] l₃) :
    (converse 1 maxRedirects r₂ .finished).Yields l₃ (fun _ => Turn who l request)
      fun _ => Turn who l request := by
  have hdirect : (follow maxRedirects r₂).Yields l₃
      (fun _ l' => Direct who l request → Sent l₃ (l₃.outgoing? r₂).toList l')
      fun _ l' => Direct who l request → Sent l₃ (l₃.outgoing? r₂).toList l' := by
    by_cases hd : Direct who l request
    · exact (follow_unredirected _ (hd.second r₂ l₃ hsecond)).mono (fun _ _ h _ => h)
        fun _ _ h _ => h
    · exact (yields_true _).mono (fun _ _ _ h => absurd h hd) fun _ _ _ h => absurd h hd
  have hgrown : (follow maxRedirects r₂).Yields l₃ (fun _ => Grown l₃ []) fun _ => Grown l₃ [] :=
    keeps_follow maxRedirects r₂ l₃ (sent_nil (.refl l₃) rfl).grown
  have hturn : ∀ l', Grown l₃ [] l' ∧
      (Direct who l request → Sent l₃ (l₃.outgoing? r₂).toList l') → Turn who l request l' := by
    intro l' ⟨hg, hd⟩
    refine .of_answered hready hfollow (hs.grown.trans hg) (fun hstatus => ?_) fun hdir => ?_
    · rw [AuthFlow.challengeOf?, hstatus] at hc
      cases hc
    · rw [(hd hdir).2, hs.2, List.append_nil, secondSent?, hsecond]
      rfl
  have hconverse := converse_finished
    (fun l' => Grown l₃ [] l' ∧ (Direct who l request → Sent l₃ (l₃.outgoing? r₂).toList l'))
    (fun h hq => ⟨h.1.trans hq.grown, fun hd => (h.2 hd).quiet hq⟩) (hgrown.and hdirect)
  exact hconverse.mono (fun _ => hturn) fun _ => hturn

/-- What an exchange with Digest credentials does, however it ends. -/
theorem send_yields (hauth : l.client.authenticator = .digest who) (hopen : l.client.closed = false)
    (request : Request) :
    (send request).Yields l (fun _ => Turn who l request) fun _ => Turn who l request := by
  have hstate : l.withDigest (readied who l request).2.client.digest
      = (readied who l request).2 := by
    rw [readied_link]
    rfl
  unfold send
  rw [yields_bind, yields_get]
  extract_lets client go
  rw [if_neg (by simp [hopen])]
  simp only [go, client, start_digest hauth, yields_bind, yields_set]
  change (Step.ofExcept _).Yields (l.withDigest _) _ _
  rw [hstate]
  rcases hready : readied who l request with ⟨e | r, l₁⟩
  · exact .of_unready hready
  rw [Except.map, yields_ok]
  dsimp only
  rw [maxChallenges, converse, yields_bind]
  rcases hfollow : Step.on l₁ (follow (maxRedirects + 1) r) with ⟨e | response, l₂⟩
  · rw [yields_of_error hfollow]
    exact .of_unanswered hready hfollow
  rw [yields_of_ok hfollow, yields_bind]
  have hanswer : firstAnswer? who l request = some (response, r, l₂) := by
    simp only [firstAnswer?, hready, hfollow]
  have hdigest : l₂.client.digest = l.digestReadied request := by
    have hf := (yields_of_ok hfollow).1 (follow_yields maxRedirects r)
    rw [hf.1.1.digest_eq, link_of_readied hready]
    rfl
  have hafter : (AuthFlow.challengeOf? response).elim l₂.client.digest
      (l₂.client.digest.renewed request.url.route) = digestAfter who l request := by
    rw [digestAfter, shown?, hanswer, hdigest]
    rfl
  have hresume := resume_yields who l₂ r request.url.route response
  rw [hafter] at hresume
  -- what is left when there is no second request
  have hend : ∀ l', second? who l request = none →
      Sent (l₂.withDigest (digestAfter who l request)) [] l' → Turn who l request l' := by
    intro l' hn hs
    have hr : l'.requests = l₂.requests := by rw [hs.2, List.append_nil]; rfl
    refine .of_answered hready hfollow hs.grown (fun _ => hr) fun _ => ?_
    rw [secondSent?, hn, hr]
    simp
  rcases hg : Step.on l₂ (guarding response (resume (.digest who request.url.route r) response))
    with ⟨e | next, l₃⟩
  · rw [yields_of_error hg] at hresume ⊢
    exact hend _ (by simp only [second?, hanswer, Option.bind_some, hg]) hresume
  rw [yields_of_ok hg] at hresume ⊢
  obtain ⟨hnext, hs⟩ := hresume
  cases next with
  | none => exact hend _ (by simp only [second?, hanswer, Option.bind_some, hg]) hs
  | some next =>
    obtain ⟨r₂, flow⟩ := next
    obtain ⟨rfl, c, hc, -⟩ := AuthFlow.resume_next hnext
    dsimp only
    rw [yields_bind]
    have hread := quiet_readAll response l₃
    rcases hr : Step.on l₃ (readAll response) with ⟨e | body, l₄⟩
    · rw [yields_of_error hr] at hread ⊢
      exact hend _ (by simp only [second?, hanswer, Option.bind_some, hg, hr]) (hs.quiet hread)
    rw [yields_of_ok hr] at hread ⊢
    have hsecond : second? who l request = some (r₂, l₄) := by
      simp only [second?, hanswer, Option.bind_some, hg, hr]
    exact second_yields hready hfollow hc hsecond (hs.quiet hread)

end Link

end HttpCourier
