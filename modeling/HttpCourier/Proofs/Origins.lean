import HttpCourier.Proofs.Answers
import HttpCourier.Proofs.NonceCount

/-!
# Where challenges come from

A challenge is kept for the route of the request that set out, while the answer that shows it may
come from the end of a chain of redirects (`Link.trail`). `Link.issuer?` is the route of the address
that showed it. So the challenges that are held for a route were issued by that route exactly when
the exchanges that brought them ended where they began, and likewise for the challenges that are
answered (`Link.History.origins`); one redirect to another origin is enough for a challenge of the
one to be answered to the other (`Link.answered_to_other_origin`).
-/

namespace HttpCourier.Link

open Step

/-! ## The way of a request -/

/-- The next request of a chain of redirects, and the link that it is sent over. -/
def hop? (l : Link) (request : Request) : Option (Request × Link) :=
  match Step.on l (sendOne request) with
  | (.error _, _) => none
  | (.ok response, l) =>
    match Redirect.location? response with
    | none => none
    | some location =>
      match Step.on l (guarding response
        (Step.ofExcept (Redirect.request l.cookies response location))) with
      | (.error _, _) => none
      | (.ok next, read) =>
        if l.client.followsRedirects then
          match Step.on read (readAll response) with
          | (.error _, _) => none
          | (.ok _, l) => some (next, l)
        else none

/-- The addresses of a request and of the redirects that are followed for it. -/
def way : (left : Nat) → Link → Request → List Url
  | 0, _, _ => []
  | left + 1, l, request =>
    request.url :: (hop? l request).elim [] fun (next, l) => way left l next

section
variable {l l' : Link} {request next : Request} {response : Response}

/-- The last answer comes from the end of the way. -/
theorem follow_url (left : Nat) (request : Request) :
    (follow left request).Yields l
      (fun response _ => (way left l request).getLast? = some response.request.url)
      fun _ _ => True := by
  induction left generalizing l request with
  | zero => trivial
  | succ left ih =>
    have hlast : ∀ {response : Response}, hop? l request = none → response.request.url = request.url →
        (way (left + 1) l request).getLast? = some response.request.url := by
      intro response hn hurl
      rw [way, hn, hurl]
      rfl
    unfold follow
    rw [yields_bind]
    rcases hs : Step.on l (sendOne request) with ⟨e | response, l₁⟩
    · rw [yields_of_error hs]
      trivial
    have hurl : response.request.url = request.url :=
      (congrArg Request.url ((yields_of_ok hs).1 (sendOne_answered request)).1).trans
        (url_asked l request)
    rw [yields_of_ok hs]
    cases hloc : Redirect.location? response with
    | none => exact hlast (by simp only [hop?, hs, hloc]) hurl
    | some location =>
      dsimp only
      rw [yields_bind, yields_get, yields_bind]
      rcases hg : Step.on l₁ (guarding response
        (Step.ofExcept (Redirect.request l₁.cookies response location))) with ⟨e | next, l₂⟩
      · rw [yields_of_error hg]
        trivial
      rw [yields_of_ok hg]
      split
      case isTrue hf =>
        rw [yields_bind]
        rcases hr : Step.on l₂ (readAll response) with ⟨e | body, l₃⟩
        · rw [yields_of_error hr]
          trivial
        rw [yields_of_ok hr]
        have hhop : hop? l request = some (next, l₃) := by
          simp only [hop?, hs, hloc, hg, hr, if_pos hf]
        refine (ih next).mono (fun last l' h => ?_) fun _ _ => id
        rw [way, hhop, Option.elim_some, List.getLast?_cons, h]
        rfl
      case isFalse hf =>
        refine hlast ?_ hurl
        simp only [hop?, hs, hloc, hg, if_neg hf]

end

/-! ## Who issued a challenge -/

/-- The way to the first answer of an exchange. -/
def trail (who : Digest.Credentials) (p : Link × Request) : List Url :=
  match readied who p.1 p.2 with
  | (.error _, _) => []
  | (.ok r, l) => way (maxRedirects + 1) l r

/-- The route of the address that showed an exchange its challenge. -/
def issuer? (who : Digest.Credentials) (p : Link × Request) : Option String :=
  (firstAnswer? who p.1 p.2).bind fun (response, _, _) =>
    (AuthFlow.challengeOf? response).map fun _ => response.request.url.route

/-- The first answer of an exchange comes from an address with the route of its request. -/
def EndsHome (who : Digest.Credentials) (p : Link × Request) : Prop :=
  ∀ url, (trail who p).getLast? = some url → url.route = p.2.url.route

/-- The exchange that brought the challenge of a route: the last one for it that was shown one. -/
def bringer? (who : Digest.Credentials) (past : List (Link × Request)) (route : String) :
    Option (Link × Request) :=
  (past.filter fun p => decide (p.2.url.route = route) && (shown? who p.1 p.2).isSome).getLast?

/-- The exchange that brought the challenge which a leg of another exchange answers. -/
def Leg.source? (who : Digest.Credentials) (past : List (Link × Request)) (p : Link × Request)
    (leg : Leg) : Option (Link × Request) :=
  if leg.renewed then some p else bringer? who past p.2.url.route

section
variable {who : Digest.Credentials} {past : List (Link × Request)} {l : Link} {request r : Request}
  {p : Link × Request} {route : String}

/-- The answer to a challenge is written into a request for the same address. -/
theorem url_of_readied {l₁ : Link} (h : readied who l request = (.ok r, l₁)) :
    r.url = request.url := by
  unfold readied at h
  split at h
  · obtain ⟨rfl, -⟩ := by simpa using h
    rfl
  · rename_i c hk
    have hr : (AuthFlow.authorize who l.client.digest c request).1 = .ok r := congrArg Prod.fst h
    obtain ⟨value, hanswered⟩ := AuthFlow.answered_of_authorize hr
    obtain ⟨-, -, -, rfl⟩ := AuthFlow.answered_eq_ok hanswered
    rfl

/-- The way of an exchange begins at the address of its request. -/
theorem head?_trail (h : trail who p ≠ []) : (trail who p).head? = some p.2.url := by
  unfold trail at h ⊢
  split at h
  · exact absurd rfl h
  · rename_i hready
    exact congrArg some (url_of_readied hready)

/-- A challenge was issued at the end of the way. -/
theorem issuer?_eq (who : Digest.Credentials) (p : Link × Request) :
    issuer? who p
      = (shown? who p.1 p.2).bind fun _ => (trail who p).getLast?.map Url.route := by
  rcases hready : readied who p.1 p.2 with ⟨e | r, l₁⟩
  · simp only [issuer?, shown?, firstAnswer?, hready, Option.bind_none]
  rcases hfollow : Step.on l₁ (follow (maxRedirects + 1) r) with ⟨e | response, l₂⟩
  · simp only [issuer?, shown?, firstAnswer?, hready, hfollow, Option.bind_none]
  have hlast := (yields_of_ok hfollow).1 (follow_url (maxRedirects + 1) r)
  simp only [issuer?, shown?, firstAnswer?, trail, hready, hfollow, Option.bind_some, hlast,
    Option.map_some]
  cases AuthFlow.challengeOf? response <;> rfl

/-- An exchange that was shown a challenge went some way. -/
theorem exists_getLast?_trail (h : (shown? who p.1 p.2).isSome) :
    ∃ url, (trail who p).getLast? = some url := by
  rcases hready : readied who p.1 p.2 with ⟨e | r, l₁⟩
  · simp only [shown?, firstAnswer?, hready, Option.bind_none, Option.isSome_none] at h
    cases h
  · simp only [trail, hready, way, List.getLast?_cons]
    exact ⟨_, rfl⟩

/-- A challenge was issued by the route of the request exactly when the exchange ended there. -/
theorem issuer?_eq_route_iff (h : (shown? who p.1 p.2).isSome) :
    issuer? who p = some p.2.url.route ↔ EndsHome who p := by
  obtain ⟨c, hc⟩ := Option.isSome_iff_exists.1 h
  obtain ⟨url, hurl⟩ := exists_getLast?_trail h
  rw [issuer?_eq, hc, EndsHome, hurl]
  simp

/-- Without redirects every exchange ends where it began. -/
theorem endsHome_of_followsRedirects (h : p.1.client.followsRedirects = false) :
    EndsHome who p := by
  intro url hurl
  rcases hready : readied who p.1 p.2 with ⟨e | r, l₁⟩
  · simp only [trail, hready] at hurl
    cases hurl
  have hf : l₁.client.followsRedirects = false := by
    rw [link_of_readied hready]
    exact h
  have hhop : hop? l₁ r = none := by
    unfold hop?
    split
    · rfl
    · rename_i response l₂ hs
      have hsame := (yields_of_ok hs).1 (sendOne_yields r)
      split
      · rfl
      · split
        · rfl
        · rw [if_neg (by rw [hsame.1.1.followsRedirects_eq, hf]; exact Bool.false_ne_true)]
  simp only [trail, hready, way, hhop, Option.elim_none, List.getLast?_singleton,
    Option.some.injEq] at hurl
  rw [← hurl, url_of_readied hready]

/-! ## Histories -/

/-- The exchange that brought a challenge was for the route, and was shown one. -/
theorem bringer?_eq_some (h : bringer? who past route = some p) :
    p ∈ past ∧ p.2.url.route = route ∧ (shown? who p.1 p.2).isSome := by
  have hmem := List.mem_filter.1 (List.mem_of_getLast? h)
  simpa using hmem

/-- The challenge that is held for a route is the one that its bringer was shown. -/
theorem History.held_eq (h : History who past l) (route : String) :
    l.client.digest.challenges.get? route
      = (bringer? who past route).bind fun p => shown? who p.1 p.2 := by
  induction h with
  | new hauth hdigest hopen =>
    rw [hdigest]
    rfl
  | @exchange past l request h ih =>
    rw [h.digest_exchange, get?_digestAfter, bringer?, List.filter_append, List.getLast?_append]
    change _ = ((_ : Option (Link × Request)).or (bringer? who past route)).bind _
    split
    case isTrue hr =>
      subst hr
      cases hs : shown? who l request with
      | none => simp [hs, kept?, ih]
      | some c => simp [hs]
    case isFalse hr => simp [hr, ih]
  | @settle past l response wire h ih =>
    rw [digest_settle]
    exact ih

/-- Each exchange of a history has the exchanges before it as its history. -/
theorem History.before (h : History who past l) {before after : List (Link × Request)}
    (hp : past = before ++ p :: after) : History who before p.1 := by
  induction h generalizing after with
  | new => simp at hp
  | @exchange past l request h ih =>
    rcases List.eq_nil_or_concat after with rfl | ⟨after, last, rfl⟩
    · obtain ⟨rfl, hlast⟩ := List.append_inj' hp rfl
      obtain rfl := List.singleton_inj.1 hlast
      exact h
    · rw [List.concat_eq_append, ← List.cons_append, ← List.append_assoc] at hp
      exact ih (List.append_inj' hp rfl).1
  | settle response wire h ih => exact ih hp

/-- A leg answers the challenge that its source was shown. -/
theorem History.source_shown (h : History who past l) {before after : List (Link × Request)}
    (hp : past = before ++ p :: after) {leg : Leg} (hleg : leg ∈ legsOf who p) :
    leg.challenge = (leg.source? who before p).bind fun q => shown? who q.1 q.2 := by
  rcases List.mem_cons.1 hleg with rfl | hleg
  · exact (h.before hp).held_eq p.2.url.route
  · obtain ⟨c, hc, rfl⟩ := Option.map_eq_some_iff.1 (Option.mem_toList.1 hleg)
    exact hc.symm

/-- Every challenge that a leg answers was issued by the route of its request. -/
def AnswersHome (who : Digest.Credentials) (past : List (Link × Request)) : Prop :=
  ∀ before p after, past = before ++ p :: after → ∀ leg ∈ legsOf who p, ∀ source,
    leg.source? who before p = some source → issuer? who source = some p.2.url.route

/-- All answers go home when every exchange that was shown a challenge ends where it began. -/
theorem answersHome_iff (past : List (Link × Request)) :
    AnswersHome who past ↔ ∀ p ∈ past, (shown? who p.1 p.2).isSome → EndsHome who p := by
  constructor
  · intro h p hp hs
    obtain ⟨before, after, rfl⟩ := List.append_of_mem hp
    obtain ⟨c, hc⟩ := Option.isSome_iff_exists.1 hs
    -- the challenge that is shown is answered by the second leg
    refine (issuer?_eq_route_iff hs).1 (h before p after rfl
      { challenge := some c, renewed := true, count := 1, sent := secondSent? who p.1 p.2 } ?_ p rfl)
    rw [legsOf, hc]
    exact List.mem_cons_of_mem _ (List.mem_singleton_self _)
  · rintro h before p after rfl leg hleg source hsource
    have hp : p ∈ before ++ p :: after := List.mem_append_right _ List.mem_cons_self
    rcases List.mem_cons.1 hleg with rfl | hleg
    · obtain ⟨hmem, hroute, hs⟩ := bringer?_eq_some hsource
      rw [← hroute]
      exact (issuer?_eq_route_iff hs).2 (h source (List.mem_append_left _ hmem) hs)
    · obtain ⟨c, hc, rfl⟩ := Option.map_eq_some_iff.1 (Option.mem_toList.1 hleg)
      obtain rfl := Option.some.inj hsource
      have hs : (shown? who p.1 p.2).isSome := by rw [hc]; rfl
      exact (issuer?_eq_route_iff hs).2 (h p hp hs)

/-- Where the challenges of a history come from. -/
structure Origins (who : Digest.Credentials) (past : List (Link × Request)) (l : Link) : Prop where
  /-- What is held for a route is what the last exchange for it that was shown a challenge was
  shown. -/
  held_eq : ∀ route, l.client.digest.challenges.get? route
    = (bringer? who past route).bind fun p => shown? who p.1 p.2
  /-- What a leg answers is what its source was shown. -/
  answered_eq : ∀ before p after, past = before ++ p :: after → ∀ leg ∈ legsOf who p,
    leg.challenge = (leg.source? who before p).bind fun q => shown? who q.1 q.2
  /-- A challenge was issued at the end of a way that began at the address of the request. -/
  issued : ∀ p ∈ past, (shown? who p.1 p.2).isSome → (trail who p).head? = some p.2.url ∧
    ∃ url, (trail who p).getLast? = some url ∧ issuer? who p = some url.route
  held_home_iff : (∀ route p, bringer? who past route = some p → issuer? who p = some route) ↔
    ∀ route p, bringer? who past route = some p → EndsHome who p
  answers_home_iff : AnswersHome who past ↔
    ∀ p ∈ past, (shown? who p.1 p.2).isSome → EndsHome who p
  direct : ∀ p, p.1.client.followsRedirects = false → EndsHome who p

/-- When challenges stay with their origin. A challenge that is held for a route, or answered by a
leg, is that of a certain exchange for the route, and was issued at the end of its way; so it was
issued by that route exactly when the way ended on the route, as it does when no redirect is
followed. -/
theorem History.origins (h : History who past l) : Origins who past l where
  held_eq := h.held_eq
  answered_eq _ _ _ hp _ hleg := h.source_shown hp hleg
  issued := by
    intro p _ hs
    obtain ⟨c, hc⟩ := Option.isSome_iff_exists.1 hs
    obtain ⟨url, hurl⟩ := exists_getLast?_trail hs
    refine ⟨head?_trail fun hn => ?_, url, hurl, ?_⟩
    · rw [hn] at hurl
      cases hurl
    · rw [issuer?_eq, hc, hurl]
      rfl
  held_home_iff := by
    refine forall_congr' fun route => forall_congr' fun p => ?_
    refine imp_congr_right fun hb => ?_
    obtain ⟨-, rfl, hs⟩ := bringer?_eq_some hb
    exact issuer?_eq_route_iff hs
  answers_home_iff := answersHome_iff past
  direct _ hf := endsHome_of_followsRedirects hf

end

/-! ## A redirect to another origin -/

/-- A new client with Digest credentials that follows redirects, before a server that redirects to
another origin, which challenges. -/
def strayLink : Link where
  client := { authenticator := .digest ⟨"user", "pass"⟩, followsRedirects := true }
  network := {
    steps := [
      { status := 302
        fields := [(Bytes.ofString "Location", Bytes.ofString "http://example.org/b")] },
      countedReply "n", { status := 200 }].map fun reply => { answer := .ok reply } }

/-- The link after one request. -/
def strayAfter : Link := (Step.on strayLink (send plainRequest)).2

theorem history_strayAfter : History ⟨"user", "pass"⟩ [(strayLink, plainRequest)] strayAfter :=
  .exchange plainRequest (.new rfl rfl rfl)

/-- A redirect to another server, and the challenge there. -/
theorem origins_strayAfter : Origins ⟨"user", "pass"⟩ [(strayLink, plainRequest)] strayAfter :=
  history_strayAfter.origins

/-- A challenge can be held for a route that never issued one, and answered to it: here it was
issued by the origin to which the request was redirected. -/
theorem answered_to_other_origin :
    ∃ past l c q, History ⟨"user", "pass"⟩ past l ∧
      l.client.digest.challenges.get? "http://example.com:80" = some c ∧
      (∀ p ∈ past, issuer? ⟨"user", "pass"⟩ p = some "http://example.org:80") ∧
      q ∈ l.requests ∧ q.url.route = "http://example.com:80" ∧
      q.Carries ⟨"user", "pass"⟩ c 1 := by
  have hissuer : issuer? ⟨"user", "pass"⟩ (strayLink, plainRequest) = some "http://example.org:80" := by
    decide +kernel
  have hheld : strayAfter.client.digest.challenges.get? "http://example.com:80"
      = some (countedChallenge "n") := by decide +kernel
  have hroutes : strayAfter.requests.map (fun q => (q.url.route, q.fields.valuesOf "Authorization"))
      = [("http://example.com:80", []), ("http://example.org:80", []), ("http://example.com:80",
        [Bytes.ofString (Digest.answer ⟨"user", "pass"⟩ (countedChallenge "n") Hash.Md5.hash true 1 0
          "GET" "/a")])] := by decide +kernel
  have hthird := congrArg (fun sent => sent[2]?) hroutes
  obtain ⟨q, hq, hsent⟩ := List.mem_map.1 (List.mem_of_getElem? hthird)
  obtain ⟨hroute, hvalue⟩ := Prod.mk.inj hsent
  refine ⟨_, strayAfter, countedChallenge "n", q, history_strayAfter, hheld, ?_, hq, hroute, ?_⟩
  · intro p hp
    rwa [List.mem_singleton.1 hp]
  · exact ⟨Hash.Md5.hash, rfl, .utf8, 0, "GET", "/a", _, rfl, hvalue⟩

end HttpCourier.Link
