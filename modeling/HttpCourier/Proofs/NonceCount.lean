import HttpCourier.Proofs.Challenges
import HttpCourier.Proofs.Legs
import Mathlib.Data.Prod.Basic

/-!
# Nonce counts

In a history of exchanges the counts that are sent are the places of the answers after the last
challenge on any route (`Link.History.pairs_eq`). So a nonce is used twice with one count exactly
when two of its answers have the same place (`Link.History.pairs_nodup_iff`), which two routes are
enough for (`Link.count_reused_after_other_route`).
-/

namespace HttpCourier.Link

open Step

section
variable {who : Digest.Credentials} {past : List (Link × Request)} {l : Link} {request : Request}

/-- The counter of the client is the place of its next answer. -/
theorem History.counter_eq (h : History who past l)
    (hc : ∀ p ∈ past, ∀ c, shown? who p.1 p.2 = some c → c.Counted) :
    l.client.digest.counter = nextPlace 1 (past.flatMap (legsOf who)) := by
  -- On the history: an exchange moves the counter past the answers of its own legs.
  induction h with
  | new hauth hdigest hopen =>
    rw [hdigest]
    rfl
  | @exchange past l request h ih =>
    obtain ⟨hc, hlast⟩ := List.forall_mem_append.1 hc
    have hk : ∀ c, l.kept? request = some c → c.Counted := by
      intro c hk
      obtain ⟨p, hp, -, hs⟩ := h.shown_of_kept hk
      exact hc p hp c hs
    rw [h.digest_exchange, counter_digestAfter hk (hlast (l, request) (List.mem_singleton_self _)),
      ih hc, List.flatMap_append, nextPlace_append, List.flatMap_singleton]
  | @settle past l response wire h ih =>
    rw [digest_settle]
    exact ih hc

/-- The counts in a history are the places of the answers after the last challenge. -/
theorem History.pairs_eq (h : History who past l)
    (hc : ∀ p ∈ past, ∀ c, shown? who p.1 p.2 = some c → c.Counted) :
    pairs (past.flatMap (legsOf who))
      = (places 1 (past.flatMap (legsOf who))).map (Prod.map id Digest.counterText) := by
  induction h with
  | new => rfl
  | @exchange past l request h ih =>
    obtain ⟨hc, -⟩ := List.forall_mem_append.1 hc
    rw [List.flatMap_append, List.flatMap_singleton, places_append, List.map_append, pairs,
      List.filterMap_append]
    change pairs _ ++ pairs _ = _
    rw [ih hc, pairs_legsOf, h.counter_eq hc]
  | settle response wire h ih => exact ih hc

/-- The requests of a history are those of its legs, when no redirect is followed. -/
theorem History.requests_eq (h : History who past l) (hd : ∀ p ∈ past, Direct who p.1 p.2) :
    ∃ before, l.requests = before ++ (past.flatMap (legsOf who)).filterMap Leg.sent := by
  induction h with
  | @new l hauth hdigest hopen => exact ⟨l.requests, (List.append_nil _).symm⟩
  | @exchange past l request h ih =>
    obtain ⟨hd, hlast⟩ := List.forall_mem_append.1 hd
    obtain ⟨before, hb⟩ := ih hd
    refine ⟨before, ?_⟩
    rw [(h.turn request).direct (hlast (l, request) (List.mem_singleton_self _)), hb,
      List.flatMap_append, List.flatMap_singleton, List.filterMap_append, sent_legsOf,
      List.append_assoc]
  | @settle past l response wire h ih =>
    rw [(quiet_settle response wire l).on.2, List.append_nil]
    exact ih hd

/-- With one route the challenge that is kept is the last one that was shown. -/
theorem History.get?_of_route (h : History who past l) {route : String}
    (hr : ∀ p ∈ past, p.2.url.route = route) :
    l.client.digest.challenges.get? route
      = (past.filterMap fun p => shown? who p.1 p.2).getLast? := by
  induction h with
  | new hauth hdigest hopen =>
    rw [hdigest]
    rfl
  | @exchange past l request h ih =>
    obtain ⟨hr, hlast⟩ := List.forall_mem_append.1 hr
    have hroute : request.url.route = route := hlast (l, request) (List.mem_singleton_self _)
    rw [h.digest_exchange, get?_digestAfter, if_pos hroute, kept?, hroute, ih hr,
      List.filterMap_append, List.getLast?_append, List.filterMap_cons]
    cases shown? who l request <;> rfl
  | @settle past l response wire h ih =>
    rw [digest_settle]
    exact ih hr

/-- On one route every challenge that is kept is the last one that was shown. -/
theorem History.chained (h : History who past l) {route : String}
    (hr : ∀ p ∈ past, p.2.url.route = route) : Chained none (past.flatMap (legsOf who)) := by
  induction h with
  | new => trivial
  | @exchange past l request h ih =>
    obtain ⟨hr, hlast⟩ := List.forall_mem_append.1 hr
    have hroute : request.url.route = route := hlast (l, request) (List.mem_singleton_self _)
    rw [List.flatMap_append, List.flatMap_singleton, chained_append, shown?_legsOf,
      ← h.get?_of_route hr, Option.or_none]
    refine ⟨ih hr, fun _ => ?_, ?_⟩
    · rw [kept?, hroute]
    · cases shown? who l request with
      | none => trivial
      | some c =>
        refine ⟨fun hn => ?_, trivial⟩
        cases hn
  | settle response wire h ih => exact ih hr

/-- Each exchange of a history has its own history. -/
theorem History.earlier (h : History who past l) {p : Link × Request} (hp : p ∈ past) :
    ∃ earlier, History who earlier p.1 ∧ earlier ⊆ past := by
  induction h with
  | new => cases hp
  | @exchange past l request h ih =>
    rcases List.mem_append.1 hp with hp | hp
    · obtain ⟨earlier, hearlier, hsub⟩ := ih hp
      exact ⟨earlier, hearlier, List.Subset.trans hsub (List.subset_append_left _ _)⟩
    · obtain rfl := List.mem_singleton.1 hp
      exact ⟨past, h, List.subset_append_left _ _⟩
  | settle response wire h ih => exact ih hp

/-- What a client sends are the answers to its challenges with its counts, when these have
counters. -/
theorem History.faithful (h : History who past l)
    (hc : ∀ p ∈ past, ∀ c, shown? who p.1 p.2 = some c → c.Counted) {p : Link × Request}
    (hp : p ∈ past) {leg : Leg} (hleg : leg ∈ legsOf who p) : leg.Faithful who p.2 := by
  refine faithful_of_mem_legsOf hleg (fun c hk => ?_) (hc p hp)
  obtain ⟨earlier, hearlier, hsub⟩ := h.earlier hp
  obtain ⟨p', hp', -, hs⟩ := hearlier.shown_of_kept hk
  exact hc p' (hsub hp') c hs

/-- A pair that is sent twice is in the answers of two requests. -/
theorem History.replay_of_not_nodup (h : History who past l) (hd : ∀ p ∈ past, Direct who p.1 p.2)
    (hc : ∀ p ∈ past, ∀ c, shown? who p.1 p.2 = some c → c.Counted)
    (hdup : ¬ (pairs (past.flatMap (legsOf who))).Nodup) :
    ∃ q q' c c' n, [q, q'].Sublist l.requests ∧ q.Carries who c n ∧ q'.Carries who c' n ∧
      c.nonce = c'.nonce := by
  obtain ⟨before, hb⟩ := h.requests_eq hd
  obtain ⟨leg, leg', pair, htwo, hp, hp'⟩ := exists_legs_of_not_nodup hdup
  obtain ⟨q, c, hq, hchallenge, hpair⟩ := Leg.sent_of_pair? hp
  obtain ⟨q', c', hq', hchallenge', hpair'⟩ := Leg.sent_of_pair? hp'
  obtain ⟨hnonce, hcount⟩ := Prod.mk.inj (hpair.trans hpair'.symm)
  have hsent : [q, q'].Sublist l.requests := by
    have hs := htwo.filterMap Leg.sent
    rw [List.filterMap_cons_some hq, List.filterMap_cons_some hq'] at hs
    rw [hb]
    exact hs.trans (List.sublist_append_right _ _)
  have hcarries : ∀ {leg q c}, leg ∈ past.flatMap (legsOf who) → leg.sent = some q →
      leg.challenge = some c → q.Carries who c leg.count := by
    intro leg q c hleg hq hchallenge
    obtain ⟨p, hp, hleg⟩ := List.mem_flatMap.1 hleg
    have hf := h.faithful hc hp hleg q hq
    rwa [hchallenge] at hf
  refine ⟨q, q', c, c', leg.count, hsent, hcarries (htwo.subset List.mem_cons_self) hq hchallenge,
    ?_, hnonce⟩
  rw [Digest.counterText_injective hcount]
  exact hcarries (htwo.subset (List.mem_cons_of_mem _ List.mem_cons_self)) hq' hchallenge'

/-- When a nonce is used twice with one count. The requests that reached the network are those of
the legs, and each leg sends the answer to its challenge with its count. No nonce has two requests
with one count exactly when no nonce has two with one place after the last challenge on any route;
with fresh nonces this is so when there is one route only. -/
theorem History.pairs_nodup_iff (h : History who past l) (hd : ∀ p ∈ past, Direct who p.1 p.2)
    (hc : ∀ p ∈ past, ∀ c, shown? who p.1 p.2 = some c → c.Counted) :
    (∃ before, l.requests = before ++ (past.flatMap (legsOf who)).filterMap Leg.sent) ∧
      (∀ p ∈ past, ∀ leg ∈ legsOf who p, leg.Faithful who p.2) ∧
      ((pairs (past.flatMap (legsOf who))).Nodup ↔ (places 1 (past.flatMap (legsOf who))).Nodup) ∧
      (((past.filterMap fun p => shown? who p.1 p.2).map (·.nonce)).Nodup →
        (∃ route, ∀ p ∈ past, p.2.url.route = route) →
          (pairs (past.flatMap (legsOf who))).Nodup) := by
  have hiff : (pairs (past.flatMap (legsOf who))).Nodup
      ↔ (places 1 (past.flatMap (legsOf who))).Nodup := by
    rw [h.pairs_eq hc]
    exact List.nodup_map_iff (Function.injective_id.prodMap Digest.counterText_injective)
  refine ⟨h.requests_eq hd, fun p hp leg hleg => ?_, hiff, fun hfresh hr => ?_⟩
  · exact h.faithful hc hp hleg
  · obtain ⟨route, hr⟩ := hr
    rw [← shown?_legsOf] at hfresh
    exact hiff.2 ((h.chained hr).nodup_places hfresh)

/-! ## A client of two routes -/

/-- The exchanges of requests that are sent one after the other. -/
def exchanges (l : Link) : List Request → List (Link × Request)
  | [] => []
  | request :: requests => (l, request) :: exchanges (Step.on l (send request)).2 requests

/-- The link after requests were sent. -/
def after (l : Link) (requests : List Request) : Link :=
  requests.foldl (fun l request => (Step.on l (send request)).2) l

/-- A history goes on with requests that are sent one after the other. -/
theorem History.exchanges (h : History who past l) (requests : List Request) :
    History who (past ++ l.exchanges requests) (l.after requests) := by
  induction requests generalizing past l with
  | nil =>
    rw [Link.exchanges, List.append_nil]
    exact h
  | cons request requests ih =>
    have hnext := ih (h.exchange request)
    rwa [List.append_assoc] at hnext

/-- Without redirects every exchange ends at the address that it began with. -/
theorem History.direct_exchanges (h : History who past l) (hf : l.client.followsRedirects = false)
    (requests : List Request) : ∀ p ∈ l.exchanges requests, Direct who p.1 p.2 := by
  induction requests generalizing past l with
  | nil =>
    intro p hp
    cases hp
  | cons request requests ih =>
    have hnext : (Step.on l (send request)).2.client.followsRedirects = false :=
      (h.turn request).grown.1.followsRedirects_eq.trans hf
    intro p hp
    rcases List.mem_cons.1 hp with rfl | hp
    · exact direct_of_followsRedirects hf
    · exact ih (h.exchange request) hnext p hp

end

/-- The challenge of a server that offers authentication with a counter. -/
def countedChallenge (nonce : String) : Digest.Challenge :=
  { realm := "r", nonce, qop := some "auth" }

/-- The answer with the challenge. -/
def countedReply (nonce : String) : Reply :=
  { status := 401
    fields := [(Bytes.ofString "WWW-Authenticate",
      Bytes.ofString ("Digest realm=\"r\", nonce=\"" ++ nonce ++ "\", qop=\"auth\""))] }

/-- A new client with Digest credentials, before two servers that challenge once each. -/
def sharedLink : Link where
  client := { authenticator := .digest ⟨"user", "pass"⟩ }
  network := { steps := [countedReply "n1", { status := 200 }, { status := 200 }, countedReply "n2",
    { status := 200 }, { status := 200 }].map fun reply => { answer := .ok reply } }

/-- A request for another route. -/
def otherRequest : Request :=
  (({ plainDraft with url := "http://example.org/a" } : Draft).toRequest {} 8192).toOption.getD
    plainRequest

/-- Two requests for one route, one for another, and one more for the first. -/
def sharedPast : List (Link × Request) :=
  sharedLink.exchanges [plainRequest, plainRequest, otherRequest, plainRequest]

/-- The link after the requests. -/
def sharedAfter : Link := sharedLink.after [plainRequest, plainRequest, otherRequest, plainRequest]

theorem history_sharedAfter : History ⟨"user", "pass"⟩ sharedPast sharedAfter := by
  have hnew : History ⟨"user", "pass"⟩ [] sharedLink := .new rfl rfl rfl
  have hrun := hnew.exchanges [plainRequest, plainRequest, otherRequest, plainRequest]
  rwa [List.nil_append] at hrun

theorem direct_sharedPast : ∀ p ∈ sharedPast, Direct ⟨"user", "pass"⟩ p.1 p.2 := by
  have hnew : History ⟨"user", "pass"⟩ [] sharedLink := .new rfl rfl rfl
  exact hnew.direct_exchanges rfl [plainRequest, plainRequest, otherRequest, plainRequest]

/-- The challenges of the run, and the counts that are sent. -/
theorem pairs_sharedPast :
    (sharedPast.filterMap fun p => shown? ⟨"user", "pass"⟩ p.1 p.2,
      pairs (sharedPast.flatMap (legsOf ⟨"user", "pass"⟩)))
    = ([countedChallenge "n1", countedChallenge "n2"], [("n1", "00000001"), ("n1", "00000002"),
        ("n2", "00000001"), ("n1", "00000002")]) := by
  decide +kernel

/-- Each of the two servers challenges once. -/
theorem shown?_sharedPast : (sharedPast.filterMap fun p => shown? ⟨"user", "pass"⟩ p.1 p.2)
    = [countedChallenge "n1", countedChallenge "n2"] := congrArg Prod.fst pairs_sharedPast

theorem hashOf_countedChallenge (nonce : String) :
    Digest.hashOf (countedChallenge nonce) = .ok Hash.Md5.hash := by
  have hname : Text.upper "MD5" = "MD5" := by decide +kernel
  rw [Digest.hashOf, countedChallenge, hname]
  rfl

theorem counted_countedChallenge (nonce : String) : (countedChallenge nonce).Counted :=
  ⟨⟨Hash.Md5.hash, hashOf_countedChallenge nonce⟩, rfl⟩

/-- Both challenges are answered with a counter. -/
theorem counted_sharedPast : ∀ p ∈ sharedPast, ∀ c,
    shown? ⟨"user", "pass"⟩ p.1 p.2 = some c → c.Counted := by
  intro p hp c hs
  have hmem : c ∈ sharedPast.filterMap fun p => shown? ⟨"user", "pass"⟩ p.1 p.2 :=
    List.mem_filterMap.2 ⟨p, hp, hs⟩
  rw [shown?_sharedPast] at hmem
  rcases List.mem_cons.1 hmem with rfl | hmem
  · exact counted_countedChallenge "n1"
  · obtain rfl := List.mem_singleton.1 hmem
    exact counted_countedChallenge "n2"

/-- Three requests to one server with another between them: the counter that starts again is seen in
the places. -/
theorem pairs_nodup_iff_sharedPast :
    (∃ before, sharedAfter.requests
        = before ++ (sharedPast.flatMap (legsOf ⟨"user", "pass"⟩)).filterMap Leg.sent) ∧
      (∀ p ∈ sharedPast, ∀ leg ∈ legsOf ⟨"user", "pass"⟩ p, leg.Faithful ⟨"user", "pass"⟩ p.2) ∧
      ((pairs (sharedPast.flatMap (legsOf ⟨"user", "pass"⟩))).Nodup
        ↔ (places 1 (sharedPast.flatMap (legsOf ⟨"user", "pass"⟩))).Nodup) ∧
      (((sharedPast.filterMap fun p => shown? ⟨"user", "pass"⟩ p.1 p.2).map (·.nonce)).Nodup →
        (∃ route, ∀ p ∈ sharedPast, p.2.url.route = route) →
          (pairs (sharedPast.flatMap (legsOf ⟨"user", "pass"⟩))).Nodup) :=
  history_sharedAfter.pairs_nodup_iff direct_sharedPast counted_sharedPast

/-- A challenge on another route makes the client use a count of the first route again. -/
theorem count_reused_after_other_route :
    ∃ past l, History ⟨"user", "pass"⟩ past l ∧ (∀ p ∈ past, Direct ⟨"user", "pass"⟩ p.1 p.2) ∧
      (∀ p ∈ past, ∀ c, shown? ⟨"user", "pass"⟩ p.1 p.2 = some c → c.Counted) ∧
      ((past.filterMap fun p => shown? ⟨"user", "pass"⟩ p.1 p.2).map (·.nonce)).Nodup ∧
      ∃ q q' c c' n, [q, q'].Sublist l.requests ∧ q.Carries ⟨"user", "pass"⟩ c n ∧
        q'.Carries ⟨"user", "pass"⟩ c' n ∧ c.nonce = c'.nonce := by
  have hfresh : ((sharedPast.filterMap fun p => shown? ⟨"user", "pass"⟩ p.1 p.2).map
      (·.nonce)).Nodup := by
    rw [shown?_sharedPast]
    decide
  have hdup : ¬ (pairs (sharedPast.flatMap (legsOf ⟨"user", "pass"⟩))).Nodup := by
    rw [show pairs _ = _ from congrArg Prod.snd pairs_sharedPast]
    decide
  exact ⟨sharedPast, sharedAfter, history_sharedAfter, direct_sharedPast, counted_sharedPast,
    hfresh, history_sharedAfter.replay_of_not_nodup direct_sharedPast counted_sharedPast hdup⟩

end HttpCourier.Link
