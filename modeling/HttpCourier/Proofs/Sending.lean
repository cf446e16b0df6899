import HttpCourier.Client.Basic
import HttpCourier.Proofs.Step

/-!
# What an exchange sends

`Link.Sent` compares two states of a link: the client has the same settings and challenges, and
certain requests reached the network in between. Most operations are quiet (`Quiet`); the request
that `sendOne` puts on the network is `Link.outgoing?`, which is missing only when the cache cannot
make a plan or refuses. `Link.follow` may send more when it is redirected (`Grown`).
-/

namespace HttpCourier

/-- The request that the cache hands to the network for a request, if it does. -/
def Cache.outgoing? (cache : Cache) (request : Request) : Option Request :=
  match cache.plan request with
  | .ok .fetch => some request
  | .ok (.revalidate conditional _) => some conditional
  | .ok .refuse | .error _ => none

namespace Link

open Step

variable {α β : Type} {l l' l'' : Link} {rs rs' : List Request}

/-- The requests that reached the network, in order. -/
def requests (l : Link) : List Request := l.network.exchanges.map (·.request)

/-- The request that reaches the network first for a request, if one does. -/
def outgoing? (l : Link) (request : Request) : Option Request :=
  match l.client.cache with
  | none => some request
  | some cache => cache.outgoing? (Cache.prepared request)

/-- The settings of the client and its challenges are as they were. -/
structure Same (l l' : Link) : Prop where
  authenticator_eq : l'.client.authenticator = l.client.authenticator
  followsRedirects_eq : l'.client.followsRedirects = l.client.followsRedirects
  digest_eq : l'.client.digest = l.client.digest
  closed_eq : l'.client.closed = l.client.closed

theorem Same.refl (l : Link) : Same l l := ⟨rfl, rfl, rfl, rfl⟩

/-- Settings that stay the same twice stay the same. -/
theorem Same.trans (h : Same l l') (h' : Same l' l'') : Same l l'' :=
  ⟨h'.1.trans h.1, h'.2.trans h.2, h'.3.trans h.3, h'.4.trans h.4⟩

/-- Exactly these requests reached the network in between. -/
def Sent (l : Link) (rs : List Request) (l' : Link) : Prop :=
  Same l l' ∧ l'.requests = l.requests ++ rs

/-- At least these requests reached the network in between. -/
def Grown (l : Link) (rs : List Request) (l' : Link) : Prop :=
  Same l l' ∧ l.requests ++ rs <+: l'.requests

/-- What was sent in two parts was sent in order. -/
theorem Sent.trans (h : Sent l rs l') (h' : Sent l' rs' l'') : Sent l (rs ++ rs') l'' :=
  ⟨h.1.trans h'.1, by rw [h'.2, h.2, List.append_assoc]⟩

/-- A part that sends nothing adds nothing to what was sent. -/
theorem Sent.quiet (h : Sent l rs l') (h' : Sent l' [] l'') : Sent l rs l'' := by
  have := h.trans h'
  rwa [List.append_nil] at this

/-- Who sent exactly some requests sent at least them. -/
theorem Sent.grown (h : Sent l rs l') : Grown l rs l' :=
  ⟨h.1, h.2 ▸ List.prefix_refl _⟩

/-- What was sent in a first part still counts after a second. -/
theorem Grown.trans (h : Grown l rs l') (h' : Grown l' rs' l'') : Grown l rs l'' :=
  ⟨h.1.trans h'.1, h.2.trans ((List.prefix_append _ _).trans h'.2)⟩

/-! ## Operations that send nothing -/

/-- However the operation ends, nothing was sent. -/
def Quiet (step : Step Link α) : Prop :=
  ∀ l, step.Yields l (fun _ => Sent l []) fun _ => Sent l []

/-- Nothing was sent when the requests on the network are the same. -/
theorem sent_nil (hs : Same l l') (hr : l'.requests = l.requests) : Sent l [] l' :=
  ⟨hs, by rw [hr, List.append_nil]⟩

/-- What does nothing sends nothing. -/
theorem Quiet.pure (a : α) : Quiet (pure a : Step Link α) := fun l => sent_nil (.refl l) rfl

/-- A fault sends nothing. -/
theorem Quiet.throw (e : Fault) : Quiet (throw e : Step Link α) := fun l => sent_nil (.refl l) rfl

/-- A computation without a state sends nothing. -/
theorem Quiet.ofExcept (result : Except Fault α) : Quiet (Step.ofExcept result) := by
  intro l
  rw [yields_ofExcept]
  exact ⟨fun _ _ => sent_nil (.refl l) rfl, fun _ _ => sent_nil (.refl l) rfl⟩

/-- What a quiet operation adds to the requests that were sent before. -/
theorem Sent.bind {step : Step Link α} {next : α → Step Link β}
    (h : step.Yields l (fun _ => Sent l rs) fun _ => Sent l rs) (hn : ∀ a, Quiet (next a)) :
    (step >>= next).Yields l (fun _ => Sent l rs) fun _ => Sent l rs := by
  rw [yields_bind]
  refine h.mono (fun a l' hl => ?_) fun _ _ => id
  exact (hn a l').mono (fun _ _ => hl.quiet) fun _ _ => hl.quiet

/-- Two parts that send nothing send nothing together. -/
theorem Quiet.bind {step : Step Link α} {next : α → Step Link β} (h : Quiet step)
    (hn : ∀ a, Quiet (next a)) : Quiet (step >>= next) := fun l => Sent.bind (h l) hn

/-- What depends on the link sends nothing when it does not for any link. -/
theorem Quiet.get_bind {next : Link → Step Link α} (hn : ∀ l, Quiet (next l)) :
    Quiet (get >>= next) := fun l => hn l l

/-- To write a log sends nothing. -/
theorem quiet_note (records : List Log.Record) : Quiet (note records) := fun _ =>
  sent_nil ⟨rfl, rfl, rfl, rfl⟩ rfl

/-- To change the cache sends nothing. -/
theorem quiet_setCache (cache : Cache) : Quiet (setCache cache) := fun _ =>
  sent_nil ⟨rfl, rfl, rfl, rfl⟩ rfl

/-- What becomes of the body of the last answer is no request. -/
theorem requests_settle (n : Network) (wire : Wire) :
    (n.settle wire).exchanges.map (·.request) = n.exchanges.map (·.request) := by
  rcases List.eq_nil_or_concat n.exchanges with he | ⟨es, e, he⟩
  · simp [Network.settle, he]
  · simp [Network.settle, he]

/-- To record what became of a body sends nothing. -/
theorem quiet_settle (response : Response) (wire : Wire) : Quiet (settle response wire) := by
  intro l
  unfold settle
  split
  · exact sent_nil ⟨rfl, rfl, rfl, rfl⟩ (requests_settle l.network wire)
  · exact sent_nil (.refl l) rfl

/-- To read a whole body sends nothing. -/
theorem quiet_readAll (response : Response) : Quiet (readAll response) :=
  (quiet_settle _ _).bind fun _ => .ofExcept _

/-- Closing an answer after a fault adds nothing to what was sent. -/
theorem Quiet.guarding {step : Step Link α} (h : Quiet step) (response : Response) :
    Quiet (guarding response step) := by
  intro l
  simp only [Link.guarding, yields_bind, yields_attempt]
  refine (h l).mono (fun _ _ => id) fun e l' hl => ?_
  exact (quiet_settle _ _ l').mono (fun _ _ => hl.quiet) fun _ _ => hl.quiet

/-- To keep an answer in the cache sends nothing. -/
theorem quiet_keep (key : CacheKey) (request : Request) (response : Response) (body : Bytes) :
    Quiet (keep key request response body) := by
  refine .get_bind fun l => ?_
  split
  · exact .pure _
  · exact (Quiet.ofExcept _).bind fun _ => (quiet_setCache _).bind fun _ => quiet_note _

/-- To count an answer for the cache sends nothing. -/
theorem quiet_countAnswer (response : Response) : Quiet (countAnswer response) := by
  refine .get_bind fun l => ?_
  split
  · exact .pure _
  · refine (quiet_setCache _).bind fun _ => ?_
    split
    · exact quiet_note _
    · exact .pure _

/-- What sends nothing takes nothing back that was sent. -/
theorem Quiet.keeps_grown {step : Step Link α} (h : Quiet step) : Keeps (Grown l rs) step :=
  fun l' hl => (h l').mono (fun _ _ hq => hl.trans hq.grown) fun _ _ hq => hl.trans hq.grown

/-! ## Operations that send -/

/-- Asking the network sends the request. -/
theorem ask_yields (request : Request) :
    (ask request).Yields l (fun _ => Sent l [request]) fun _ => Sent l [request] := by
  have hn : (l.network.send request).2.exchanges.map (·.request)
      = l.network.exchanges.map (·.request) ++ [request] := by
    simp only [Network.send]
    split <;> simp
  have hs : Sent l [request] { l with network := (l.network.send request).2 } :=
    ⟨⟨rfl, rfl, rfl, rfl⟩, hn⟩
  simp only [ask, yields_bind, yields_get, yields_set, yields_ofExcept]
  exact ⟨fun _ _ => hs, fun _ _ => hs⟩

/-- A page that is fetched takes one request, which is the one asked for. -/
theorem fetch_yields (cache : Cache) (request : Request) :
    (fetch cache request).Yields l (fun _ => Sent l [request]) fun _ => Sent l [request] := by
  have hask : (setCache { cache with
      statistics := { cache.statistics with network := cache.statistics.network + 1 } } >>= fun _ =>
        ask request).Yields l (fun _ => Sent l [request]) fun _ => Sent l [request] := by
    have hq : ∀ cache, Sent l [] { l with client := { l.client with cache } } := fun _ =>
      sent_nil ⟨rfl, rfl, rfl, rfl⟩ rfl
    rw [yields_bind, setCache, yields_modify]
    exact (ask_yields request).mono (fun _ _ => (hq _).trans) fun _ _ => (hq _).trans
  unfold fetch
  rw [← bind_assoc]
  refine Sent.bind hask fun response => ?_
  exact (quiet_settle _ _).bind fun _ => (Quiet.ofExcept _).bind fun _ => .pure _

/-- A page that is confirmed takes one request, which is the conditional one, also when the site
sends another page. -/
theorem revalidate_yields (cache : Cache) (request conditional : Request)
    (stored : StoredResponse) :
    (revalidate cache request conditional stored).Yields l (fun _ => Sent l [conditional])
      fun _ => Sent l [conditional] := by
  refine Sent.bind (fetch_yields cache conditional) fun ⟨response, body⟩ => ?_
  dsimp only
  split
  · refine .get_bind fun l => ?_
    split
    · exact (quiet_setCache _).bind fun _ => .pure _
    · exact .pure _
  · exact (quiet_keep _ _ _ _).bind fun _ => .pure _

/-- The cache sends the request that it hands out, and answers in the network's place only to
refuse. -/
theorem throughCache_yields (cache : Cache) (request : Request) :
    (throughCache cache request).Yields l
      (fun response l' => Sent l (cache.outgoing? request).toList l' ∧
        (cache.outgoing? request = none → response.status = 504))
      fun _ => Sent l (cache.outgoing? request).toList := by
  unfold throughCache Cache.outgoing?
  rw [yields_bind]
  cases cache.plan request with
  | error e =>
    rw [yields_error]
    exact sent_nil (.refl l) rfl
  | ok plan =>
    rw [yields_ok]
    cases plan with
    | refuse => exact ⟨sent_nil (.refl l) rfl, fun _ => rfl⟩
    | fetch =>
      refine (Sent.bind (fetch_yields cache request) fun ⟨response, body⟩ => ?_).mono
        (fun _ _ h => ⟨h, nofun⟩) fun _ _ => id
      exact (quiet_keep _ _ _ _).bind fun _ => .pure _
    | revalidate conditional stored =>
      exact (revalidate_yields cache request conditional stored).mono (fun _ _ h => ⟨h, nofun⟩)
        fun _ _ => id

/-- At most one request is sent for a request, the one that the cache hands on; what it refuses to
hand on is answered with status 504. -/
theorem transmit_yields (request : Request) :
    (transmit request).Yields l
      (fun response l' => Sent l (l.outgoing? request).toList l' ∧
        (l.outgoing? request = none → response.status = 504))
      fun _ => Sent l (l.outgoing? request).toList := by
  unfold transmit outgoing?
  rw [yields_bind, yields_get]
  cases l.client.cache with
  | none => exact (ask_yields request).mono (fun _ _ h => ⟨h, nofun⟩) fun _ _ => id
  | some cache =>
    simp only [yields_bind]
    refine (throughCache_yields cache (Cache.prepared request)).mono (fun response l' h => ?_)
      fun _ _ => id
    exact (quiet_countAnswer response l').mono (fun _ _ hq => ⟨h.1.quiet hq, h.2⟩)
      fun _ _ => h.1.quiet

/-- One round sends the outgoing request, and nothing else. -/
theorem sendOne_yields (request : Request) :
    (sendOne request).Yields l
      (fun response l' => Sent l (l.outgoing? request).toList l' ∧
        (l.outgoing? request = none → response.status = 504))
      fun _ => Sent l (l.outgoing? request).toList := by
  unfold sendOne
  rw [yields_bind]
  refine (transmit_yields request).mono (fun response l' h => ?_) fun _ _ => id
  extract_lets seen finish
  split
  · exact h.1
  · simp only [finish, yields_bind, yields_get, yields_set]
    have hq : Sent l' [] { l' with client := { l'.client with
        jar := l'.cookies.addAll seen.url response.fields } } :=
      sent_nil ⟨rfl, rfl, rfl, rfl⟩ rfl
    exact ⟨h.1.quiet hq, h.2⟩

/-! ## Redirects -/

/-- A request is answered without a redirect that is followed. -/
def Unredirected (l : Link) (request : Request) : Prop :=
  l.client.followsRedirects = false ∨
    ∀ response, (Step.on l (sendOne request)).1 = .ok response → Redirect.location? response = none

/-- What follows an answer: the next request, if it is redirected and redirects are followed. -/
theorem keeps_redirected {left : Nat} (ih : ∀ request, Keeps (Grown l rs) (follow left request))
    (response : Response) :
    Keeps (Grown l rs) (match Redirect.location? response with
      | none => pure response
      | some location => do
        let l ← get
        let next ← guarding response
          (Step.ofExcept (Redirect.request l.cookies response location))
        if l.client.followsRedirects then
          let _ ← readAll response
          follow left next
        else return response) := by
  split
  · exact .pure _
  · refine .get_bind fun l' => ?_
    refine ((Quiet.ofExcept _).guarding response).keeps_grown.bind fun next => ?_
    split
    · exact (quiet_readAll response).keeps_grown.bind fun _ => ih next
    · exact .pure _

/-- Following redirects only adds to what was sent. -/
theorem keeps_follow (left : Nat) (request : Request) :
    Keeps (Grown l rs) (follow left request) := by
  induction left generalizing request with
  | zero => exact fun _ h => h
  | succ left ih =>
    refine Keeps.bind (fun l' h => ?_) fun response => keeps_redirected ih response
    exact (sendOne_yields request).mono (fun _ _ hs => h.trans hs.1.grown)
      fun _ _ hs => h.trans hs.grown

/-- The refusal of the cache is no redirect. -/
theorem location?_of_status_eq {response : Response} (h : response.status = 504) :
    Redirect.location? response = none := by
  rw [Redirect.location?, h]
  rfl

/-- A conversation sends the outgoing request first. Without one the cache refuses, or fails. -/
theorem follow_yields (left : Nat) (request : Request) :
    (follow (left + 1) request).Yields l
      (fun response l' => Grown l (l.outgoing? request).toList l' ∧
        (l.outgoing? request = none → response.status = 504 ∧ Sent l [] l'))
      fun _ l' => Grown l (l.outgoing? request).toList l' ∧
        (l.outgoing? request = none → Sent l [] l') := by
  unfold follow
  rw [yields_bind]
  cases hout : l.outgoing? request with
  | none =>
    have hs := sendOne_yields (l := l) request
    rw [hout] at hs
    refine hs.mono (fun response l' h => ?_) fun _ l' h => ⟨h.grown, fun _ => h⟩
    rw [location?_of_status_eq (h.2 rfl)]
    exact ⟨h.1.grown, fun _ => ⟨h.2 rfl, h.1⟩⟩
  | some out =>
    have hs := sendOne_yields (l := l) request
    rw [hout] at hs
    refine hs.mono (fun response l' h => ?_) fun _ l' h => ⟨h.grown, nofun⟩
    refine (keeps_redirected (keeps_follow left) response l' h.1.grown).mono ?_ ?_
    · exact fun _ _ h => ⟨h, nofun⟩
    · exact fun _ _ h => ⟨h, nofun⟩

/-- Without a redirect that is followed only the outgoing request is sent. -/
theorem follow_unredirected (left : Nat) {request : Request} (hu : l.Unredirected request) :
    (follow (left + 1) request).Yields l (fun _ => Sent l (l.outgoing? request).toList)
      fun _ => Sent l (l.outgoing? request).toList := by
  have hs := yields_iff.1 (sendOne_yields (l := l) request)
  unfold follow
  rw [yields_bind, yields_iff]
  refine ⟨fun response l' hr => ?_, hs.2⟩
  have hsent := (hs.1 response l' hr).1
  cases hloc : Redirect.location? response with
  | none => exact hsent
  | some location =>
    have hf : l'.client.followsRedirects ≠ true := by
      rcases hu with hf | hn
      · simp [hsent.1.followsRedirects_eq, hf]
      · have hnone := hn response (congrArg Prod.fst hr)
        rw [hloc] at hnone
        cases hnone
    simp only [yields_bind, yields_get, if_neg hf]
    exact ((Quiet.ofExcept _).guarding response l').mono (fun _ _ hq => hsent.quiet hq)
      fun _ _ hq => hsent.quiet hq

end Link

end HttpCourier
