import HttpCourier.Proofs.Sending

/-!
# What the client answers

`Link.nextAnswer` is what the network says to the next request. `Link.ask_answer` tells what comes
of it without a cache, and `Link.fetch_answer` what a cache gets. So whichever way an answer comes,
it names the request that it was given to, and nobody asked its wire to close (`Link.Open`,
`Link.sendOne_answered`).
-/

namespace HttpCourier

open Step

namespace Wire

variable {w w' : Wire} {bytes taken : Bytes}

/-- A chunk is added to what was read, and reading goes on. -/
theorem drain_of_chunk (h : w.pull = (.chunk bytes, w')) :
    w.drain taken = w'.drain (taken ++ bytes) := by
  rw [drain]
  split
  case h_1 hp => cases h.symm.trans hp
  case h_2 hp => cases h.symm.trans hp
  case h_3 hp =>
    obtain ⟨rfl, rfl⟩ := by simpa using h.symm.trans hp
    rfl

/-- At the end of the wire there is what was read. -/
theorem drain_of_finish (h : w.pull = (.finish, w')) : w.drain taken = (.ok taken, w') := by
  rw [drain]
  split
  case h_1 hp =>
    obtain rfl := by simpa using h.symm.trans hp
    rfl
  case h_2 hp => cases h.symm.trans hp
  case h_3 hp => cases h.symm.trans hp

/-- A body in memory is read as it is. -/
theorem readAll_chunk (bytes : Bytes) :
    ({ parts := [.chunk bytes] } : Wire).readAll.1 = .ok bytes := by
  have hpull : ({ parts := [.chunk bytes] } : Wire).pull
      = (.chunk bytes, { parts := [], pulled := 1 }) := by rw [pull]
  have hend : ({ parts := [], pulled := 1 } : Wire).pull
      = (.finish, { parts := [], pulled := 1, ended := true }) := by rw [pull]
  rw [readAll, drain_of_chunk hpull, drain_of_finish hend]
  rfl

/-- A wire without parts has an empty body. -/
theorem readAll_empty : ({} : Wire).readAll.1 = .ok [] := by
  have hend : ({} : Wire).pull = (.finish, { ended := true }) := by rw [pull]
  rw [readAll, drain_of_finish hend]

/-- Reading a body to its end gives what a drain gives. -/
theorem readAll_fst (w : Wire) : w.readAll.1 = (w.drain []).1 := by
  rw [readAll]
  split
  case h_1 h => rw [h]
  case h_2 h => rw [h]

end Wire

namespace Reply

/-- The whole body of an answer. -/
def content (reply : Reply) : Except Failure Bytes := ({ parts := reply.body } : Wire).readAll.1

/-- The answer as it arrives from the network. -/
def arriving (reply : Reply) (request : Request) : Response :=
  { request, status := reply.status, phrase := reply.phrase, fields := reply.fields,
    peer := reply.peer, wire := { parts := reply.body } }

/-- The answer that the cache gets from the network, after it read the body. -/
def fetched (reply : Reply) (request : Request) (body : Bytes) : Response :=
  { reply.arriving request with
    wire := { parts := [.chunk body] }, fromNetwork := false, cacheUse := .fetched }

end Reply

namespace Link

variable {α : Type} {l l' : Link} {response : Response}

/-- What the network says to the next request. -/
def nextAnswer (l : Link) : Except Failure Reply :=
  (l.network.steps.headD Network.exhausted).answer

/-- The link has a storage in its cache. -/
def Caches (storage : Storage) (l : Link) : Prop :=
  ∃ statistics, l.client.cache = some { storage, statistics }

/-- The network gives its next answer, leaves the client alone, and records the exchange with the
wire of the answer. -/
theorem ask_answer (request : Request) :
    (ask request).Yields l
      (fun response l' => l'.client = l.client ∧ ∃ reply, l.nextAnswer = .ok reply ∧
        response = reply.arriving request ∧
        l'.network.exchanges = l.network.exchanges ++ [{ request, wire := some response.wire }])
      fun fault l' => l'.client = l.client ∧
        ∃ failure, l.nextAnswer = .error failure ∧ fault = .failure failure := by
  unfold ask Network.send nextAnswer
  rw [yields_bind, yields_get]
  dsimp only
  cases (l.network.steps.headD Network.exhausted).answer with
  | error failure => exact ⟨rfl, failure, rfl, rfl⟩
  | ok reply => exact ⟨rfl, reply, rfl, rfl, rfl⟩

/-- To record what became of a body leaves the client alone. -/
theorem settle_client (response : Response) (wire : Wire) :
    (settle response wire).Yields l (fun _ l' => l'.client = l.client) never := by
  unfold settle
  split
  · rfl
  · rfl

/-- What is fetched is the next answer of the network with its whole body. -/
theorem fetch_answer (cache : Cache) (request : Request) :
    (fetch cache request).Yields l
      (fun result l' => l'.Caches cache.storage ∧ ∃ reply, l.nextAnswer = .ok reply ∧
        reply.content = .ok result.2 ∧ result.1 = reply.fetched request result.2)
      fun fault l' => l'.Caches cache.storage ∧
        ∃ failure, (l.nextAnswer >>= Reply.content) = .error failure ∧ fault = .failure failure := by
  unfold fetch
  rw [yields_bind, setCache, yields_modify, yields_bind]
  refine (ask_answer request).mono ?_ ?_
  · rintro response l' ⟨hclient, reply, hreply, rfl, -⟩
    have hnext : l.nextAnswer = .ok reply := hreply
    have hcontent : reply.content = (({ parts := reply.body } : Wire).drain []).1 :=
      Wire.readAll_fst _
    dsimp only [Reply.arriving]
    rw [yields_bind]
    refine (settle_client _ _).mono (fun _ l'' hsettled => ?_) fun _ _ => False.elim
    have hcaches : l''.Caches cache.storage := ⟨_, by rw [hsettled, hclient]⟩
    rw [hnext]
    cases hd : (({ parts := reply.body } : Wire).drain []).1 with
    | error failure => exact ⟨hcaches, failure, hcontent.trans hd, rfl⟩
    | ok body => exact ⟨hcaches, reply, rfl, hcontent.trans hd, rfl⟩
  · rintro fault l' ⟨hclient, failure, hfailure, rfl⟩
    have hnext : l.nextAnswer = .error failure := hfailure
    exact ⟨⟨_, by rw [hclient]⟩, failure, by rw [hnext]; rfl, rfl⟩

/-! ## Open answers -/

/-- An answer whose wire nobody asked to close; when it arrives from the network, its wire is that
of the last exchange. -/
structure Open (response : Response) (l : Link) : Prop where
  closeCalls_eq : response.wire.closeCalls = 0
  recorded : response.fromNetwork = true → ∃ past request,
    l.network.exchanges = past ++ [{ request, wire := some response.wire }]

/-- An open answer to a request. -/
def Answered (request : Request) (response : Response) (l : Link) : Prop :=
  response.request = request ∧ Open response l

/-- The request that an answer is given to; with a cache it is prepared first. -/
def asked (l : Link) (request : Request) : Request :=
  if l.client.cache.isSome then Cache.prepared request else request

/-- A request prepared for the cache goes to the same address. -/
theorem url_asked (l : Link) (request : Request) : (l.asked request).url = request.url := by
  unfold asked Cache.prepared
  split
  · split
    · rfl
    · rfl
  · rfl

/-- An operation that does not touch the network. -/
def Offline (step : Step Link α) : Prop := ∀ network, Keeps (fun l => l.network = network) step

/-- To write a log does not touch the network. -/
theorem offline_note (records : List Log.Record) : Offline (note records) := fun _ _ h => h

/-- To change the cache does not touch the network. -/
theorem offline_setCache (cache : Cache) : Offline (setCache cache) := fun _ _ h => h

/-- To count an answer for the cache does not touch the network. -/
theorem offline_countAnswer (response : Response) : Offline (countAnswer response) := by
  refine fun network => Keeps.get_bind fun l => ?_
  split
  · exact .pure _
  · refine (offline_setCache _ network).bind fun _ => ?_
    split
    · exact offline_note _ network
    · exact .pure _

/-- An answer stays open on a link whose network has the same exchanges. -/
theorem Open.congr (h : Open response l) (he : l'.network = l.network) : Open response l' :=
  ⟨h.closeCalls_eq, by rw [he]; exact h.recorded⟩

/-- What follows an answer and leaves the network alone leaves the answer open. -/
theorem Open.after {step : Step Link α} (hs : Offline step) (h : Open response l) :
    step.Yields l (fun _ => Open response) fun _ _ => True :=
  (hs l.network l rfl).mono (fun _ _ hl => h.congr hl) fun _ _ _ => trivial

/-- An answer with a body in memory. -/
theorem open_of_memory (hw : response.wire.closeCalls = 0) (hn : response.fromNetwork = false) :
    Open response l := ⟨hw, fun h => absurd (hn.symm.trans h) Bool.false_ne_true⟩

/-- An answer from the network is open, and answers the request that was sent. -/
theorem ask_answered (request : Request) :
    (ask request).Yields l (Answered request) fun _ _ => True := by
  refine (ask_answer request).mono ?_ fun _ _ _ => trivial
  rintro response l' ⟨-, reply, -, rfl, hlast⟩
  exact ⟨rfl, rfl, fun _ => ⟨_, _, hlast⟩⟩

/-- What is fetched is kept in memory. -/
theorem fetch_answered (cache : Cache) (request : Request) :
    (fetch cache request).Yields l
      (fun result _ => result.1.request = request ∧ result.1.wire.closeCalls = 0 ∧
        result.1.fromNetwork = false)
      fun _ _ => True := by
  refine (fetch_answer cache request).mono ?_ fun _ _ _ => trivial
  rintro result l' ⟨-, reply, -, -, hfetched⟩
  rw [hfetched]
  exact ⟨rfl, rfl, rfl⟩

/-- A confirmed page, or the page sent instead, answers the request that was asked, and not the
conditional one. -/
theorem revalidate_answered (cache : Cache) (request conditional : Request)
    (stored : StoredResponse) :
    (revalidate cache request conditional stored).Yields l (Answered request)
      fun _ _ => True := by
  unfold revalidate
  rw [yields_bind]
  refine (fetch_answered cache conditional).mono ?_ fun _ _ => id
  rintro ⟨response, body⟩ l' ⟨-, hw, hn⟩
  dsimp only
  split
  · rw [yields_bind, yields_get]
    split
    · rw [yields_bind]
      exact (yields_true _).mono (fun _ _ _ => ⟨rfl, open_of_memory rfl rfl⟩) fun _ _ => id
    · exact ⟨rfl, open_of_memory rfl rfl⟩
  · rw [yields_bind]
    exact (yields_true _).mono (fun _ _ _ => ⟨rfl, open_of_memory hw hn⟩) fun _ _ => id

/-- What comes through the cache answers the request that was asked, and is open. -/
theorem throughCache_answered (cache : Cache) (request : Request) :
    (throughCache cache request).Yields l (Answered request) fun _ _ => True := by
  unfold throughCache
  rw [yields_bind]
  refine (yields_true _).mono (fun plan l' _ => ?_) fun _ _ => id
  cases plan with
  | refuse => exact ⟨rfl, open_of_memory rfl rfl⟩
  | fetch =>
    simp only [yields_bind]
    refine (fetch_answered cache request).mono ?_ fun _ _ => id
    rintro ⟨response, body⟩ l'' ⟨hu, hw, hn⟩
    exact (yields_true _).mono (fun _ _ _ => ⟨hu, open_of_memory hw hn⟩) fun _ _ => id
  | revalidate conditional stored => exact revalidate_answered cache request conditional stored

/-- With a cache and without one, an answer is given to the request as it was asked. -/
theorem transmit_answered (request : Request) :
    (transmit request).Yields l (Answered (l.asked request)) fun _ _ => True := by
  unfold transmit asked
  rw [yields_bind, yields_get]
  cases l.client.cache with
  | none => exact ask_answered request
  | some cache =>
    simp only [yields_bind, Option.isSome_some, if_true]
    refine (throughCache_answered cache _).mono (fun response l' h => ?_) fun _ _ => id
    refine (h.2.after (offline_countAnswer response)).mono (fun _ _ ho => ?_) fun _ _ => id
    exact ⟨h.1, ho⟩

/-- The answer to a request is open, and names the request after its fields were read. -/
theorem sendOne_answered (request : Request) :
    (sendOne request).Yields l (Answered (l.asked request).seen) fun _ _ => True := by
  unfold sendOne
  rw [yields_bind]
  refine (transmit_answered request).mono (fun response l' h => ?_) fun _ _ => id
  extract_lets seen finish
  split
  · trivial
  · simp only [finish, yields_bind, yields_get, yields_set]
    exact ⟨congrArg Request.seen h.1, h.2.closeCalls_eq, h.2.recorded⟩

end Link

end HttpCourier
