import HttpCourier.Proofs.Closing
import HttpCourier.Proofs.Foresight

/-!
# What the first bytes of an answer take from the network

Without a cache an answer is handed out before anything of its body was read (`Link.Fresh`): each
way through redirects and challenges ends with the answer to the last request. So a reader who only
wants the first bytes of the body takes the shortest run of parts that has them from the network, in
whole pieces, and leaves the parts behind it on the wire (`Link.collect_takes_shortest_run`).
-/

namespace HttpCourier

open Step

namespace Link

variable {l l₁ : Link} {draft : Draft} {chunkSize : Nat} {request : Request} {response : Response}
  {received : Received}

/-- A link without a cache. -/
def Uncached (l : Link) : Prop := l.client.cache = none

/-- An answer that still arrives from the network, and of which nothing was read. -/
structure Fresh (response : Response) (l : Link) : Prop where
  uncached : l.Uncached
  fromNetwork : response.fromNetwork = true
  wire_eq : response.wire = { parts := response.wire.parts }

/-- To record what became of a body brings no cache. -/
theorem keeps_settle (response : Response) (wire : Wire) : Keeps Uncached (settle response wire) :=
  fun _ h => (settle_client response wire).mono
    (fun _ _ hclient => (congrArg Client.cache hclient).trans h) fun _ _ => False.elim

/-- To read a whole body brings no cache. -/
theorem keeps_readAll (response : Response) : Keeps Uncached (readAll response) :=
  (keeps_settle _ _).bind fun _ => .ofExcept _

/-- To go on with a login brings no cache. -/
theorem keeps_resume (flow : AuthFlow) (response : Response) :
    Keeps Uncached (resume flow response) := by
  intro l h
  unfold resume
  rw [yields_bind, yields_get]
  exact Keeps.ofExcept _ _ h

/-- Without a cache, the answer to a request is fresh. -/
theorem sendOne_fresh (h : l.Uncached) (request : Request) :
    (sendOne request).Yields l Fresh fun _ _ => True := by
  unfold sendOne transmit
  rw [yields_bind, yields_bind, yields_get, h]
  refine (ask_answer request).mono ?_ fun _ _ _ => trivial
  rintro response l' ⟨hclient, reply, -, rfl, -⟩
  extract_lets seen finish
  have huncached : l'.Uncached := (congrArg Client.cache hclient).trans h
  split
  · trivial
  · simp only [finish, yields_bind, yields_get, yields_set]
    exact ⟨huncached, rfl, rfl⟩

/-- A fresh answer stays fresh while a step is taken that keeps the link without a cache. -/
theorem Fresh.after {α : Type} {step : Step Link α} (hs : Keeps Uncached step)
    (h : Fresh response l) : step.Yields l (fun _ => Fresh response) fun _ _ => True :=
  (hs l h.uncached).mono (fun _ _ hu => ⟨hu, h.fromNetwork, h.wire_eq⟩) fun _ _ _ => trivial

/-- The answer after all redirects arrives from the network unread. -/
theorem follow_fresh (h : l.Uncached) (left : Nat) (request : Request) :
    (follow left request).Yields l Fresh fun _ _ => True := by
  induction left generalizing l request with
  | zero => trivial
  | succ left ih =>
    unfold follow
    rw [yields_bind]
    refine (sendOne_fresh h request).mono (fun response l₁ h => ?_) fun _ _ => id
    split
    · exact h
    · rw [yields_bind, yields_get, yields_bind]
      refine (guarding_yields (h.after (.ofExcept _))).mono (fun next l₂ h => ?_) fun _ _ => id
      split
      · rw [yields_bind]
        exact (keeps_readAll response l₂ h.uncached).mono (fun _ _ hu => ih hu next)
          fun _ _ _ => trivial
      · exact h

/-- The answer after a login arrives from the network unread. -/
theorem converse_fresh (h : l.Uncached) (rounds left : Nat) (request : Request) (flow : AuthFlow) :
    (converse rounds left request flow).Yields l Fresh fun _ _ => True := by
  induction rounds generalizing l left request flow with
  | zero => exact follow_fresh h left request
  | succ rounds ih =>
    unfold converse
    rw [yields_bind]
    refine (follow_fresh h left request).mono (fun response l₁ h => ?_) fun _ _ => id
    rw [yields_bind]
    refine (guarding_yields (h.after (keeps_resume flow response))).mono (fun next l₂ h => ?_)
      fun _ _ => id
    split
    · exact h
    · rw [yields_bind]
      exact (keeps_readAll response l₂ h.uncached).mono (fun _ _ hu => ih hu _ _ _)
        fun _ _ _ => trivial

/-- Without a cache every answer arrives from the network unread. -/
theorem send_fresh (h : l.Uncached) (request : Request) :
    (send request).Yields l Fresh fun _ _ => True := by
  unfold send
  rw [yields_bind, yields_get]
  extract_lets client go
  have hgo : (go ⟨⟩).Yields l Fresh fun _ _ => True := by
    simp only [go, client]
    rw [yields_bind, yields_set, yields_bind, yields_ofExcept]
    exact ⟨fun _ _ => converse_fresh (by exact h) _ _ _ _, fun _ _ => trivial⟩
  split
  · trivial
  · exact hgo

/-- Without a cache, an answer is received before anything of its body was read. -/
theorem receive_fresh (h : l.Uncached) (draft : Draft) (chunkSize : Nat) :
    (receive draft chunkSize).Yields l
      (fun received l₁ => Fresh received.response l₁ ∧ Open received.response l₁ ∧
        received.body = .ofWire received.response.wire chunkSize)
      fun _ _ => True := by
  unfold receive
  rw [yields_bind, yields_get, yields_bind, yields_ofExcept]
  refine ⟨fun request _ => ?_, fun _ _ => trivial⟩
  rw [yields_bind, yields_attempt]
  refine ((send_fresh h request).and (send_open request)).mono (fun response l₁ hs => ?_)
    fun _ _ _ => trivial
  dsimp -zeta only
  extract_lets body respond
  split
  · rw [yields_bind]
    exact (yields_true _).mono (fun _ _ _ => trivial) fun _ _ => id
  · exact ⟨hs.1, hs.2, rfl⟩

/-- An open answer whose first bytes were found is recorded with what the drain left of its wire. -/
theorem collect_ok {captured : Option Bytes} {demand : Demand} (h : Open received.response l)
    (hcaptured : (drain chunkSize demand received.body).captured = .ok captured) :
    (collect received chunkSize demand).Yields l
      (fun result l' => result = (captured, (drain chunkSize demand received.body).content) ∧
        Records received.response (drain chunkSize demand received.body).source.close
          l.network l'.network)
      never := by
  unfold collect
  extract_lets drained
  rw [yields_bind]
  refine (finish_records h drained.source).mono (fun _ l' hrecords => ?_) fun _ _ => False.elim
  rw [yields_bind, hcaptured, yields_ok]
  exact ⟨rfl, hrecords⟩

/-- Without a cache, a drain of an answer for its first bytes alone takes from the network the
shortest run of parts with the bytes of as many whole chunks as it needs, or all parts when they
have fewer; that is, when none of these is a failure. The parts behind the run stay on the wire, and
any others in their place give the same first bytes. -/
theorem collect_takes_shortest_run (hc : 0 < chunkSize) (huncached : l.client.cache = none)
    (hreceive : on l (receive draft chunkSize) = (.ok received, l₁)) (capacity : Int) :
    let need := BodyStream.wanted chunkSize capacity.toNat
    ∃ run behind past request,
      l₁.network.exchanges = past ++ [{ request, wire := some { parts := run ++ behind } }] ∧
      Wire.ShortestRun need run behind ∧
      ((∀ failure, .fail failure ∉ run) →
        let first := (run.flatMap Wire.Part.bytes).take capacity.toNat
        ∃ l₂ wire,
          on l₁ (collect received chunkSize ⟨false, some capacity⟩) = (.ok (some first, []), l₂) ∧
          l₂.network.exchanges = past ++ [{ request, wire := some wire }] ∧
          wire.parts = behind ∧ wire.pulled = run.countP Wire.Part.isChunk ∧
          (need ≤ Wire.size run → ∀ others : List Wire.Part,
            (drain chunkSize ⟨false, some capacity⟩
              (BodyStream.ofWire { parts := run ++ others } chunkSize)).captured
                = .ok (some first))) := by
  intro need
  obtain ⟨hfresh, hopen, hbody⟩ :=
    (yields_iff.1 (receive_fresh huncached draft chunkSize)).1 received l₁ hreceive
  obtain ⟨past, request, hlast⟩ := hopen.recorded hfresh.fromNetwork
  generalize hparts : received.response.wire.parts = parts
  have hwire : received.response.wire = { parts } := hparts ▸ hfresh.wire_eq
  rw [hwire] at hbody hlast
  refine ⟨Wire.reaching need parts, Wire.beyond need parts, past, request, ?_,
    Wire.shortestRun_reaching, fun hrun => ?_⟩
  · rw [Wire.reaching_append_beyond]
    exact hlast
  obtain ⟨hcaptured, hleft, hpulled⟩ := BodyStream.drain_ahead hc { parts } capacity hrun
  rw [← hbody] at hcaptured hleft hpulled
  obtain ⟨result, l₂, hcollect, rfl, hrecords⟩ := (collect_ok hopen hcaptured).exists_ok
  obtain ⟨past', request', hbefore, hafter⟩ := hrecords.of_network hfresh.fromNetwork
  rw [hlast, hwire] at hbefore
  obtain ⟨rfl, hexchange⟩ := List.append_inj' hbefore rfl
  obtain rfl : request = request' := by simpa using hexchange
  refine ⟨l₂, _, ?_, hafter, (BodyStream.close_parts _).trans hleft, ?_, fun hreaches others => ?_⟩
  · rw [hcollect]
    rfl
  · rw [BodyStream.close_pulled, hpulled]
    exact Nat.zero_add _
  · have hsame := Wire.reaching_append hreaches others
    have hothers := BodyStream.drain_ahead hc { parts := Wire.reaching need parts ++ others } capacity
      (by rw [hsame]; exact hrun)
    exact hothers.1.trans (by rw [hsame])

/-- A body of seven bytes in chunks, which breaks off before the last one. -/
def raggedBody : List Wire.Part :=
  [.chunk [1, 2], .chunk [], .wait 5, .chunk [3, 4, 5, 6], .fail (.plain .read "reset"), .chunk [7]]

/-- A link without a cache before a network that answers with this body. -/
def raggedLink : Link where
  client := {}
  network := { steps := [{ answer := .ok { status := 200, body := raggedBody } }] }

/-- Four bytes in pieces of three are taken before a failure that stands behind them. -/
theorem collect_takes_shortest_run_raggedLink :
    ∃ received l₁ l₂ wire, 0 < 3 ∧ raggedLink.client.cache = none ∧
      on raggedLink (receive { method := "GET", url := "http://example.com/r" } 3)
        = (.ok received, l₁) ∧
      on l₁ (collect received 3 ⟨false, some 4⟩) = (.ok (some [1, 2, 3, 4], []), l₂) ∧
      l₂.network.exchanges.map Exchange.wire = [some wire] ∧
      wire.parts = [.fail (.plain .read "reset"), .chunk [7]] ∧ wire.pulled = 3 := by
  have hchunk : 0 < 3 := by decide
  have hok : (on raggedLink (receive { method := "GET", url := "http://example.com/r" } 3)).1.isOk
      = true := by decide +kernel
  have hexchanges : List.map Exchange.wire
      (on raggedLink (receive { method := "GET", url := "http://example.com/r" } 3)).2.network.exchanges
        = [some { parts := raggedBody }] := by with_unfolding_all rfl
  rcases hreceive : on raggedLink (receive { method := "GET", url := "http://example.com/r" } 3) with
    ⟨fault | received, l₁⟩
  · rw [hreceive] at hok
    cases hok
  rw [hreceive] at hexchanges
  obtain ⟨run, behind, past, request, hlast, hshortest, hcollect⟩ :=
    collect_takes_shortest_run hchunk rfl hreceive 4
  -- the run ends with the chunk that has the sixth byte
  have hall : past = [] ∧ run ++ behind = raggedBody := by
    rw [hlast, List.map_append] at hexchanges
    cases past with
    | nil => exact ⟨rfl, by simpa using hexchanges⟩
    | cons exchange past => simp at hexchanges
  have hrun : run = [.chunk [1, 2], .chunk [], .wait 5, .chunk [3, 4, 5, 6]] := by
    rw [hshortest.eq_reaching, hall.2]
    rfl
  have hbehind : behind = [.fail (.plain .read "reset"), .chunk [7]] := by
    have hsplit := hall.2
    rw [hrun] at hsplit
    exact List.append_cancel_left hsplit
  obtain ⟨l₂, wire, hresult, hdone, hparts, hpulled, -⟩ := hcollect (by simp [hrun])
  rw [hrun] at hresult hpulled
  exact ⟨received, l₁, l₂, wire, hchunk, rfl, rfl, hresult, by rw [hdone, hall.1]; rfl,
    hparts.trans hbehind, hpulled⟩

end Link

end HttpCourier
