import HttpCourier.Proofs.Routing
import HttpCourier.Trigger

/-!
# One cycle of work

`Bench.InHand` is what holds between any two operations of an exchange, whatever the network does:
the session holds the original and the response of the bench, in their last versions, and nothing
else has left it. Every operation before the routing keeps it, also when it ends in a fault, so that
`Desk.route` and `Desk.routeFailure` find the items they hand over (`Trigger.run_yields`).
-/

namespace HttpCourier

open Step Session

namespace Bench

variable {α : Type} {b : Bench} {base : Session} {who : Option String} {wanted : Prop}

/-- Working on the desk is working on the bench with the rest as it is. -/
@[simp] theorem yields_onDesk {post : α → Bench → Prop} {fail : Fault → Bench → Prop}
    (step : Step Desk α) :
    (onDesk step).Yields b post fail ↔
      step.Yields b.desk (fun a desk => post a { b with desk })
        fun e desk => fail e { b with desk } := by
  simp only [onDesk, yields_bind, yields_get, yields_set, yields_ofExcept]
  unfold Yields
  rcases Step.on b.desk step with ⟨e | a, desk⟩
  · simp
  · simp

/-- The items that a cycle has in hand. `who` is the identifier of the original, and a response is
there only when it is `wanted`. -/
structure InHand (base : Session) (who : Option String) (wanted : Prop) (b : Bench) : Prop where
  accounts : Accounts base b.desk.session (b.original.toList ++ b.response.toList) [] []
  original_id : b.original.map (·.id) = who
  fresh : ∀ id ∈ who, ∀ n, b.desk.ids.drawn < n → id ≠ Ids.text n
  response_wanted : b.response.isSome → wanted

/-- A response that is in hand is wanted under any weaker condition. -/
theorem InHand.mono {wanted' : Prop} (h : InHand base who wanted b) (hw : wanted → wanted') :
    InHand base who wanted' b :=
  ⟨h.accounts, h.original_id, h.fresh, fun hs => hw (h.response_wanted hs)⟩

/-- After a fault it does not matter whether a response was wanted. -/
theorem InHand.any (h : InHand base who wanted b) : InHand base who True b := h.mono fun _ => trivial

/-- What is done on the link does not touch the items. -/
theorem keeps_onLink (step : Step Link α) : Keeps (InHand base who wanted) (onLink step) := by
  intro b h
  simp only [onLink, yields_bind, yields_get, yields_set, yields_ofExcept]
  exact ⟨fun _ _ => ⟨h.accounts, h.original_id, h.fresh, h.response_wanted⟩,
    fun _ _ => ⟨h.accounts, h.original_id, h.fresh, h.response_wanted⟩⟩

/-- A change of the desk that only adds to its records does not touch the items. -/
theorem InHand.records (h : InHand base who wanted b) {change : Desk → Desk}
    (hids : ∀ d, (change d).ids = d.ids)
    (hs : ∀ d, ∃ events, (change d).session = { d.session with events }) :
    (onDesk (modify change)).Yields b (fun _ => InHand base who wanted) never := by
  rw [yields_onDesk, yields_modify]
  obtain ⟨events, he⟩ := hs b.desk
  refine ⟨?_, h.original_id, ?_, h.response_wanted⟩
  · dsimp only
    rw [he]
    exact h.accounts.withEvents events
  · dsimp only
    rw [hids]
    exact h.fresh

/-- Events, lines of the log and counts are no matter of the items in hand. -/
theorem keeps_records {change : Desk → Desk} (hids : ∀ d, (change d).ids = d.ids)
    (hs : ∀ d, ∃ events, (change d).session = { d.session with events }) :
    Keeps (InHand base who wanted) (onDesk (modify change)) := fun _ h =>
  (h.records hids hs).mono (fun _ _ => id) fun _ _ => False.elim

/-- A line of the log leaves the items in hand. -/
theorem keeps_note (record : Log.Record) :
    Keeps (InHand base who wanted) (onDesk (Desk.note record)) :=
  keeps_records (fun _ => rfl) fun d => ⟨d.session.events, rfl⟩

/-- An event leaves the items in hand. -/
theorem keeps_report (event : Provenance) :
    Keeps (InHand base who wanted) (onDesk (Desk.report event)) :=
  keeps_records (fun _ => rfl) fun _ => ⟨_, rfl⟩

/-- The original gets another version, which the bench and the session keep. -/
theorem InHand.reviseOriginal (h : InHand base who wanted b) {item next : WorkItem}
    (ho : b.original = some item) (hid : next.id = item.id) :
    (onDesk (Desk.revise fun s => s.update item next)).Yields b
      (fun a b' => InHand base who wanted { b' with original := some a }) never := by
  have ha : Accounts base b.desk.session ([] ++ item :: b.response.toList) [] [] := by
    have := h.accounts
    rwa [ho] at this
  rw [yields_onDesk]
  refine (Desk.revise_yields ha hid).mono ?_ fun _ _ => id
  rintro _ d ⟨rfl, hids, ha⟩
  refine ⟨ha, ?_, ?_, h.response_wanted⟩
  · rw [← h.original_id, ho]
    exact congrArg some hid
  · dsimp only
    rw [hids]
    exact h.fresh

/-- The response gets another version, which the bench and the session keep. -/
theorem InHand.reviseResponse (h : InHand base who wanted b) {item next : WorkItem}
    (hr : b.response = some item) (hid : next.id = item.id) :
    (onDesk (Desk.revise fun s => s.update item next)).Yields b
      (fun a b' => b'.original = b.original ∧ InHand base who wanted { b' with response := some a })
      never := by
  have ha : Accounts base b.desk.session (b.original.toList ++ item :: []) [] [] := by
    have := h.accounts
    rwa [hr] at this
  rw [yields_onDesk]
  refine (Desk.revise_yields ha hid).mono ?_ fun _ _ => id
  rintro _ d ⟨rfl, hids, ha⟩
  refine ⟨rfl, ha, h.original_id, ?_, fun _ => h.response_wanted (by rw [hr]; rfl)⟩
  dsimp only
  rw [hids]
  exact h.fresh

/-- Attributes put on the original make a new version of the item in hand. -/
theorem keeps_putOnOriginal (updates : List (String × String)) :
    Keeps (InHand base who wanted) (putOnOriginal updates) := by
  intro b h
  simp only [putOnOriginal, yields_bind, yields_get]
  cases ho : b.original with
  | none => exact h
  | some item =>
    simp only [yields_bind, yields_modify]
    exact (h.reviseOriginal ho (item.withAttributes_id updates)).mono (fun _ _ => id)
      fun _ _ => False.elim

/-- Attributes put on the response make a new version of the item in hand. -/
theorem keeps_putOnResponse (updates : List (String × String)) :
    Keeps (InHand base who wanted) (putOnResponse updates) := by
  intro b h
  simp only [putOnResponse, yields_bind, yields_get]
  cases hr : b.response with
  | none => exact h
  | some item =>
    simp only [yields_bind, yields_modify]
    exact (h.reviseResponse hr (item.withAttributes_id updates)).mono (fun _ _ h => h.2)
      fun _ _ => False.elim

/-- Closing the body after a fault does not touch the items. -/
theorem guarding_yields {received : Received} {step : Step Bench α} {post : α → Bench → Prop}
    (h : step.Yields b post fun _ => InHand base who wanted) :
    (guarding received step).Yields b post fun _ => InHand base who wanted := by
  simp only [guarding, yields_bind, yields_attempt]
  refine h.mono (fun _ _ => id) fun e b' hb => ?_
  exact (keeps_onLink _ b' hb).mono (fun _ _ => id) fun _ _ => id

end Bench

namespace Trigger

open Bench

variable {b : Bench} {base : Session} {who : Option String} {wanted : Prop}

/-! ## The exchange -/

/-- To plan an exchange leaves the items in hand. -/
theorem keeps_prepare (duty : Duty) (transaction : String) (now : Int) :
    Keeps (InHand base who wanted) (prepare duty transaction now) := by
  unfold prepare
  intro b h
  rw [yields_bind, yields_get]
  refine (Keeps.ofExcept _).bind (fun ⟨draft, log⟩ => ?_) b h
  refine (Keeps.forM (fun r => keeps_note r) log).bind fun _ => ?_
  refine (keeps_note _).bind fun _ => ?_
  split
  · exact (keeps_report _).bind fun _ => .pure _
  · exact .pure _

/-- An item for the body comes to hand, beside the original. -/
theorem newResponse_yields (hw : wanted) (h : InHand base who False b) :
    (onDesk (b.original.elim Desk.create Desk.createChild)).Yields b
      (fun item b' => InHand base who wanted { b' with response := some item }) never := by
  have hr : b.response = none := by
    cases hr : b.response with
    | none => rfl
    | some item => exact (h.response_wanted (by rw [hr]; rfl)).elim
  have ha := h.accounts
  rw [hr, Option.toList_none, List.append_nil] at ha
  have hlt : b.desk.ids.drawn < b.desk.ids.drawn + 1 := Nat.lt_succ_self _
  have hpost : ∀ (item : WorkItem) (d : Desk), item.id = Ids.text (b.desk.ids.drawn + 1) ∧
      d.ids.drawn = b.desk.ids.drawn + 1 ∧
      Accounts base d.session (b.original.toList ++ [item]) [] [] →
      InHand base who wanted { b with desk := d, response := some item } := by
    rintro item d ⟨-, hd, ha⟩
    refine ⟨ha, h.original_id, fun id hid n hn => h.fresh id hid n ?_, fun _ => hw⟩
    have hn : d.ids.drawn < n := hn
    omega
  rw [yields_onDesk]
  cases ho : b.original with
  | none =>
    rw [ho] at ha hpost
    refine (Desk.create_yields ha ?_).mono hpost fun _ _ => id
    simp
  | some item =>
    rw [ho] at ha hpost
    have ha : Accounts base b.desk.session ([] ++ item :: []) [] [] := ha
    refine (Desk.createChild_yields ha ?_).mono hpost fun _ _ => id
    have hid : item.id ∈ who := by rw [← h.original_id, ho]; rfl
    simpa using (h.fresh _ hid _ hlt).symm

/-- The item for the body comes to hand, and is told about the answer. -/
theorem createResponse_yields (plan : Plan) (received : Received) (hw : wanted)
    (h : InHand base who False b) :
    (createResponse plan received).Yields b (fun _ => InHand base who wanted)
      fun _ => InHand base who wanted := by
  unfold createResponse
  rw [yields_bind, yields_get, yields_bind]
  refine (newResponse_yields hw h).mono (fun item b' h => ?_) fun _ _ => False.elim
  rw [yields_bind, yields_modify]
  refine Keeps.bind (keeps_putOnResponse _) (fun _ => ?_) _ h
  refine Keeps.bind (keeps_putOnResponse _) fun _ => ?_
  split
  · split
    · exact keeps_putOnResponse _
    · exact .pure _
  · exact .pure _

/-- Before the body is read, a response is there only when the duty wants one. -/
theorem greet_yields (duty : Duty) (plan : Plan) (received : Received)
    (h : InHand base who False b) :
    (greet duty plan received).Yields b
      (fun _ => InHand base who (duty.givesResponse received.isSuccess = true))
      fun _ => InHand base who True := by
  unfold greet
  rw [yields_bind]
  refine (keeps_note _ _ h).mono (fun _ b₁ h => ?_) fun _ _ => InHand.any
  rw [yields_bind]
  refine (keeps_putOnOriginal _ _ h).mono (fun _ b₂ h => ?_) fun _ _ => InHand.any
  extract_lets content respond
  have hrespond : ∀ b, InHand base who False b → (respond ()).Yields b
      (fun _ => InHand base who (duty.givesResponse received.isSuccess = true))
      fun _ => InHand base who True := by
    intro b h
    simp only [respond]
    rw [yields_bind, yields_get]
    split
    case isTrue hc =>
      rw [yields_bind]
      exact (createResponse_yields plan received hc h).mono (fun _ _ => id) fun _ _ => InHand.any
    case isFalse hc => exact h.mono False.elim
  split
  · rw [yields_bind]
    exact (keeps_putOnOriginal _ _ h).mono (fun _ b h => hrespond b h) fun _ _ => InHand.any
  · exact hrespond _ h

/-- The body makes a new version of the response in hand. -/
theorem keeps_fillResponse (plan : Plan) (content : Bytes) :
    Keeps (InHand base who wanted) (fillResponse plan content) := by
  intro b h
  simp only [fillResponse, yields_bind, yields_get]
  cases hr : b.response with
  | none => exact h
  | some item =>
    simp only [yields_bind, yields_modify, since, yields_get, yields_pure]
    refine (h.reviseResponse hr (item.withContent_id content)).mono ?_ fun _ _ => False.elim
    rintro a b' ⟨-, h⟩
    exact keeps_report _ _ h

/-- The text of the body makes a new version of the original in hand. -/
theorem keeps_fillAttribute (duty : Duty) (plan : Plan) (received : Received) (captured : Bytes) :
    Keeps (InHand base who wanted) (fillAttribute duty plan received captured) := by
  intro b h
  simp only [fillAttribute]
  rw [yields_bind, yields_get]
  cases ho : b.original with
  | none => exact h
  | some item =>
    refine (Keeps.ofExcept _).bind (fun text => ?_) b h
    refine (keeps_putOnOriginal _).bind fun _ => ?_
    refine Keeps.bind (fun b h => ?_) fun _ => keeps_report _
    exact h

/-- To count an exchange leaves the items in hand. -/
theorem keeps_count (plan : Plan) (response : Response) (bytes : Nat) :
    Keeps (InHand base who wanted) (count plan response bytes) := by
  refine Keeps.bind (fun b h => ?_) fun elapsed => ?_
  · exact h
  · exact keeps_records (fun _ => rfl) fun d => ⟨d.session.events, rfl⟩

/-- Whatever the network does, an exchange hands the items over to their relationships, or leaves
them in hand after a fault. -/
theorem exchange_yields (duty : Duty) (chunkSize : Nat) (transaction : String) (now : Int)
    (h : InHand base who False b) :
    (exchange duty chunkSize transaction now).Yields b
      (fun outcome b' => ∃ original response : Option WorkItem, original.map (·.id) = who ∧
        Settled base b'.desk.session outcome original response)
      fun _ => InHand base who True := by
  unfold exchange
  rw [yields_bind]
  refine (keeps_prepare duty transaction now _ h).mono (fun plan b₁ h => ?_) fun _ _ => InHand.any
  rw [yields_bind]
  refine (keeps_onLink _ _ h).mono (fun received b₂ h => ?_) fun _ _ => InHand.any
  rw [yields_bind]
  refine (guarding_yields (greet_yields duty plan received h)).mono (fun demand b₃ h => ?_)
    fun _ _ => id
  rw [yields_bind]
  refine (keeps_onLink _ _ h).mono (fun ⟨captured, content⟩ b₄ h => ?_) fun _ _ => InHand.any
  dsimp -zeta only
  extract_lets route fill
  have hroute : ∀ b, InHand base who (duty.givesResponse received.isSuccess = true) b →
      (route ()).Yields b
        (fun outcome b' => ∃ original response : Option WorkItem, original.map (·.id) = who ∧
          Settled base b'.desk.session outcome original response)
        fun _ => InHand base who True := by
    intro b h
    simp only [route]
    rw [yields_bind]
    refine (keeps_count _ _ _ _ h).mono (fun _ b h => ?_) fun _ _ => InHand.any
    rw [yields_bind, yields_get, yields_onDesk]
    refine (Desk.route_yields _ _ h.accounts fun hs => ?_).mono ?_ fun _ _ => False.elim
    · have hg := h.response_wanted hs
      simp only [Duty.givesResponse, Bool.or_eq_true, Bool.and_eq_true] at hg
      exact hg.symm.imp id And.left
    · rintro outcome d ⟨original, hid, hs⟩
      exact ⟨original, b.response, hid.trans h.original_id, hs⟩
  have hfill : ∀ b, InHand base who (duty.givesResponse received.isSuccess = true) b →
      (fill ()).Yields b
        (fun outcome b' => ∃ original response : Option WorkItem, original.map (·.id) = who ∧
          Settled base b'.desk.session outcome original response)
        fun _ => InHand base who True := by
    intro b h
    simp only [fill]
    split
    · rw [yields_bind]
      exact (keeps_fillAttribute _ _ _ _ _ h).mono (fun _ b h => hroute b h) fun _ _ => InHand.any
    · exact hroute b h
  split
  · rw [yields_bind]
    exact (keeps_fillResponse _ _ _ h).mono (fun _ b h => hfill b h) fun _ _ => InHand.any
  · exact hfill _ h

/-! ## The cycle -/

/-- The session without the item that a cycle takes. -/
def dequeued (s : Session) : Session := { s with incoming := s.incoming.tail }

/-- Whose item the original is: that of the head of the queue, or a new one with the next
identifier. -/
def IsOriginal (d : Desk) (who : Option String) : Prop :=
  match d.session.incoming with
  | [] => ∀ id ∈ who, id = Ids.text (d.ids.drawn + 1)
  | head :: _ => who = some head.id

/-- A cycle takes the head of the queue, if there is one. -/
theorem intake_yields {d : Desk} (duty : Duty) (hasIncoming : Bool) (hlive : d.session.live = [])
    (hfresh : ∀ item ∈ d.session.incoming, ∀ n, d.ids.drawn < n → item.id ≠ Ids.text n) :
    (intake duty hasIncoming).Yields d
      (fun taken d' => match taken with
        | none => d' = d
        | some original => IsOriginal d (original.map (·.id)) ∧
          Accounts (dequeued d.session) d'.session original.toList [] [] ∧
          ∀ id ∈ original.map (·.id), ∀ n, d'.ids.drawn < n → id ≠ Ids.text n) never := by
  have hstart : Accounts (dequeued d.session) (dequeued d.session) [] [] [] := .start hlive
  unfold intake
  rw [yields_bind, yields_get]
  cases hq : d.session.incoming with
  | nil =>
    have hsame : dequeued d.session = d.session := by
      rw [dequeued, hq, List.tail_nil, ← hq]
    rw [hsame] at hstart ⊢
    simp only [take?, hq, IsOriginal]
    split
    · rfl
    split
    · rw [yields_bind]
      refine (Desk.create_yields hstart (by simp)).mono ?_ fun _ _ => id
      rintro item d' ⟨hid, hd, ha⟩
      refine ⟨?_, ha, ?_⟩
      · rintro _ ⟨⟩
        exact hid
      · rintro _ ⟨⟩ n hn heq
        have := Ids.text_injective (hid.symm.trans heq)
        omega
    · exact ⟨nofun, hstart, nofun⟩
  | cons head rest =>
    have hdeq : dequeued d.session = { d.session with incoming := rest } := by
      rw [dequeued, hq, List.tail_cons]
    simp only [take?, hq, IsOriginal]
    refine ⟨rfl, ?_, ?_⟩
    · rw [← hdeq]
      exact hstart.track (by simp)
    · rintro _ ⟨⟩ n hn
      exact hfresh head (by rw [hq]; exact List.mem_cons_self) n hn

/-- What is said of the cache leaves the items in hand. -/
theorem noteCache_yields (client : Client) (h : InHand base who wanted b) :
    (onDesk (noteCache client)).Yields b (fun _ => InHand base who wanted) never := by
  unfold noteCache
  split
  · rw [yields_onDesk]
    exact h
  · exact h.records (fun _ => rfl) fun d => ⟨d.session.events, rfl⟩

/-- To draw a name for the exchange leaves the items in hand, and later identifiers fresh. -/
theorem drawTransaction_yields (h : InHand base who wanted b) :
    (onDesk drawTransaction).Yields b (fun _ => InHand base who wanted) never := by
  rw [yields_onDesk]
  refine ⟨h.accounts, h.original_id, fun id hid n hn => h.fresh id hid n ?_, h.response_wanted⟩
  exact Nat.lt_of_succ_lt hn

/-- Whatever the network does, a cycle has a result; it changes nothing when there is nothing to do,
and otherwise hands over what it took or created. -/
theorem run_yields (duty : Duty) (chunkSize : Nat) (hasIncoming : Bool) (now : Int)
    (hlive : b.desk.session.live = [])
    (hfresh : ∀ item ∈ b.desk.session.incoming, ∀ n, b.desk.ids.drawn < n → item.id ≠ Ids.text n)
    (hremoval : b.desk.session.refusesRemoval = false) :
    (run duty chunkSize hasIncoming now).Yields b
      (fun result b' => match result with
        | none => b' = b
        | some outcome => ∃ original response : Option WorkItem,
          IsOriginal b.desk (original.map (·.id)) ∧
          Settled (dequeued b.desk.session) b'.desk.session outcome original response) never := by
  unfold run
  rw [yields_bind, yields_onDesk]
  refine (intake_yields duty hasIncoming hlive hfresh).mono (fun taken d ht => ?_) fun _ _ => id
  cases taken with
  | none =>
    obtain rfl : d = b.desk := ht
    rfl
  | some original =>
    obtain ⟨hwho, ha, hids⟩ := ht
    have h : InHand (dequeued b.desk.session) (original.map (·.id)) False
        { b with desk := d, original, response := none } :=
      ⟨by simpa using ha, rfl, hids, nofun⟩
    simp only [yields_bind, yields_modify, yields_get]
    refine (noteCache_yields _ h).mono (fun _ b₁ h => ?_) fun _ _ => id
    refine (drawTransaction_yields h).mono (fun transaction b₂ h => ?_) fun _ _ => id
    rw [yields_attempt]
    refine (exchange_yields duty chunkSize transaction now h).mono ?_ ?_
    · rintro outcome b' ⟨original', response, hid, hs⟩
      exact ⟨original', response, hid ▸ hwho, hs⟩
    · intro fault b₃ h
      simp only [yields_bind, yields_get, yields_onDesk]
      refine (Desk.routeFailure_yields fault h.accounts hremoval).mono ?_ fun _ _ => id
      rintro outcome d' ⟨-, original', hid, hs⟩
      exact ⟨original', b₃.response, (hid.trans h.original_id) ▸ hwho, hs⟩

end Trigger

end HttpCourier
