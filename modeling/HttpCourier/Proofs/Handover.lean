import HttpCourier.Proofs.Attributes
import HttpCourier.Proofs.Routing

/-!
# Handing items over

`Desk.Carries` says what a desk works with: the items in hand, which its session holds, the
transfers so far, and whether a pause was asked for. Under it `Desk.route` and `Desk.routeFailure`
do exactly what `Routing.handover` and `Fault.stamp` say (`route_carries`, `routeFailure_carries`),
also on a session that holds other items or refuses to remove any.
-/

namespace HttpCourier

/-- Whether the original is penalized after an exchange. -/
def Routing.penalizes (routing : Routing) (outcome : Outcome) : Bool :=
  outcome == .retry || (outcome == .noRetry && routing.penalizeNoRetry)

/-- The transfers of a completed exchange. A response that is always wanted leaves before the
original; otherwise it leaves after it, and after a success only. -/
def Routing.handover (routing : Routing) (status : Int) (original response : Option WorkItem) :
    List (Relationship × WorkItem) :=
  let outcome := Outcome.ofStatus status
  let sent := response.toList.map fun item => (Relationship.response, item)
  (if routing.alwaysOutputResponse then sent else [])
    ++ original.toList.map (fun item =>
      (outcome.relationship, if routing.penalizes outcome then item.withPenalty else item))
    ++ if outcome = .success ∧ !routing.alwaysOutputResponse then sent else []

/-- An item that a fault stopped: it is penalized, and says what stopped it. -/
def Fault.stamp (fault : Fault) (item : WorkItem) : WorkItem :=
  item.withPenalty.withAttributes
    [(Desk.faultKindKey, fault.label), (Desk.faultTextKey, fault.message)]

namespace Desk

open Step

/-- What a desk works with: the session holds the items in hand, which are distinct; the transfers
so far; and whether a pause was asked for. -/
structure Carries (transfers : List (Relationship × WorkItem)) (paused : Bool)
    (hand : List WorkItem) (d : Desk) : Prop where
  held : ∀ item ∈ hand, d.session.live.has item.id = true
  nodup : (hand.map (·.id)).Nodup
  transfers_eq : d.session.transfers = transfers
  paused_eq : d.yieldRequested = paused

variable {transfers : List (Relationship × WorkItem)} {paused : Bool} {d : Desk}
  {before after hand : List WorkItem} {item next : WorkItem}

namespace Carries

/-- An item in hand is held. -/
theorem hold (h : Carries transfers paused (before ++ item :: after) d) :
    d.session.hold item = .ok () := by
  rw [Session.hold, if_pos (h.held item (by simp))]

/-- A change that touches neither the held items nor the transfers. -/
theorem congr {d' : Desk} (h : Carries transfers paused hand d)
    (hl : d'.session.live = d.session.live) (ht : d'.session.transfers = d.session.transfers)
    (hy : d'.yieldRequested = d.yieldRequested) : Carries transfers paused hand d' :=
  ⟨by rw [hl]; exact h.held, h.nodup, ht.trans h.transfers_eq, hy.trans h.paused_eq⟩

/-- What is in hand may be left out of account. -/
theorem drop (h : Carries transfers paused hand d) : Carries transfers paused [] d :=
  ⟨nofun, List.nodup_nil, h.transfers_eq, h.paused_eq⟩

end Carries

/-! ## One operation -/

/-- An item in hand gets another version. -/
theorem revise_carries (h : Carries transfers paused (before ++ item :: after) d)
    (hid : next.id = item.id) :
    (revise fun s => s.update item next).Yields d
      (fun a d' => a = next ∧ d'.ids = d.ids ∧
        Carries transfers paused (before ++ next :: after) d') never := by
  have hu : d.session.update item next = .ok (next, d.session.track next) := by
    rw [Session.update, h.hold]
    rfl
  simp only [revise, yields_bind, yields_get, hu, yields_ok, yields_set, yields_pure]
  refine ⟨trivial, trivial, fun other ho => ?_, ?_, h.transfers_eq, h.paused_eq⟩
  · refine OrderedMap.has_set.2 ?_
    by_cases hn : other = next
    · exact .inl (congrArg _ hn)
    · refine .inr (h.held other ?_)
      simp only [List.mem_append, List.mem_cons, hn, false_or] at ho ⊢
      exact ho.imp id .inr
  · have hids := h.nodup
    simp only [List.map_append, List.map_cons] at hids ⊢
    rwa [hid]

/-- An item with a new identifier comes to hand. -/
theorem Carries.track (h : Carries transfers paused hand d) (hn : item.id ∉ hand.map (·.id))
    (ids : Ids) :
    Carries transfers paused (hand ++ [item]) { d with session := d.session.track item, ids } := by
  refine ⟨fun other ho => OrderedMap.has_set.2 ?_, ?_, h.transfers_eq, h.paused_eq⟩
  · rcases List.mem_append.1 ho with ho | ho
    · exact .inr (h.held other ho)
    · exact .inl (by rw [List.mem_singleton.1 ho])
  · rw [List.map_append, List.map_singleton, List.nodup_append]
    refine ⟨h.nodup, List.nodup_singleton _, fun id ha other hb heq => hn ?_⟩
    rw [List.mem_singleton] at hb
    rwa [heq, hb] at ha

/-- A new item, a child of the item in hand if there is one, comes to hand. -/
theorem create_carries {parent : Option WorkItem} (h : Carries transfers paused parent.toList d)
    (hn : ∀ item ∈ parent, item.id ≠ Ids.text (d.ids.drawn + 1)) :
    (parent.elim create createChild).Yields d
      (fun item d' => item = (WorkItem.create d.ids
          (parent.elim [] fun p => p.attributes.erase WorkItem.uuidKey)).1 ∧
        Carries transfers paused (parent.toList ++ [item]) d') never := by
  cases parent with
  | none => exact ⟨rfl, h.track List.not_mem_nil _⟩
  | some parent =>
    have hc : d.session.createChild d.ids parent = .ok ((parent.child d.ids).1,
        d.session.track (parent.child d.ids).1, (parent.child d.ids).2) := by
      have hparent : Carries transfers paused ([] ++ parent :: []) d := h
      have hheld : d.session.hold parent = .ok () := hparent.hold
      rw [Session.createChild, hheld]
      rfl
    simp only [Option.elim_some, createChild, yields_bind, yields_get, hc, yields_ok]
    refine ⟨rfl, h.track ?_ _⟩
    rw [Option.toList_some, List.map_singleton, List.mem_singleton]
    exact (hn parent rfl).symm

/-- An item in hand is transferred. -/
theorem transfer_carries (h : Carries transfers paused (before ++ item :: after) d)
    (r : Relationship) :
    (transfer item r).Yields d
      (fun _ d' => Carries (transfers ++ [(r, item)]) paused (before ++ after) d') never := by
  have ht : d.session.transfer item r = .ok { d.session.release item with
      transfers := d.session.transfers ++ [(r, item)] } := by
    rw [Session.transfer, h.hold]
    rfl
  simp only [transfer, yields_bind, yields_get, ht, yields_ok, yields_set]
  have hids := h.nodup
  rw [List.map_append, List.map_cons] at hids
  have hmid := List.nodup_middle.1 hids
  refine ⟨fun other ho => OrderedMap.has_erase.2 ⟨?_, h.held other ?_⟩, ?_, ?_, h.paused_eq⟩
  · rintro heq
    refine (List.nodup_cons.1 hmid).1 ?_
    rw [← heq, ← List.map_append]
    exact List.mem_map_of_mem ho
  · simp only [List.mem_append, List.mem_cons] at ho ⊢
    exact ho.imp id .inr
  · rw [List.map_append]
    exact (List.nodup_cons.1 hmid).2
  · dsimp only
    rw [h.transfers_eq]

/-- Discarding an item changes nothing that counts, also when the session refuses it. -/
theorem discardResponse_carries (h : Carries transfers paused hand d) (item : WorkItem) :
    (discardResponse item).Yields d (fun _ => Carries transfers paused []) never := by
  have hremove : (remove item).Yields d (fun _ => Carries transfers paused [])
      fun _ => Carries transfers paused [] := by
    simp only [remove, yields_bind, yields_get, yields_ofExcept, yields_set]
    refine ⟨fun session hs => ⟨List.forall_mem_nil _, List.nodup_nil, ?_, h.paused_eq⟩,
      fun _ _ => h.drop⟩
    unfold Session.remove at hs
    split at hs
    case isTrue => cases hs
    case isFalse =>
      obtain ⟨-, -, hs⟩ := ok_of_bind hs
      rw [← Except.ok.inj hs]
      exact h.transfers_eq
  simp only [discardResponse, yields_bind, yields_attempt]
  exact hremove.mono (fun _ _ => id) fun _ _ h => h.congr rfl rfl rfl

/-! ## A completed exchange -/

/-- The response, if there is one, goes to its relationship. -/
theorem transferResponse_carries {response : Option WorkItem}
    (h : Carries transfers paused (before ++ response.toList) d) :
    (transferResponse response).Yields d
      (fun _ => Carries (transfers ++ response.toList.map fun item => (.response, item)) paused before)
      never := by
  cases response with
  | none => simpa [transferResponse] using h
  | some item =>
    have hc : Carries transfers paused (before ++ item :: []) d := h
    have ht := transfer_carries hc .response
    rw [List.append_nil] at ht
    exact ht

/-- The original, penalized if it must be, goes to the relationship of the outcome. -/
theorem transferOriginal_carries (routing : Routing) {outcome : Outcome} (ho : outcome ≠ .failure)
    (h : Carries transfers paused (item :: after) d) :
    (transferOriginal routing outcome item).Yields d
      (fun _ => Carries (transfers ++ [(outcome.relationship,
        if routing.penalizes outcome then item.withPenalty else item)]) paused after) never := by
  have h : Carries transfers paused ([] ++ item :: after) d := h
  have hpenalized : ∀ r, (penalize item >>= fun item => transfer item r).Yields d
      (fun _ => Carries (transfers ++ [(r, item.withPenalty)]) paused after) never := by
    intro r
    rw [yields_bind]
    refine (revise_carries h item.withPenalty_id).mono ?_ fun _ _ => id
    rintro _ d' ⟨rfl, -, hc⟩
    exact transfer_carries hc r
  cases outcome with
  | success => exact transfer_carries h .original
  | retry => exact hpenalized .retry
  | noRetry =>
    simp only [transferOriginal]
    split
    case isTrue hp =>
      have hpen : routing.penalizes .noRetry = true := by simp [Routing.penalizes, hp]
      rw [hpen]
      exact hpenalized .noRetry
    case isFalse hp =>
      have hpen : routing.penalizes .noRetry = false := by simpa [Routing.penalizes] using hp
      rw [hpen]
      exact transfer_carries h .noRetry
  | failure => exact absurd rfl ho

/-- A completed exchange makes the transfers of its handover, and asks for a pause when it did not
succeed and there is no original to come back to. -/
theorem route_carries (routing : Routing) (status : Int) {original response : Option WorkItem}
    (h : Carries transfers paused (original.toList ++ response.toList) d) :
    (route routing status original response).Yields d
      (fun outcome d' => outcome = .ofStatus status ∧
        d'.session.transfers = transfers ++ routing.handover status original response ∧
        d'.yieldRequested = (paused || (decide (outcome ≠ .success) && original.isNone))) never := by
  unfold route
  extract_lets outcome finish sendLate sendOriginal sendEarly
  let post : Outcome → Desk → Prop := fun outcome' d' => outcome' = outcome ∧
    d'.session.transfers = transfers ++ routing.handover status original response ∧
    d'.yieldRequested = (paused || (decide (outcome' ≠ .success) && original.isNone))
  let paused' := paused || (decide (outcome ≠ .success) && original.isNone)
  let sent := response.toList.map fun item => (Relationship.response, item)
  let early := if routing.alwaysOutputResponse then sent else []
  let left := if routing.alwaysOutputResponse then [] else response.toList
  let first := original.toList.map fun item => (outcome.relationship,
    if routing.penalizes outcome then item.withPenalty else item)
  -- what did not leave early leaves at the end, after a success only
  have hlate : ∀ d', Carries (transfers ++ early ++ first) paused' left d' →
      (sendLate ()).Yields d' post never := by
    intro d' hc
    refine yields_if (fun d' : Desk =>
        Carries (transfers ++ routing.handover status original response) paused' [] d')
      ?_ ?_ fun d' hc => ⟨rfl, hc.transfers_eq, hc.paused_eq⟩
    · intro hs
      have hleft : left = [] ++ response.toList := if_neg (by simpa using hs.2)
      have hhand : routing.handover status original response = early ++ first ++ sent :=
        congrArg (early ++ first ++ ·) (if_pos hs)
      rw [hleft] at hc
      rw [hhand, ← List.append_assoc, ← List.append_assoc]
      exact transferResponse_carries hc
    · intro hs
      have hhand : routing.handover status original response = early ++ first ++ [] :=
        congrArg (early ++ first ++ ·) (if_neg hs)
      rw [hhand, List.append_nil, ← List.append_assoc]
      exact hc.drop
  have horiginal : ∀ d', Carries (transfers ++ early) paused' (original.toList ++ left) d' →
      (sendOriginal ()).Yields d' post never := by
    intro d' hc
    cases original with
    | none =>
      rw [← List.append_nil (transfers ++ early)] at hc
      exact hlate d' hc
    | some item =>
      simp only [sendOriginal, yields_bind]
      exact (transferOriginal_carries routing (Outcome.ofStatus_ne_failure status) hc).mono
        (fun _ d'' hc => hlate d'' hc) fun _ _ => id
  have hearly : ∀ d', Carries transfers paused' (original.toList ++ response.toList) d' →
      (sendEarly ()).Yields d' post never := by
    intro d' hc
    refine yields_if
      (fun d' : Desk => Carries (transfers ++ early) paused' (original.toList ++ left) d')
      ?_ ?_ horiginal
    · intro ha
      simp only [early, left, if_pos ha, List.append_nil]
      exact transferResponse_carries hc
    · intro ha
      simp only [early, left, if_neg ha, List.append_nil]
      exact hc
  split
  case isTrue hy =>
    refine hearly _ ⟨h.held, h.nodup, h.transfers_eq, ?_⟩
    simp [paused', hy.1, hy.2]
  case isFalse hy =>
    refine hearly _ ⟨h.held, h.nodup, h.transfers_eq, h.paused_eq.trans ?_⟩
    have hno : (decide (outcome ≠ .success) && original.isNone) = false := by
      rw [← Bool.not_eq_true, Bool.and_eq_true, decide_eq_true_iff]
      exact hy
    simp only [paused', hno, Bool.or_false]

/-- A failed exchange hands the original over with the stamp of its fault, and asks for a pause when
there is none. -/
theorem routeFailure_carries (fault : Fault) {original response : Option WorkItem}
    (h : Carries transfers paused (original.toList ++ response.toList) d) :
    (routeFailure fault original response).Yields d
      (fun outcome d' => outcome = .failure ∧
        d'.session.transfers
          = transfers ++ original.toList.map (fun item => (.failure, fault.stamp item)) ∧
        d'.yieldRequested = (paused || original.isNone)) never := by
  unfold routeFailure
  rw [yields_bind, yields_modify]
  extract_lets finish discard
  have hdiscard : ∀ (d' : Desk) transfers' paused', Carries transfers' paused' response.toList d' →
      (discard ()).Yields d' (fun outcome d' => outcome = .failure ∧
        d'.session.transfers = transfers' ∧ d'.yieldRequested = paused') never := by
    intro d' transfers' paused' hc
    cases response with
    | none => exact ⟨rfl, hc.transfers_eq, hc.paused_eq⟩
    | some item =>
      simp only [discard, yields_bind]
      refine (discardResponse_carries hc item).mono ?_ fun _ _ => id
      exact fun _ d'' hc => ⟨rfl, hc.transfers_eq, hc.paused_eq⟩
  cases original with
  | none =>
    simp only [note, requestYield, yields_bind, yields_modify]
    rw [Option.toList_none, List.map_nil, List.append_nil, Option.isNone_none, Bool.or_true]
    exact hdiscard _ _ _ ⟨h.held, h.nodup, h.transfers_eq, rfl⟩
  | some item =>
    have hc : ∀ d' : Desk, d'.session = d.session → d'.yieldRequested = d.yieldRequested →
        Carries transfers paused ([] ++ item :: response.toList) d' := fun d' hs hy =>
      h.congr (by rw [hs]) (by rw [hs]) hy
    simp only [note, yields_bind, yields_modify]
    refine Yields.mono (revise_carries (hc _ rfl rfl) item.withPenalty_id) ?_ fun _ _ => id
    rintro _ d₁ ⟨rfl, -, hc⟩
    refine Yields.mono (revise_carries hc (WorkItem.withAttributes_id _ _)) ?_ fun _ _ => id
    rintro _ d₂ ⟨rfl, -, hc⟩
    refine (transfer_carries hc .failure).mono ?_ fun _ _ => id
    intro _ d₃ hc
    rw [Option.isNone_some, Bool.or_false]
    exact hdiscard d₃ _ _ hc

end Desk

end HttpCourier
