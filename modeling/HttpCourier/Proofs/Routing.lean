import HttpCourier.Proofs.Accounts
import HttpCourier.Proofs.Step
import HttpCourier.Router

/-!
# Routing

What `Desk.route` and `Desk.routeFailure` do to the accounts of the session: every item in hand
leaves it, the original to the relationship of the outcome and the response to `Response`, or, after
a fault, to the removals.
-/

namespace HttpCourier

/-- The relationship of the original after an exchange. -/
def Outcome.relationship : Outcome → Relationship
  | .success => .original
  | .retry => .retry
  | .noRetry => .noRetry
  | .failure => .failure

/-- A status is never classified as a failure. -/
theorem Outcome.ofStatus_ne_failure (status : Int) : ofStatus status ≠ .failure := by
  unfold ofStatus
  dsimp only
  split
  · nofun
  · split <;> nofun

/-- The two ways to see that a status is one of success agree. -/
theorem Outcome.ofStatus_eq_success {status : Int} :
    ofStatus status = .success ↔ isSuccessStatus status = true := by
  unfold ofStatus isSuccessStatus
  by_cases h : status.fdiv 100 = 2
  · simp [h]
  · simp only [h, if_false, beq_iff_eq, iff_false]
    split <;> nofun

/-- How the items of a cycle left the session: the original went to the relationship of the outcome,
and the response to its own or, after a failure only, to the removals; nothing is left in hand. -/
def Session.Settled (base s : Session) (outcome : Outcome) (original response : Option WorkItem) :
    Prop :=
  ∃ transfers sent removed, Accounts base s [] transfers removed ∧
    transfers.Perm (original.toList.map (fun item => (outcome.relationship, item))
      ++ sent.map fun item => (.response, item)) ∧
    sent ++ removed = response.toList ∧ (removed ≠ [] → outcome = .failure)

namespace Desk

open Step Session

variable {base : Session} {d : Desk} {before after removed : List WorkItem} {item next : WorkItem}
  {transfers : List (Relationship × WorkItem)}

/-! ## One operation -/

/-- An item in hand is given another version. -/
theorem revise_yields (h : Accounts base d.session (before ++ item :: after) transfers removed)
    (hid : next.id = item.id) :
    (revise fun s => s.update item next).Yields d
      (fun a d' => a = next ∧ d'.ids = d.ids ∧
        Accounts base d'.session (before ++ next :: after) transfers removed) never := by
  obtain ⟨s', hs, ha⟩ := h.update hid
  simp only [revise, yields_bind, yields_get, hs, yields_ok, yields_set, yields_pure]
  exact ⟨trivial, trivial, ha⟩

/-- An item in hand is transferred. -/
theorem transfer_yields (h : Accounts base d.session (before ++ item :: after) transfers removed)
    (r : Relationship) :
    (transfer item r).Yields d
      (fun _ d' => Accounts base d'.session (before ++ after) (transfers ++ [(r, item)]) removed)
      never := by
  obtain ⟨s', hs, ha⟩ := h.transfer r
  simp only [transfer, yields_bind, yields_get, hs, yields_ok, yields_set]
  exact ha

/-- An item in hand is removed. -/
theorem remove_yields (h : Accounts base d.session (before ++ item :: after) transfers removed)
    (hr : base.refusesRemoval = false) :
    (remove item).Yields d
      (fun _ d' => Accounts base d'.session (before ++ after) transfers (removed ++ [item]))
      never := by
  obtain ⟨s', hs, ha⟩ := h.remove hr
  simp only [remove, yields_bind, yields_get, hs, yields_ok, yields_set]
  exact ha

/-- A new item comes to hand, with the next identifier of the supply. -/
theorem create_yields {hand : List WorkItem} (h : Accounts base d.session hand transfers removed)
    (hn : Ids.text (d.ids.drawn + 1) ∉
      (hand ++ (transfers.map Prod.snd ++ removed)).map (·.id)) :
    create.Yields d
      (fun item d' => item.id = Ids.text (d.ids.drawn + 1) ∧ d'.ids.drawn = d.ids.drawn + 1 ∧
        Accounts base d'.session (hand ++ [item]) transfers removed) never :=
  ⟨rfl, rfl, h.track hn⟩

/-- A new item that inherits from an item in hand comes to hand. -/
theorem createChild_yields
    (h : Accounts base d.session (before ++ item :: after) transfers removed)
    (hn : Ids.text (d.ids.drawn + 1) ∉
      (before ++ item :: after ++ (transfers.map Prod.snd ++ removed)).map (·.id)) :
    (createChild item).Yields d
      (fun child d' => child.id = Ids.text (d.ids.drawn + 1) ∧ d'.ids.drawn = d.ids.drawn + 1 ∧
        Accounts base d'.session (before ++ item :: after ++ [child]) transfers removed) never := by
  have hc : d.session.createChild d.ids item = .ok ((item.child d.ids).1,
      d.session.track (item.child d.ids).1, (item.child d.ids).2) := by
    rw [Session.createChild, h.hold]
    rfl
  simp only [createChild, yields_bind, yields_get, hc, yields_ok]
  exact ⟨rfl, rfl, h.track hn⟩

/-! ## A completed exchange -/

/-- The response, if there is one, goes to its relationship. -/
theorem transferResponse_yields {response : Option WorkItem}
    (h : Accounts base d.session (before ++ response.toList) transfers removed) :
    (transferResponse response).Yields d
      (fun _ d' => Accounts base d'.session before
        (transfers ++ response.toList.map fun item => (.response, item)) removed) never := by
  cases response with
  | none => simpa [transferResponse] using h
  | some item =>
    rw [Option.toList_some] at h
    have ht := transfer_yields h .response
    rw [List.append_nil] at ht
    exact ht

/-- The original goes to the relationship of the outcome. -/
theorem transferOriginal_yields (routing : Routing) {outcome : Outcome} (ho : outcome ≠ .failure)
    (h : Accounts base d.session (item :: after) transfers removed) :
    (transferOriginal routing outcome item).Yields d
      (fun _ d' => ∃ item' : WorkItem, item'.id = item.id ∧
        Accounts base d'.session after (transfers ++ [(outcome.relationship, item')]) removed)
      never := by
  have h : Accounts base d.session ([] ++ item :: after) transfers removed := h
  have hplain : ∀ r, (transfer item r).Yields d
      (fun _ d' => ∃ item' : WorkItem, item'.id = item.id ∧
        Accounts base d'.session after (transfers ++ [(r, item')]) removed) never := fun r =>
    (transfer_yields h r).mono (fun _ _ ha => ⟨item, rfl, ha⟩) fun _ _ => id
  have hpenalized : ∀ r, (penalize item >>= fun item => transfer item r).Yields d
      (fun _ d' => ∃ item' : WorkItem, item'.id = item.id ∧
        Accounts base d'.session after (transfers ++ [(r, item')]) removed) never := by
    intro r
    rw [yields_bind]
    refine (revise_yields h item.withPenalty_id).mono ?_ fun _ _ => id
    rintro _ d' ⟨rfl, -, ha⟩
    exact (transfer_yields ha r).mono (fun _ _ ha => ⟨item.withPenalty, rfl, ha⟩) fun _ _ => id
  cases outcome with
  | success => exact hplain .original
  | retry => exact hpenalized .retry
  | noRetry =>
    simp only [transferOriginal]
    split
    · exact hpenalized .noRetry
    · exact hplain .noRetry
  | failure => exact absurd rfl ho

/-- A completed exchange hands over the items in hand: the original to the relationship of the
outcome, and the response to its own. A response is there only for those who want it. -/
theorem route_yields (routing : Routing) (status : Int) {original response : Option WorkItem}
    (h : Accounts base d.session (original.toList ++ response.toList) [] [])
    (hr : response.isSome → routing.alwaysOutputResponse = true ∨
      Outcome.isSuccessStatus status = true) :
    (route routing status original response).Yields d
      (fun outcome d' => ∃ original' : Option WorkItem, original'.map (·.id) = original.map (·.id) ∧
        Settled base d'.session outcome original' response) never := by
  -- the response leaves before the original when it is always wanted, and after it otherwise
  let early : List WorkItem := if routing.alwaysOutputResponse then response.toList else []
  let late : List WorkItem := if routing.alwaysOutputResponse then [] else response.toList
  have hperm : ((early.map fun item => (Relationship.response, item))
      ++ late.map fun item => (.response, item))
      = response.toList.map fun item => (.response, item) := by
    rw [← List.map_append]
    congr 1
    simp only [early, late]
    split <;> simp
  unfold route
  extract_lets outcome finish sendLate sendOriginal sendEarly
  have hlate : ∀ (d' : Desk) transfers, Accounts base d'.session late transfers [] →
      (sendLate ()).Yields d' (fun outcome' d' => outcome' = outcome ∧
        Accounts base d'.session [] (transfers ++ late.map fun item => (.response, item)) [])
        never := by
    intro d' transfers ha
    refine yields_if (fun d' : Desk => Accounts base d'.session []
      (transfers ++ late.map fun item => (.response, item)) []) ?_ ?_ fun _ ha => ⟨rfl, ha⟩
    · rintro ⟨-, hno⟩
      have hl : late = response.toList := if_neg (by simpa using hno)
      rw [hl] at ha ⊢
      exact transferResponse_yields ha
    · intro hno
      have hl : late = [] := by
        by_cases hw : routing.alwaysOutputResponse = true
        · exact if_pos hw
        · have hs : Outcome.isSuccessStatus status ≠ true := fun hs =>
            hno ⟨Outcome.ofStatus_eq_success.2 hs, by simpa using hw⟩
          cases response with
          | none => simp [late]
          | some item => exact absurd (hr rfl) (by simp [hw, hs])
      rw [hl] at ha ⊢
      simpa using ha
  have horiginal : ∀ d' : Desk, Accounts base d'.session (original.toList ++ late)
      (early.map fun item => (.response, item)) [] →
      (sendOriginal ()).Yields d' (fun outcome d' =>
        ∃ original' : Option WorkItem, original'.map (·.id) = original.map (·.id) ∧
          Settled base d'.session outcome original' response) never := by
    intro d' ha
    cases original with
    | none =>
      refine (hlate d' _ ha).mono ?_ fun _ _ => id
      rintro _ d'' ⟨rfl, ha⟩
      rw [hperm] at ha
      exact ⟨none, rfl, _, response.toList, [], ha, .refl _, List.append_nil _, nofun⟩
    | some item =>
      simp only [sendOriginal, yields_bind]
      refine (transferOriginal_yields routing (Outcome.ofStatus_ne_failure status) ha).mono ?_
        fun _ _ => id
      rintro _ d₃ ⟨item', hid, ha⟩
      refine (hlate d₃ _ ha).mono ?_ fun _ _ => id
      rintro _ d'' ⟨rfl, ha⟩
      refine ⟨some item', congrArg some hid, _, response.toList, [], ha, ?_, List.append_nil _,
        nofun⟩
      rw [List.append_assoc, List.singleton_append]
      refine List.perm_middle.trans ?_
      rw [hperm]
      exact .refl _
  have hearly : ∀ d' : Desk, d'.session = d.session → (sendEarly ()).Yields d'
      (fun outcome d' =>
        ∃ original' : Option WorkItem, original'.map (·.id) = original.map (·.id) ∧
          Settled base d'.session outcome original' response) never := by
    intro d' hd
    refine yields_if (fun d' : Desk => Accounts base d'.session (original.toList ++ late)
      (early.map fun item => (.response, item)) []) ?_ ?_ horiginal
    · intro ha
      simp only [late, early, ha, if_true, List.append_nil]
      exact transferResponse_yields (hd ▸ h)
    · intro ha
      simp only [late, early, if_neg ha]
      rw [hd]
      exact h
  split
  · exact hearly _ rfl
  · exact hearly _ rfl

/-- The response of an exchange that failed is removed. -/
theorem discardResponse_yields
    (h : Accounts base d.session (before ++ item :: after) transfers removed)
    (hr : base.refusesRemoval = false) :
    (discardResponse item).Yields d
      (fun _ d' => Accounts base d'.session (before ++ after) transfers (removed ++ [item]))
      never := by
  simp only [discardResponse, yields_bind, yields_attempt]
  exact (remove_yields h hr).mono (fun _ _ => id) fun _ _ => False.elim

/-- A failed exchange hands over the original to `Failure`, and removes the response. -/
theorem routeFailure_yields (fault : Fault) {original response : Option WorkItem}
    (h : Accounts base d.session (original.toList ++ response.toList) [] [])
    (hr : base.refusesRemoval = false) :
    (routeFailure fault original response).Yields d
      (fun outcome d' => outcome = .failure ∧
        ∃ original' : Option WorkItem, original'.map (·.id) = original.map (·.id) ∧
          Settled base d'.session outcome original' response) never := by
  unfold routeFailure
  rw [yields_bind, yields_modify]
  extract_lets finish discard
  have hdiscard : ∀ (d' : Desk) (original' : Option WorkItem),
      Accounts base d'.session response.toList
        (original'.toList.map fun item => (.failure, item)) [] →
      (discard ()).Yields d' (fun outcome d' => outcome = .failure ∧
        Settled base d'.session outcome original' response) never := by
    intro d' original' ha
    cases response with
    | none => exact ⟨rfl, _, [], [], ha, by simp [Outcome.relationship], rfl, nofun⟩
    | some item =>
      have ha : Accounts base d'.session ([] ++ item :: []) _ _ := ha
      simp only [discard, yields_bind]
      refine (discardResponse_yields ha hr).mono ?_ fun _ _ => id
      intro _ d'' ha
      exact ⟨rfl, _, [], [item], ha, by simp [Outcome.relationship], rfl, fun _ => rfl⟩
  cases original with
  | none =>
    simp only [note, requestYield, yields_bind, yields_modify]
    refine Yields.mono (hdiscard _ none ?_) ?_ fun _ _ => id
    · exact h
    · exact fun _ _ ho => ⟨ho.1, none, rfl, ho.2⟩
  | some item =>
    have ha : ∀ d' : Desk, d'.session = d.session →
        Accounts base d'.session ([] ++ item :: response.toList) [] [] := fun d' hd => hd ▸ h
    simp only [note, yields_bind, yields_modify]
    refine Yields.mono (revise_yields (ha _ rfl) item.withPenalty_id) ?_ fun _ _ => id
    rintro _ d₁ ⟨rfl, -, ha⟩
    refine Yields.mono (revise_yields ha (WorkItem.withAttributes_id _ _)) ?_ fun _ _ => id
    rintro _ d₂ ⟨rfl, -, ha⟩
    refine (transfer_yields ha .failure).mono ?_ fun _ _ => id
    intro _ d₃ ha
    refine (hdiscard d₃ (some _) ha).mono ?_ fun _ _ => id
    exact fun _ _ ho => ⟨ho.1, _, by simp, ho.2⟩

end Desk

end HttpCourier
