import HttpCourier.Proofs.Accounts
import HttpCourier.Proofs.Step
import HttpCourier.Router

/-!
# Items pass through a session once

A session may be called in any order, with any version of any item (`Session.Call`). A `Register` is
the desk that the calls are made on, with the identifiers that were admitted to its session: those
of the items that were taken from the queue or created. `Register.Linear` says that an identifier is
at one place only: in the queue, live, transferred or removed. An identifier moves in three ways
(`Linear.admit`, `Linear.revise`, `Linear.release`); every call is one of them or changes nothing
(`Linear.step`), and so the invariant holds after every run (`linear_after_calls`).
-/

namespace HttpCourier

open Step

namespace Session

/-- A call of a session, with whatever item the caller has. -/
inductive Call where
  | take
  | create
  | createChild (parent : WorkItem)
  | putAttributes (item : WorkItem) (updates : List (String × String))
  | importContent (item : WorkItem) (content : Bytes)
  | penalize (item : WorkItem)
  | transfer (item : WorkItem) (r : Relationship)
  | remove (item : WorkItem)

namespace Call

/-- The item that a call is made with. -/
def item? : Call → Option WorkItem
  | take | create => none
  | createChild item | putAttributes item _ | importContent item _ | penalize item | transfer item _
  | remove item => some item

/-- What a call does on a desk, and the item that it gives. -/
def perform : Call → Step Desk (Option WorkItem)
  | take => do
    let d ← get
    let (item, session) := d.session.take?
    set { d with session }
    return item
  | create => some <$> Desk.create
  | createChild parent => some <$> Desk.createChild parent
  | putAttributes item updates => some <$> Desk.putAttributes item updates
  | importContent item content => some <$> Desk.importContent item content
  | penalize item => some <$> Desk.penalize item
  | transfer item r => do
    Desk.transfer item r
    return none
  | remove item => do
    Desk.remove item
    return none

/-- The identifier that a call admits: that of the item it took or created. -/
def admitted? : Call → Except Fault (Option WorkItem) → Option String
  | take, .ok item | create, .ok item | createChild _, .ok item => item.map (·.id)
  | _, _ => none

end Call

/-- A desk with the identifiers that were admitted to its session, in order. -/
structure Register where
  desk : Desk
  admitted : List String := []

namespace Register

/-- One call; its fault, if it ends in one, is the caller's. -/
def step (r : Register) (call : Call) : Register :=
  let (result, desk) := Step.on r.desk call.perform
  { desk, admitted := r.admitted ++ (call.admitted? result).toList }

/-- The identifiers of some items. -/
abbrev idsOf (items : List WorkItem) : List String := items.map (·.id)

/-- The identifiers of the items that a session has let in: live, transferred and removed. -/
def within (s : Session) : List String :=
  idsOf s.unaccounted ++ (idsOf (s.transfers.map Prod.snd) ++ idsOf s.removed)

/-- Every identifier is at one place, and those that were admitted are live, transferred or
removed. -/
structure Linear (r : Register) : Prop where
  /-- The session knows its live items by their identifiers. -/
  live_eq : r.desk.session.live = tagged r.desk.session.unaccounted
  nodup : (idsOf r.desk.session.incoming ++ within r.desk.session).Nodup
  admitted_perm : r.admitted.Perm (within r.desk.session)
  /-- The supply gives none of the identifiers again. -/
  fresh : ∀ id ∈ idsOf r.desk.session.incoming ++ within r.desk.session,
    ∀ n, r.desk.ids.drawn < n → id ≠ Ids.text n
  removes : r.desk.session.refusesRemoval = false

/-! ## Three ways to move an identifier -/

/-- Of a session that knows its live items by their identifiers, these are the ones not accounted
for. -/
theorem unaccounted_of_live {s : Session} {hand : List WorkItem} (h : s.live = tagged hand) :
    s.unaccounted = hand := by
  rw [unaccounted, h, tagged, List.map_map]
  exact List.map_id hand

variable {r : Register} {item next : WorkItem} {desk : Desk}

/-- A live identifier is that of a live item. -/
theorem Linear.exists_live (h : r.Linear) (hm : item.id ∈ idsOf r.desk.session.unaccounted) :
    ∃ before live after, r.desk.session.unaccounted = before ++ live :: after ∧
      live.id = item.id ∧ item.id ∉ idsOf before := by
  obtain ⟨live, hlive, hid⟩ := List.mem_map.1 hm
  obtain ⟨before, after, heq⟩ := List.append_of_mem hlive
  refine ⟨before, live, after, heq, hid, fun hb => ?_⟩
  have hnd := (List.nodup_append.1 (List.nodup_append.1 h.nodup).2.1).1
  rw [heq, idsOf, List.map_append, List.map_cons] at hnd
  exact (List.nodup_append.1 hnd).2.2 _ hb _ List.mem_cons_self hid.symm

/-- An identifier that is at no place becomes live; the queue may get shorter. -/
theorem Linear.admit (h : r.Linear) {rest : List WorkItem} {ids : Ids}
    (hrest : rest.Sublist r.desk.session.incoming)
    (hnew : item.id ∉ idsOf rest ++ within r.desk.session)
    (hids : r.desk.ids.drawn ≤ ids.drawn) (hused : ∀ n, ids.drawn < n → item.id ≠ Ids.text n)
    (hs : desk.session = { r.desk.session with incoming := rest }.track item)
    (hi : desk.ids = ids) : Linear { desk, admitted := r.admitted ++ [item.id] } := by
  have hnot : item.id ∉ idsOf r.desk.session.unaccounted := fun hm =>
    hnew (List.mem_append_right _ (List.mem_append_left _ hm))
  have hlive : desk.session.live = tagged (r.desk.session.unaccounted ++ [item]) := by
    rw [hs, Session.track]
    dsimp only
    rw [h.live_eq, set_tagged_of_notMem hnot]
  have hin : within desk.session = idsOf r.desk.session.unaccounted ++ item.id ::
      (idsOf (r.desk.session.transfers.map Prod.snd) ++ idsOf r.desk.session.removed) := by
    rw [within, unaccounted_of_live hlive, hs]
    simp [Session.track]
  have hperm : (within desk.session).Perm (item.id :: within r.desk.session) :=
    hin ▸ List.perm_middle
  have hqueue : desk.session.incoming = rest := by rw [hs]; rfl
  have hall : (idsOf desk.session.incoming ++ within desk.session).Perm
      (item.id :: (idsOf rest ++ within r.desk.session)) := by
    rw [hqueue]
    exact (hperm.append_left _).trans List.perm_middle
  have hsub : (idsOf rest ++ within r.desk.session).Sublist
      (idsOf r.desk.session.incoming ++ within r.desk.session) :=
    (hrest.map _).append_right _
  refine ⟨?_, ?_, ?_, ?_, ?_⟩
  · rw [unaccounted_of_live hlive]
    exact hlive
  · exact hall.nodup_iff.2 (List.nodup_cons.2 ⟨hnew, h.nodup.sublist hsub⟩)
  · exact (List.perm_append_singleton _ _).trans ((h.admitted_perm.cons _).trans hperm.symm)
  · intro id hm n hn
    rw [hi] at hn
    rcases List.mem_cons.1 (hall.mem_iff.1 hm) with rfl | hm
    · exact hused n hn
    · exact h.fresh id (hsub.subset hm) n (Nat.lt_of_le_of_lt hids hn)
  · rw [hs]
    exact h.removes

/-- A live identifier gets another version of its item. -/
theorem Linear.revise (h : r.Linear) (hm : item.id ∈ idsOf r.desk.session.unaccounted)
    (hid : next.id = item.id) (hs : desk.session = r.desk.session.track next)
    (hi : desk.ids = r.desk.ids) : Linear { r with desk } := by
  obtain ⟨before, live, after, heq, hlid, hb⟩ := h.exists_live hm
  have hlive : desk.session.live = tagged (before ++ next :: after) := by
    rw [hs, Session.track]
    dsimp only
    rw [h.live_eq, heq]
    exact set_tagged (hid.trans hlid.symm) (hlid ▸ hb)
  have hin : within desk.session = within r.desk.session := by
    rw [within, within, unaccounted_of_live hlive, heq, hs]
    simp [Session.track, hid, hlid]
  have hqueue : desk.session.incoming = r.desk.session.incoming := by rw [hs]; rfl
  refine ⟨?_, ?_, ?_, ?_, ?_⟩
  · rw [unaccounted_of_live hlive]
    exact hlive
  · rw [hqueue, hin]
    exact h.nodup
  · rw [hin]
    exact h.admitted_perm
  · rw [hqueue, hin, hi]
    exact h.fresh
  · rw [hs]
    exact h.removes

/-- A live identifier goes to the transfers or to the removals, in the version that is handed in. -/
theorem Linear.release (h : r.Linear) (hm : item.id ∈ idsOf r.desk.session.unaccounted)
    {transfers : List (Relationship × WorkItem)} {removed : List WorkItem}
    (hp : (idsOf (transfers.map Prod.snd) ++ idsOf removed).Perm
      (item.id :: (idsOf (r.desk.session.transfers.map Prod.snd) ++ idsOf r.desk.session.removed)))
    (hs : desk.session = { r.desk.session.release item with transfers, removed })
    (hi : desk.ids = r.desk.ids) : Linear { r with desk } := by
  obtain ⟨before, live, after, heq, hlid, -⟩ := h.exists_live hm
  have hnd : (idsOf (before ++ live :: after)).Nodup :=
    heq ▸ (List.nodup_append.1 (List.nodup_append.1 h.nodup).2.1).1
  have hlive : desk.session.live = tagged (before ++ after) := by
    rw [hs, Session.release]
    dsimp only
    rw [h.live_eq, heq, ← hlid]
    exact erase_tagged hnd
  have hout : within r.desk.session = idsOf before ++ item.id :: (idsOf after ++
      (idsOf (r.desk.session.transfers.map Prod.snd) ++ idsOf r.desk.session.removed)) := by
    rw [within, heq]
    simp [hlid]
  have hleft : within desk.session
      = idsOf before ++ (idsOf after ++ (idsOf (transfers.map Prod.snd) ++ idsOf removed)) := by
    rw [within, unaccounted_of_live hlive, hs]
    simp
  have hin : (within desk.session).Perm (within r.desk.session) := by
    rw [hout, hleft]
    exact .append_left _ ((hp.append_left _).trans List.perm_middle)
  have hqueue : desk.session.incoming = r.desk.session.incoming := by rw [hs]; rfl
  refine ⟨?_, ?_, ?_, ?_, ?_⟩
  · rw [unaccounted_of_live hlive]
    exact hlive
  · rw [hqueue, (hin.append_left _).nodup_iff]
    exact h.nodup
  · exact h.admitted_perm.trans hin.symm
  · rw [hqueue, hi]
    exact fun id hm => h.fresh id ((hin.append_left _).mem_iff.1 hm)
  · rw [hs]
    exact h.removes

/-! ## One call -/

/-- What comes after the check of an item: its identifier is live, or it is not held. -/
theorem Linear.checked (h : r.Linear) (item : WorkItem) {α : Type} {a : α}
    {post : α → Desk → Prop} {fail : Fault → Desk → Prop}
    (hlive : item.id ∈ idsOf r.desk.session.unaccounted → post a r.desk)
    (hnot : item.id ∉ idsOf r.desk.session.unaccounted → fail (.notHeld item.id) r.desk) :
    (ofExcept (r.desk.session.hold item >>= fun _ => .ok a)).Yields r.desk post fail := by
  rw [Session.hold, h.live_eq]
  by_cases hm : item.id ∈ idsOf r.desk.session.unaccounted
  · rw [if_pos (has_tagged.2 hm)]
    exact hlive hm
  · rw [if_neg fun ht => hm (has_tagged.1 ht)]
    exact hnot hm

/-- How a call ends. It succeeds when the item it is made with is live, and keeps the identifiers at
one place each; otherwise it says that the item is not held, and changes nothing. -/
def Ends (r : Register) (call : Call) : Prop :=
  call.perform.Yields r.desk
    (fun item desk => (∀ item ∈ call.item?, item.id ∈ idsOf r.desk.session.unaccounted) ∧
      Linear { desk, admitted := r.admitted ++ (call.admitted? (.ok item)).toList })
    fun fault desk => ∃ item ∈ call.item?, item.id ∉ idsOf r.desk.session.unaccounted ∧
      fault = .notHeld item.id ∧ desk = r.desk

/-- The head of the queue is taken into the live items. -/
theorem Linear.take_ends (h : r.Linear) : r.Ends .take := by
  unfold Ends Call.perform
  rw [yields_bind, yields_get]
  cases hq : r.desk.session.incoming with
  | nil =>
    have ht : r.desk.session.take? = (none, r.desk.session) := by rw [take?, hq]
    simp only [ht, yields_bind, yields_set, yields_pure]
    refine ⟨fun _ hitem => absurd hitem (Option.not_mem_none _), ?_⟩
    rw [Call.admitted?, Option.map_none, Option.toList_none, List.append_nil]
    exact h
  | cons head rest =>
    have ht : r.desk.session.take?
        = (some head, { r.desk.session with incoming := rest }.track head) := by rw [take?, hq]
    have hnd := h.nodup
    have hfresh := h.fresh
    rw [hq, idsOf, List.map_cons, List.cons_append] at hnd hfresh
    simp only [ht, yields_bind, yields_set, yields_pure]
    exact ⟨fun _ hitem => absurd hitem (Option.not_mem_none _),
      h.admit (hq ▸ List.sublist_cons_self head rest) (List.nodup_cons.1 hnd).1
      (Nat.le_refl _) (hfresh _ List.mem_cons_self) rfl rfl⟩

/-- The item of the next identifier of the supply is new. -/
theorem Linear.notMem_next (h : r.Linear) :
    Ids.text (r.desk.ids.drawn + 1) ∉
      idsOf r.desk.session.incoming ++ within r.desk.session := fun hm =>
  h.fresh _ hm _ (Nat.lt_succ_self _) rfl

/-- Identifiers drawn at different times are different. -/
theorem text_ne_of_lt {m n : Nat} (h : m < n) : Ids.text m ≠ Ids.text n := fun heq =>
  absurd (Ids.text_injective heq) (Nat.ne_of_lt h)

/-- A new item is live under an identifier that nobody had. -/
theorem Linear.create_ends (h : r.Linear) : r.Ends .create := by
  unfold Ends Call.perform
  rw [yields_map]
  refine ⟨nofun, h.admit (List.Sublist.refl _) h.notMem_next (Nat.le_succ _) ?_ rfl rfl⟩
  exact fun n hn => text_ne_of_lt hn

/-- A child is live under an identifier that nobody had, if its parent is live. -/
theorem Linear.createChild_ends (h : r.Linear) (parent : WorkItem) :
    r.Ends (.createChild parent) := by
  unfold Ends Call.perform
  simp only [Desk.createChild, yields_map, yields_bind, yields_get]
  refine h.checked parent (fun hm => ?_) fun hm => ⟨parent, rfl, hm, rfl, rfl⟩
  refine ⟨?_, h.admit (List.Sublist.refl _) h.notMem_next (Nat.le_succ _) ?_ rfl rfl⟩
  · rintro _ ⟨⟩
    exact hm
  · exact fun n hn => text_ne_of_lt hn

/-- A call that gives a live item another version. -/
theorem Linear.revise_ends (h : r.Linear) {call : Call} (hcall : call.item? = some item)
    (hadmits : ∀ result, call.admitted? result = none) (hid : next.id = item.id)
    (hp : call.perform = some <$> Desk.revise fun s => s.update item next) : r.Ends call := by
  unfold Ends
  simp only [hp, hcall, hadmits, Option.toList_none, List.append_nil]
  simp only [Desk.revise, yields_map, yields_bind, yields_get]
  refine h.checked item (fun hm => ⟨?_, h.revise hm hid rfl rfl⟩)
    fun hm => ⟨item, rfl, hm, rfl, rfl⟩
  rintro _ ⟨⟩
  exact hm

/-- A live item is live no more once it is transferred. -/
theorem Linear.transfer_ends (h : r.Linear) (item : WorkItem) (relationship : Relationship) :
    r.Ends (.transfer item relationship) := by
  unfold Ends Call.perform
  simp only [Desk.transfer, yields_bind, yields_get]
  refine h.checked item (fun hm => ⟨?_, ?_⟩) fun hm => ⟨item, rfl, hm, rfl, rfl⟩
  · rintro _ ⟨⟩
    exact hm
  · simp only [Call.admitted?, Option.toList_none, List.append_nil]
    refine h.release hm ?_ rfl rfl
    simp only [idsOf, List.map_append, List.append_assoc, List.map_cons, List.map_nil]
    exact List.perm_middle

/-- A live item is live no more once it is removed. -/
theorem Linear.remove_ends (h : r.Linear) (item : WorkItem) : r.Ends (.remove item) := by
  have hremove : r.desk.session.remove item = r.desk.session.hold item >>= fun _ =>
      .ok { r.desk.session.release item with removed := r.desk.session.removed ++ [item] } := by
    rw [remove, h.removes]
    rfl
  unfold Ends Call.perform
  simp only [Desk.remove, yields_bind, yields_get]
  rw [hremove]
  refine h.checked item (fun hm => ⟨?_, ?_⟩) fun hm => ⟨item, rfl, hm, rfl, rfl⟩
  · rintro _ ⟨⟩
    exact hm
  · simp only [Call.admitted?, Option.toList_none, List.append_nil]
    refine h.release hm ?_ rfl rfl
    rw [idsOf, idsOf, List.map_append, ← List.append_assoc]
    exact List.perm_append_singleton _ _

/-- Every call ends so. -/
theorem Linear.ends (h : r.Linear) (call : Call) : r.Ends call := by
  cases call with
  | take => exact h.take_ends
  | create => exact h.create_ends
  | createChild parent => exact h.createChild_ends parent
  | putAttributes item updates =>
    exact h.revise_ends rfl (fun _ => rfl) (item.withAttributes_id updates) rfl
  | importContent item content =>
    exact h.revise_ends rfl (fun _ => rfl) (item.withContent_id content) rfl
  | penalize item => exact h.revise_ends rfl (fun _ => rfl) item.withPenalty_id rfl
  | transfer item relationship => exact h.transfer_ends item relationship
  | remove item => exact h.remove_ends item

/-- A call keeps the identifiers at one place each. -/
theorem Linear.step (h : r.Linear) (call : Call) : (r.step call).Linear := by
  have hends : call.perform.Yields r.desk _ _ := h.ends call
  refine Yields.both (fun result desk =>
    Linear { desk, admitted := r.admitted ++ (call.admitted? result).toList }) ?_
  refine hends.mono (fun item desk hl => hl.2) ?_
  rintro fault desk ⟨item, -, -, -, rfl⟩
  have hnone : call.admitted? (.error fault) = none := by cases call <;> rfl
  rw [hnone, Option.toList_none, List.append_nil]
  exact h

/-! ## Runs -/

/-- A sequence of calls on a session with a queue of items. -/
def run (items : List WorkItem) (ids : Ids) (calls : List Call) : Register :=
  calls.foldl step { desk := { session := { incoming := items }, ids } }

/-- A new session has its identifiers in the queue. -/
theorem linear_new {items : List WorkItem} {ids : Ids} (hd : (idsOf items).Nodup)
    (hf : ∀ item ∈ items, ∀ n, ids.drawn < n → item.id ≠ Ids.text n) :
    Linear { desk := { session := { incoming := items }, ids } } where
  live_eq := rfl
  nodup := by simpa [within, unaccounted] using hd
  admitted_perm := List.Perm.refl _
  fresh id hm := by
    simp only [within, unaccounted, List.map_nil, List.append_nil] at hm
    obtain ⟨item, hi, rfl⟩ := List.mem_map.1 hm
    exact hf item hi
  removes := rfl

/-- Every identifier is at one place after any calls, by induction on them. -/
theorem Linear.run {items : List WorkItem} {ids : Ids} (calls : List Call)
    (hd : (idsOf items).Nodup)
    (hf : ∀ item ∈ items, ∀ n, ids.drawn < n → item.id ≠ Ids.text n) :
    (run items ids calls).Linear := by
  suffices h : ∀ r : Register, r.Linear → (calls.foldl Register.step r).Linear from
    h _ (linear_new hd hf)
  induction calls with
  | nil => exact fun _ => id
  | cons call calls ih => exact fun r h => ih _ (h.step call)

/-- A call with an item that is not live faults and changes nothing. -/
theorem Linear.refused (h : r.Linear) {call : Call} (hc : call.item? = some item)
    (hm : item.id ∉ idsOf r.desk.session.unaccounted) :
    Step.on r.desk call.perform = (.error (.notHeld item.id), r.desk) := by
  obtain ⟨hok, herror⟩ := yields_iff.1 (h.ends call)
  rcases hon : Step.on r.desk call.perform with ⟨fault | result, desk⟩
  · obtain ⟨item', hc', -, rfl, rfl⟩ := herror fault desk hon
    rw [hc, Option.mem_some_iff] at hc'
    rw [hc']
  · exact (hm ((hok result desk hon).1 item hc)).elim

/-- A call with a live item, or with none, has a result. -/
theorem Linear.accepted (h : r.Linear) {call : Call}
    (hc : ∀ item ∈ call.item?, item.id ∈ idsOf r.desk.session.unaccounted) :
    ∃ result desk, Step.on r.desk call.perform = (.ok result, desk) := by
  obtain ⟨-, herror⟩ := yields_iff.1 (h.ends call)
  rcases hon : Step.on r.desk call.perform with ⟨fault | result, desk⟩
  · obtain ⟨item, hi, hm, -, -⟩ := herror fault desk hon
    exact (hm (hc item hi)).elim
  · exact ⟨result, desk, rfl⟩

/-- After any calls, with any items, on a session whose queue has distinct identifiers that the
supply does not give: no identifier is queued, live, transferred or removed twice, or at two of
these places; those that were admitted are exactly the ones that are live, transferred or removed,
once each; a further call with an item that is not live ends in a `ValueError` that names the item,
and leaves the session and the supply as they were; and every other call has a result. -/
theorem linear_after_calls {items : List WorkItem} {ids : Ids} (calls : List Call)
    (distinct : (idsOf items).Nodup)
    (fresh : ∀ item ∈ items, ∀ n, ids.drawn < n → item.id ≠ Ids.text n) :
    let r := run items ids calls
    let s := r.desk.session
    s.live.map Prod.fst = idsOf s.unaccounted ∧
    (idsOf s.incoming ++ (idsOf s.unaccounted ++
      (idsOf (s.transfers.map Prod.snd) ++ idsOf s.removed))).Nodup ∧
    r.admitted.Perm (idsOf s.unaccounted ++
      (idsOf (s.transfers.map Prod.snd) ++ idsOf s.removed)) ∧
    (∀ call : Call, ∀ item ∈ call.item?, item.id ∉ s.live.map Prod.fst →
      ∃ fault : Fault, fault.label = "ValueError" ∧
        fault.message = "Work item " ++ item.id ++ " is not held by this session" ∧
        Step.on r.desk call.perform = (.error fault, r.desk)) ∧
    ∀ call : Call, (∀ item ∈ call.item?, item.id ∈ s.live.map Prod.fst) →
      ∃ result desk, Step.on r.desk call.perform = (.ok result, desk) := by
  intro r s
  have h : r.Linear := Linear.run calls distinct fresh
  have hkeys : s.live.map Prod.fst = idsOf s.unaccounted := by
    rw [h.live_eq, tagged, List.map_map]
    rfl
  refine ⟨hkeys, h.nodup, h.admitted_perm, ?_, ?_⟩
  · intro call item hc hm
    exact ⟨.notHeld item.id, rfl, rfl, h.refused hc (hkeys ▸ hm)⟩
  · intro call hc
    exact h.accepted (hkeys ▸ hc)

/-- An item that was handed over and is then removed in the version that was taken: the second call
is refused. -/
theorem linear_after_calls_twoItems :
    let items : List WorkItem := [{ id := "first" }, { id := "second" }]
    let r := run items {} [.take, .create, .transfer { id := "first" } .original]
    (idsOf items).Nodup ∧
    (∀ item ∈ items, ∀ n, 0 < n → item.id ≠ Ids.text n) ∧
    idsOf r.desk.session.incoming = ["second"] ∧
    r.admitted.Perm (within r.desk.session) ∧
    (Call.remove { id := "first" }).item? = some { id := "first" } ∧
    ¬ "first" ∈ r.desk.session.live.map Prod.fst ∧
    (∃ fault : Fault, fault.label = "ValueError" ∧
      fault.message = "Work item first is not held by this session" ∧
      Step.on r.desk (Call.remove { id := "first" }).perform = (.error fault, r.desk)) ∧
    ∃ result desk, Step.on r.desk Call.take.perform = (.ok result, desk) := by
  intro items r
  have distinct : (idsOf items).Nodup := by decide
  have fresh : ∀ item ∈ items, ∀ n, 0 < n → item.id ≠ Ids.text n := by
    intro item hi n hn heq
    have hshort : item.id.length < 8 := by
      rcases List.mem_cons.1 hi with rfl | hi
      · decide +kernel
      · cases List.mem_singleton.1 hi
        decide +kernel
    have hlong := congrArg String.length heq
    rw [Ids.length_text] at hlong
    omega
  have hdead : ¬ "first" ∈ r.desk.session.live.map Prod.fst := by decide +kernel
  obtain ⟨-, -, hperm, hrefused, haccepted⟩ := @linear_after_calls items {}
    [.take, .create, .transfer { id := "first" } .original] distinct fresh
  refine ⟨distinct, fresh, by decide +kernel, hperm, rfl, hdead, ?_, haccepted .take nofun⟩
  obtain ⟨fault, hlabel, hmessage, hon⟩ := hrefused (.remove { id := "first" }) _ rfl hdead
  exact ⟨fault, hlabel, hmessage.trans (by decide +kernel), hon⟩

end Register

end Session

end HttpCourier
