import HttpCourier.Fault

/-!
# What an operation yields

`Step.Yields` says what holds of the state when an operation ends, after a result and after a fault.
One rule for each way to build an operation (`yields_bind`, `yields_get`, `yields_attempt` and so
on) takes it apart; `Yields.mono` weakens it. The specification of an operation is then a `Yields`
under the facts that hold before it. `Step.Keeps` is the case of an invariant, which holds
afterwards however the operation ends.
-/

namespace HttpCourier.Step

variable {σ α β : Type} {s : σ} {post : α → σ → Prop} {fail : Fault → σ → Prop}

/-- A computation that gave a result gave one in each of its parts. -/
theorem ok_of_bind {ε : Type} {x : Except ε α} {next : α → Except ε β} {b : β}
    (h : x >>= next = .ok b) : ∃ a, x = .ok a ∧ next a = .ok b := by
  cases x with
  | error e => cases h
  | ok a => exact ⟨a, rfl, h⟩

@[simp] theorem ok_bind {ε : Type} (a : α) (next : α → Except ε β) :
    (Except.ok a >>= next) = next a := rfl

@[simp] theorem error_bind {ε : Type} (e : ε) (next : α → Except ε β) :
    (Except.error e >>= next) = .error e := rfl

/-- A changed result comes of a result. -/
theorem ok_of_map {ε : Type} {x : Except ε α} {f : α → β} {b : β} (h : x.map f = .ok b) :
    ∃ a, x = .ok a ∧ f a = b := by
  cases x with
  | error e => cases h
  | ok a => exact ⟨a, rfl, Except.ok.inj h⟩

/-- A result that came through a change of faults was there before. -/
theorem ok_of_mapError {ε ε' : Type} {x : Except ε α} {f : ε → ε'} {a : α}
    (h : x.mapError f = .ok a) : x = .ok a := by
  cases x with
  | error e => cases h
  | ok a' => exact congrArg Except.ok (Except.ok.inj h)

/-- What is left when the fault is forgotten is the result. -/
theorem toOption_eq_some_iff {ε : Type} {x : Except ε α} {a : α} :
    x.toOption = some a ↔ x = .ok a := by
  cases x <;> simp [Except.toOption]

/-- What holds when an operation that starts in a state ends: `post` after a result, and `fail`
after a fault. -/
def Yields (step : Step σ α) (s : σ) (post : α → σ → Prop) (fail : Fault → σ → Prop) : Prop :=
  match step.on s with
  | (.ok a, s) => post a s
  | (.error e, s) => fail e s

/-- No fault ends the operation. -/
abbrev never : Fault → σ → Prop := fun _ _ => False

/-- What is claimed of an operation is claimed of its one outcome. -/
theorem yields_iff {step : Step σ α} :
    step.Yields s post fail ↔
      (∀ a s', step.on s = (.ok a, s') → post a s') ∧
        ∀ e s', step.on s = (.error e, s') → fail e s' := by
  unfold Yields
  rcases step.on s with ⟨e | a, s'⟩
  · simp
  · simp

/-- An operation known to give a result is judged by it. -/
theorem yields_of_ok {step : Step σ α} {a : α} {s' : σ} (h : step.on s = (.ok a, s')) :
    step.Yields s post fail ↔ post a s' := by
  rw [Yields, h]

/-- An operation known to fail is judged by its fault. -/
theorem yields_of_error {step : Step σ α} {e : Fault} {s' : σ} (h : step.on s = (.error e, s')) :
    step.Yields s post fail ↔ fail e s' := by
  rw [Yields, h]

/-- A weaker specification holds too. -/
theorem Yields.mono {step : Step σ α} {post' : α → σ → Prop} {fail' : Fault → σ → Prop}
    (h : step.Yields s post fail) (hp : ∀ a s', post a s' → post' a s')
    (hf : ∀ e s', fail e s' → fail' e s') : step.Yields s post' fail' := by
  rw [yields_iff] at h ⊢
  exact ⟨fun a s' ha => hp a s' (h.1 a s' ha), fun e s' he => hf e s' (h.2 e s' he)⟩

/-- What holds however an operation ends holds of the state that it leaves. -/
theorem Yields.on {step : Step σ α} {p : σ → Prop} (h : step.Yields s (fun _ => p) fun _ => p) :
    p (step.on s).2 := by
  unfold Yields at h
  split at h
  case h_1 hr => rwa [hr]
  case h_2 hr => rwa [hr]

/-- The state that an operation leaves. -/
theorem yields_on (step : Step σ α) :
    step.Yields s (fun _ s' => s' = (step.on s).2) fun _ s' => s' = (step.on s).2 := by
  unfold Yields
  rcases step.on s with ⟨e | a, s'⟩
  · rfl
  · rfl

/-- The result that an operation gives. -/
theorem yields_result (step : Step σ α) :
    step.Yields s (fun a _ => (step.on s).1 = .ok a) fun e _ => (step.on s).1 = .error e := by
  unfold Yields
  rcases step.on s with ⟨e | a, s'⟩
  · rfl
  · rfl

/-- What holds of a result or a fault, together with the state. -/
theorem Yields.both {step : Step σ α} (p : Except Fault α → σ → Prop)
    (h : step.Yields s (fun a => p (.ok a)) fun e => p (.error e)) : p (step.on s).1 (step.on s).2 := by
  unfold Yields at h
  split at h
  case h_1 hr => rwa [hr]
  case h_2 hr => rwa [hr]

/-- Two specifications hold together. -/
theorem Yields.and {step : Step σ α} {post' : α → σ → Prop} {fail' : Fault → σ → Prop}
    (h : step.Yields s post fail) (h' : step.Yields s post' fail') :
    step.Yields s (fun a s => post a s ∧ post' a s) fun e s => fail e s ∧ fail' e s := by
  rw [yields_iff] at h h' ⊢
  exact ⟨fun a s' ha => ⟨h.1 a s' ha, h'.1 a s' ha⟩, fun e s' he => ⟨h.2 e s' he, h'.2 e s' he⟩⟩

/-- An operation that cannot end in a fault has a result. -/
theorem Yields.exists_ok {step : Step σ α} (h : step.Yields s post never) :
    ∃ a s', step.on s = (.ok a, s') ∧ post a s' := by
  unfold Yields at h
  rcases hr : step.on s with ⟨e | a, s'⟩
  · rw [hr] at h
    exact h.elim
  · rw [hr] at h
    exact ⟨a, s', rfl, h⟩

@[simp] theorem on_pure (a : α) : on s (pure a : Step σ α) = (.ok a, s) := rfl

/-- The second part starts where the first ended, unless the first failed. -/
theorem on_bind (step : Step σ α) (next : α → Step σ β) :
    on s (step >>= next) = match on s step with
      | (.ok a, s) => on s (next a)
      | (.error e, s) => (.error e, s) := by
  change (ExceptT.bindCont next (on s step).1).run (on s step).2 = _
  rcases on s step with ⟨e | a, s'⟩
  · rfl
  · rfl

@[simp] theorem yields_pure (a : α) : (pure a : Step σ α).Yields s post fail ↔ post a s := Iff.rfl

/-- What is claimed of two parts is claimed of the second, at each end of the first, and of the
first's faults. -/
@[simp] theorem yields_bind {post : β → σ → Prop} (step : Step σ α) (next : α → Step σ β) :
    (step >>= next).Yields s post fail ↔
      step.Yields s (fun a s => (next a).Yields s post fail) fail := by
  unfold Yields
  rw [on_bind]
  rcases on s step with ⟨e | a, s'⟩
  · rfl
  · rfl

@[simp] theorem yields_map {post : β → σ → Prop} (step : Step σ α) (f : α → β) :
    (f <$> step).Yields s post fail ↔ step.Yields s (fun a s => post (f a) s) fail := by
  rw [map_eq_pure_bind, yields_bind]
  rfl

@[simp] theorem yields_throw (e : Fault) :
    (throw e : Step σ α).Yields s post fail ↔ fail e s := Iff.rfl

@[simp] theorem yields_get {post : σ → σ → Prop} :
    (get : Step σ σ).Yields s post fail ↔ post s s := Iff.rfl

@[simp] theorem yields_set {post : PUnit → σ → Prop} (s' : σ) :
    (set s' : Step σ PUnit).Yields s post fail ↔ post ⟨⟩ s' := Iff.rfl

@[simp] theorem yields_modify {post : PUnit → σ → Prop} (f : σ → σ) :
    (modify f : Step σ PUnit).Yields s post fail ↔ post ⟨⟩ (f s) := Iff.rfl

/-- A computation without a state leaves the state as it is. -/
@[simp] theorem yields_ofExcept (result : Except Fault α) :
    (ofExcept result).Yields s post fail ↔
      (∀ a, result = .ok a → post a s) ∧ ∀ e, result = .error e → fail e s := by
  change (match (result, s) with | (.ok a, s) => post a s | (.error e, s) => fail e s) ↔ _
  cases result <;> simp

/-- A result at hand leaves the state as it is. -/
theorem yields_ok (a : α) : (ofExcept (.ok a)).Yields s post fail ↔ post a s := Iff.rfl

/-- A fault at hand leaves the state as it is. -/
theorem yields_error (e : Fault) : (ofExcept (.error e) : Step σ α).Yields s post fail ↔ fail e s :=
  Iff.rfl

/-- A caught fault is a result, with the state that the fault left. -/
@[simp] theorem yields_attempt {post : Except Fault α → σ → Prop} (step : Step σ α) :
    step.attempt.Yields s post fail ↔
      step.Yields s (fun a s => post (.ok a) s) (fun e s => post (.error e) s) := by
  have hr : on s step.attempt = (.ok (on s step).1, (on s step).2) := rfl
  unfold Yields
  rw [hr]
  rcases on s step with ⟨e | a, s'⟩
  · rfl
  · rfl

/-- An operation that is done under a condition only; `mid` holds after it in either case. -/
theorem yields_if {c : Prop} {_ : Decidable c} {step : Step σ PUnit} {next : PUnit → Step σ α}
    (mid : σ → Prop) (hc : c → step.Yields s (fun _ => mid) fail) (hn : ¬ c → mid s)
    (hm : ∀ s, mid s → (next ⟨⟩).Yields s post fail) :
    (if c then step >>= next else next ⟨⟩).Yields s post fail := by
  by_cases h : c
  · rw [if_pos h, yields_bind]
    exact (hc h).mono (fun _ s => hm s) fun _ _ => id
  · rw [if_neg h]
    exact hm s (hn h)

/-- What each of some operations keeps holds after all of them. -/
theorem yields_forM {inv : σ → Prop} {step : α → Step σ PUnit}
    (h : ∀ a s, inv s → (step a).Yields s (fun _ => inv) fail) (as : List α) (hs : inv s) :
    (as.forM step).Yields s (fun _ => inv) fail := by
  induction as generalizing s with
  | nil => exact hs
  | cons a as ih =>
    refine (yields_bind _ _).2 ?_
    exact (h a s hs).mono (fun _ _ hs => ih hs) fun _ _ => id

/-- An operation ends. -/
theorem yields_true (step : Step σ α) : step.Yields s (fun _ _ => True) fun _ _ => True :=
  yields_iff.2 ⟨fun _ _ _ => trivial, fun _ _ _ => trivial⟩

/-! ## Invariants -/

/-- What holds before an operation holds afterwards, also after a fault. -/
def Keeps (inv : σ → Prop) (step : Step σ α) : Prop :=
  ∀ s, inv s → step.Yields s (fun _ => inv) fun _ => inv

variable {inv : σ → Prop}

/-- An invariant that is kept holds in the state an operation leaves. -/
theorem Keeps.on {step : Step σ α} (h : Keeps inv step) (hs : inv s) : inv (step.on s).2 :=
  (h s hs).on

/-- What an operation keeps holds together with what it yields when no fault can end it. -/
theorem Yields.and_keeps {step : Step σ α} (h : step.Yields s post never) (hk : Keeps inv step)
    (hs : inv s) : step.Yields s (fun a s => post a s ∧ inv s) never :=
  (h.and (hk s hs)).mono (fun _ _ => id) fun _ _ hf => hf.1

/-- An invariant is kept by two parts one after another. -/
theorem Keeps.bind {step : Step σ α} {next : α → Step σ β} (h : Keeps inv step)
    (hn : ∀ a, Keeps inv (next a)) : Keeps inv (step >>= next) := by
  intro s hs
  rw [yields_bind]
  exact (h s hs).mono (fun a s hs => hn a s hs) fun _ _ => id

/-- An invariant is kept by what depends on the state when it is for each state. -/
theorem Keeps.get_bind {next : σ → Step σ α} (hn : ∀ s, Keeps inv (next s)) :
    Keeps inv (get >>= next) := fun s => hn s s

/-- What does nothing keeps every invariant. -/
theorem Keeps.pure (a : α) : Keeps inv (pure a : Step σ α) := fun _ => id

/-- A computation without a state keeps every invariant. -/
theorem Keeps.ofExcept (result : Except Fault α) : Keeps inv (ofExcept result : Step σ α) := by
  intro s hs
  rw [yields_ofExcept]
  exact ⟨fun _ _ => hs, fun _ _ => hs⟩

/-- An invariant is kept by a loop when it is by each round. -/
theorem Keeps.forM {step : α → Step σ PUnit} (h : ∀ a, Keeps inv (step a)) (as : List α) :
    Keeps inv (as.forM step) := fun _ => yields_forM h as

end HttpCourier.Step
