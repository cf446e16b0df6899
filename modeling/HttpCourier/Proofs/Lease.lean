import HttpCourier.Holder
import Mathlib.Data.List.Perm.Basic

/-!
# The lease protocol

A `Ledger` is a holder with the receipts of the leases that are open; `Ledger.step` is one operation
on it, in any order and nesting. Every handle that was built is in one of three stages: in use,
retired while a lease on it is open, or closed (`Slot.Sound`). One operation moves a handle to the
next stage (`Slot.letGo`, `Slot.giveBack`), and from the steps the invariant follows for every run
(`Ledger.sound_run`).
-/

namespace HttpCourier.Holder

/-- What is done with a holder: a build that succeeds or fails is put in use, the handle in use is
dropped, a lease is opened, or the open lease at a place ends. -/
inductive Op (ε α : Type) where
  | rebuild (built : Except ε α)
  | clear
  | lease
  | endLease (place : Nat)

/-- The handle that an operation adds. -/
def Op.built? {ε α : Type} : Op ε α → Option α
  | .rebuild (.ok handle) => some handle
  | _ => none

/-- A holder with the receipts of the open leases. A lease that was opened when no handle was in use
has no number. -/
structure Ledger (α : Type) where
  holder : Holder α := {}
  receipts : List (Option Nat) := []

section
variable {ε α : Type} [Closable α]

namespace Ledger

/-- One operation. A place without an open lease changes nothing. -/
def step (l : Ledger α) : Op ε α → Ledger α
  | .rebuild built => { l with holder := (l.holder.rebuild built).2.1 }
  | .clear => { l with holder := l.holder.clear.1 }
  | .lease => { holder := l.holder.lease.2, receipts := l.receipts ++ [l.holder.lease.1] }
  | .endLease place =>
    match l.receipts[place]? with
    | none => l
    | some receipt =>
      { holder := receipt.elim l.holder l.holder.release, receipts := l.receipts.eraseIdx place }

/-- A sequence of operations on a new holder. -/
def run (ops : List (Op ε α)) : Ledger α := ops.foldl step {}

/-- How many leases on a handle are open. -/
def leasesOn (l : Ledger α) (number : Nat) : Nat := l.receipts.count (some number)

/-- How often a handle was closed. -/
def closesOf (l : Ledger α) (number : Nat) : Nat := (l.holder.slot? number).elim 0 (·.closes)

/-- The operation that a handle is closed at: the swap that puts it out of use when it has no lease,
and otherwise the end of its last lease. -/
def Ends (l : Ledger α) (number : Nat) : Op ε α → Prop
  | .rebuild (.ok _) | .clear => l.holder.current = some number ∧ l.leasesOn number = 0
  | .endLease place =>
    l.holder.current ≠ some number ∧ l.receipts[place]? = some (some number) ∧ l.leasesOn number = 1
  | _ => False

end Ledger

/-- The handles that a sequence of operations builds, in order. -/
def builtBy (ops : List (Op ε α)) : List α := ops.filterMap Op.built?

/-! ## One slot -/

namespace Slot

/-- The slot after its handle went out of use. -/
def letGo (s : Slot α) : Slot α := if s.leases = 0 then s.close else { s with retired := true }

/-- The slot after a lease on its handle ended. -/
def giveBack (s : Slot α) : Slot α :=
  let s := { s with leases := s.leases - 1 }
  if s.leases = 0 ∧ s.retired then s.close else s

/-- The stage of a handle, by whether it is in use and how many leases on it are open: in use and
not closed; out of use with a lease, retired and not closed; or out of use without a lease, and
closed once. `built` is the handle as it was built. -/
structure Sound (s : Slot α) (inUse : Prop) (leases : Nat) (built : α) : Prop where
  leases_eq : s.leases = leases
  stage : (inUse ∧ s.retired = false ∧ s.closes = 0) ∨
    (¬ inUse ∧ s.retired = true ∧ 0 < leases ∧ s.closes = 0) ∨
    (¬ inUse ∧ s.retired = false ∧ leases = 0 ∧ s.closes = 1)
  handle_eq : s.handle = if s.closes = 0 then built else Closable.close built

variable {s : Slot α} {inUse : Prop} {leases : Nat} {built : α}

/-- A new slot is in use. -/
theorem Sound.new (handle : α) : Sound { handle } True 0 handle :=
  ⟨rfl, .inl ⟨trivial, rfl, rfl⟩, rfl⟩

/-- The stage depends on what is in use only through its truth. -/
theorem Sound.congr {inUse' : Prop} (h : Sound s inUse leases built) (hu : inUse ↔ inUse') :
    Sound s inUse' leases built := by
  rwa [propext hu] at h

/-- A handle that goes out of use is closed when it has no lease, and retired otherwise. -/
theorem Sound.letGo (h : Sound s True leases built) : Sound s.letGo False leases built := by
  obtain ⟨hl, hs, hh⟩ := h
  have hc : s.closes = 0 := by simp at hs; exact hs.2
  rw [if_pos hc] at hh
  unfold Slot.letGo
  by_cases hz : s.leases = 0
  · rw [if_pos hz]
    refine ⟨hl, .inr (.inr ⟨id, rfl, hl ▸ hz, ?_⟩), ?_⟩
    · simp [close, hc]
    · simp [close, hh]
  · rw [if_neg hz]
    refine ⟨hl, .inr (.inl ⟨id, rfl, ?_, hc⟩), ?_⟩
    · rw [← hl]; exact Nat.pos_of_ne_zero hz
    · rw [if_pos hc]; exact hh

/-- A lease on the handle in use is counted. -/
theorem Sound.lease (h : Sound s True leases built) :
    Sound { s with leases := s.leases + 1 } True (leases + 1) built := by
  obtain ⟨hl, hs, hh⟩ := h
  refine ⟨by simp [hl], ?_, hh⟩
  simpa using hs

/-- When a lease ends, a retired handle is closed with its last lease. -/
theorem Sound.giveBack (h : Sound s inUse (leases + 1) built) :
    Sound s.giveBack inUse leases built := by
  obtain ⟨hl, hs, hh⟩ := h
  rcases hs with ⟨hu, hr, hc⟩ | ⟨hu, hr, -, hc⟩ | ⟨-, -, h0, -⟩
  · simp only [Slot.giveBack, hr, Bool.false_eq_true, and_false, if_false]
    exact ⟨by simp [hl], .inl ⟨hu, rfl, hc⟩, hh⟩
  · rw [if_pos hc] at hh
    by_cases hz : leases = 0
    · simp only [Slot.giveBack, hr, hl, hz, Nat.add_one_sub_one, and_self, if_true, close, hc]
      exact ⟨rfl, .inr (.inr ⟨hu, rfl, rfl, rfl⟩), by simp [hh]⟩
    · simp only [Slot.giveBack, hl, Nat.add_one_sub_one, hz, false_and, if_false]
      exact ⟨rfl, .inr (.inl ⟨hu, hr, Nat.pos_of_ne_zero hz, hc⟩), by rw [if_pos hc]; exact hh⟩
  · cases h0

/-- The end of a lease closes the handle when it was the last one and the handle is out of use. -/
theorem Sound.closes_giveBack (h : Sound s inUse (leases + 1) built) :
    (¬ inUse ∧ leases = 0 → s.giveBack.closes = s.closes + 1) ∧
      (¬ (¬ inUse ∧ leases = 0) → s.giveBack.closes = s.closes) := by
  obtain ⟨hl, hs, -⟩ := h
  rcases hs with ⟨hu, hr, -⟩ | ⟨hu, hr, -, -⟩ | ⟨-, -, h0, -⟩
  · refine ⟨fun hn => absurd hu hn.1, fun _ => ?_⟩
    simp [Slot.giveBack, hr]
  · refine ⟨fun hn => ?_, fun hn => ?_⟩
    · simp [Slot.giveBack, hr, hl, hn.2, close]
    · have hz : leases ≠ 0 := fun hz => hn ⟨hu, hz⟩
      simp [Slot.giveBack, hl, hz]
  · cases h0

end Slot

/-! ## What each operation does to a slot -/

omit [Closable α] in
/-- To modify a slot leaves the others. -/
theorem slot?_modify (h : Holder α) (number other : Nat) (f : Slot α → Slot α) :
    (h.modify number f).slot? other
      = (h.slot? other).map fun s => if number = other then f s else s := by
  simp only [slot?, modify, List.getElem?_modify]
  rfl

/-- Only the handle that goes out of use is touched. -/
theorem slot?_retire (h : Holder α) (number other : Nat) :
    (h.retire number).1.slot? other
      = (h.slot? other).map fun s => if number = other then s.letGo else s := by
  by_cases ho : number = other
  · subst ho
    simp only [retire, if_true]
    cases hs : h.slot? number with
    | none => exact hs
    | some s =>
      by_cases hz : s.leases = 0
      · simp [hz, slot?_modify, hs, Slot.letGo]
      · simp [hz, slot?_modify, hs, Slot.letGo]
  · simp only [retire, ho, if_false, Option.map_id']
    cases h.slot? number with
    | none => rfl
    | some s =>
      dsimp only
      split <;> simp [slot?_modify, ho]

/-- To retire a handle does not change which one is in use. -/
@[simp] theorem retire_current (h : Holder α) (number : Nat) :
    (h.retire number).1.current = h.current := by
  unfold retire
  cases h.slot? number with
  | none => rfl
  | some s => dsimp only; split <;> rfl

/-- A swap puts the previous handle out of use, and touches no other. -/
theorem slot?_swap (h : Holder α) (next : Option Nat) (number : Nat) :
    (h.swap next).1.slot? number
      = (h.slot? number).map fun s => if h.current = some number then s.letGo else s := by
  unfold swap
  cases hc : h.current with
  | none => simp [slot?]
  | some previous =>
    dsimp only
    rw [slot?_retire]
    simp [slot?]

/-- After a swap the next handle is in use. -/
@[simp] theorem swap_current (h : Holder α) (next : Option Nat) :
    (h.swap next).1.current = next := by
  unfold swap
  cases h.current with
  | none => rfl
  | some previous => simp

/-- A swap adds no slot. -/
@[simp] theorem length_slots_swap (h : Holder α) (next : Option Nat) :
    (h.swap next).1.slots.length = h.slots.length := by
  unfold swap
  cases h.current with
  | none => rfl
  | some previous =>
    simp only [retire]
    split
    · rfl
    · split <;> simp [modify]

/-- The end of a lease is noted at its own handle. -/
theorem slot?_release (h : Holder α) (number other : Nat) :
    (h.release number).slot? other
      = (h.slot? other).map fun s => if number = other then s.giveBack else s :=
  slot?_modify h number other _

omit [Closable α] in
/-- A lease is opened on the handle in use. -/
theorem slot?_lease (h : Holder α) (number : Nat) :
    h.lease.2.slot? number = (h.slot? number).map fun s =>
      if h.current = some number then { s with leases := s.leases + 1 } else s := by
  unfold lease
  cases hc : h.current with
  | none => simp
  | some n => simp [slot?_modify]

omit [Closable α] in
/-- The receipt of a lease names the handle in use. -/
@[simp] theorem lease_receipt (h : Holder α) : h.lease.1 = h.current := by
  unfold lease; cases h.current <;> rfl

omit [Closable α] in
/-- A lease does not change which handle is in use. -/
@[simp] theorem lease_current (h : Holder α) : h.lease.2.current = h.current := by
  unfold lease; cases hc : h.current <;> simp [modify, hc]

/-- A handle that was just built has the next number; the others are as after a swap. -/
theorem slot?_install (h : Holder α) (handle : α) (number : Nat) :
    (h.install handle).1.slot? number
      = (if number = h.slots.length then some { handle } else h.slot? number).map fun s =>
          if h.current = some number then s.letGo else s := by
  unfold install
  rw [slot?_swap]
  congr 1
  rcases Nat.lt_trichotomy number h.slots.length with hn | rfl | hn
  · rw [if_neg (Nat.ne_of_lt hn)]
    exact List.getElem?_append_left hn
  · simp [slot?]
  · rw [if_neg (Nat.ne_of_gt hn)]
    simp only [slot?]
    rw [List.getElem?_eq_none (by simp; omega), List.getElem?_eq_none (by omega)]

/-! ## The invariant -/

namespace Ledger

/-- The handles of a ledger are in their stages, and only handles that were built are in use or
leased. `built` are the handles that were built. -/
structure Sound (l : Ledger α) (built : List α) : Prop where
  length_eq : l.holder.slots.length = built.length
  slot : ∀ number s b, l.holder.slot? number = some s → built[number]? = some b →
    s.Sound (l.holder.current = some number) (l.leasesOn number) b
  current_lt : ∀ number, l.holder.current = some number → number < built.length
  leased_lt : ∀ number, some number ∈ l.receipts → number < built.length

variable {l : Ledger α} {built : List α}

/-- A handle that is not built yet has no leases. -/
theorem Sound.leasesOn_eq_zero (h : l.Sound built) {number : Nat} (hn : built.length ≤ number) :
    l.leasesOn number = 0 := by
  rw [leasesOn, List.count_eq_zero]
  intro hm
  exact absurd (h.leased_lt number hm) (Nat.not_lt.2 hn)

/-- A new ledger has no handles and no leases. -/
theorem sound_new : ({} : Ledger α).Sound [] where
  length_eq := rfl
  slot _ _ _ hs := by simp [slot?] at hs
  current_lt _ hc := by cases hc
  leased_lt _ hm := by cases hm

/-- The handle in use goes out of use at a swap, and every other stays in its stage. -/
theorem Sound.slot_swap (h : l.Sound built) {number : Nat} {s : Slot α} {b : α}
    (hs : l.holder.slot? number = some s) (hb : built[number]? = some b) :
    (if l.holder.current = some number then s.letGo else s).Sound False (l.leasesOn number) b := by
  have hsound := h.slot number s b hs hb
  by_cases hc : l.holder.current = some number
  · rw [if_pos hc]
    exact (hsound.congr (iff_true_intro hc)).letGo
  · rw [if_neg hc]
    exact hsound.congr (iff_false_intro hc)

/-- Dropping the handle in use keeps the invariant. -/
theorem Sound.clear (h : l.Sound built) : (l.step (.clear : Op ε α)).Sound built where
  length_eq := by
    rw [← h.length_eq]
    exact length_slots_swap _ _
  slot number s b hs hb := by
    simp only [step, Holder.clear, slot?_swap, Option.map_eq_some_iff] at hs
    obtain ⟨s, hs, rfl⟩ := hs
    exact (h.slot_swap hs hb).congr (by simp [step, Holder.clear])
  current_lt number hc := by simp [step, Holder.clear] at hc
  leased_lt := h.leased_lt

/-- Putting a new handle in use keeps the invariant. -/
theorem Sound.install (h : l.Sound built) (handle : α) :
    (l.step (.rebuild (.ok handle) : Op ε α)).Sound (built ++ [handle]) where
  length_eq := by
    rw [List.length_append, ← h.length_eq]
    simp [step, Holder.rebuild, Holder.install]
  slot number s b hs hb := by
    simp only [step, Holder.rebuild, slot?_install, Option.map_eq_some_iff] at hs
    obtain ⟨s, hs, rfl⟩ := hs
    by_cases hn : number = l.holder.slots.length
    · rw [if_pos hn] at hs
      rw [h.length_eq] at hn
      have hc : l.holder.current ≠ some number := fun hc =>
        absurd (h.current_lt number hc) (by omega)
      obtain rfl := Option.some.inj hs
      obtain rfl : handle = b := by rw [hn] at hb; simpa using hb
      rw [if_neg hc]
      have hz : l.leasesOn number = 0 := h.leasesOn_eq_zero (by omega)
      have hnew : Slot.Sound { handle } True (l.leasesOn number) handle := by
        rw [hz]
        exact Slot.Sound.new handle
      refine hnew.congr ?_
      simp [step, Holder.rebuild, Holder.install, hn, h.length_eq]
    · rw [if_neg hn] at hs
      have hlt : number < built.length := by
        have hsome := (List.getElem?_eq_some_iff.1 hs).1
        rwa [h.length_eq] at hsome
      rw [List.getElem?_append_left hlt] at hb
      refine (h.slot_swap hs hb).congr ?_
      simpa [step, Holder.rebuild, Holder.install] using Ne.symm hn
  current_lt number hc := by
    simp only [step, Holder.rebuild, Holder.install, swap_current, Option.some.injEq] at hc
    rw [List.length_append, ← hc, h.length_eq]
    exact Nat.lt_succ_self _
  leased_lt number hm := by
    rw [List.length_append]
    exact Nat.lt_of_lt_of_le (h.leased_lt number hm) (Nat.le_add_right _ _)

/-- Opening a lease keeps the invariant. -/
theorem Sound.lease (h : l.Sound built) : (l.step (.lease : Op ε α)).Sound built where
  length_eq := by
    rw [← h.length_eq]
    simp only [step, Holder.lease]
    split <;> simp [modify]
  slot number s b hs hb := by
    simp only [step, slot?_lease, Option.map_eq_some_iff] at hs
    obtain ⟨s, hs, rfl⟩ := hs
    have hsound := h.slot number s b hs hb
    simp only [step, lease_current, leasesOn, lease_receipt, List.count_append]
    by_cases hc : l.holder.current = some number
    · rw [if_pos hc, hc, List.count_singleton_self]
      have := (hsound.congr (iff_true_intro hc)).lease
      exact this.congr (by simp)
    · have hz : [l.holder.current].count (some number) = 0 :=
        List.count_eq_zero.2 (by simpa using Ne.symm hc)
      rw [if_neg hc, hz]
      exact hsound
  current_lt := by simpa [step] using h.current_lt
  leased_lt number hm := by
    simp only [step, lease_receipt, List.mem_append, List.mem_singleton] at hm
    rcases hm with hm | hm
    · exact h.leased_lt number hm
    · exact h.current_lt number hm.symm

omit [Closable α] in
/-- The end of a lease takes one receipt away. -/
theorem leasesOn_eraseIdx {place : Nat} {receipt : Option Nat} (number : Nat)
    (hp : l.receipts[place]? = some receipt) :
    l.leasesOn number
      = (l.receipts.eraseIdx place).count (some number)
        + if receipt = some number then 1 else 0 := by
  obtain ⟨hlt, rfl⟩ := List.getElem?_eq_some_iff.1 hp
  rw [leasesOn, ← (List.getElem_cons_eraseIdx_perm hlt).count_eq, List.count_cons]
  simp

/-- Ending a lease keeps the invariant. -/
theorem Sound.endLease (h : l.Sound built) (place : Nat) :
    (l.step (.endLease place : Op ε α)).Sound built := by
  cases hp : l.receipts[place]? with
  | none =>
    simp only [step, hp]
    exact h
  | some receipt =>
    have hcount := fun number => leasesOn_eraseIdx number hp
    have hmem : ∀ number, some number ∈ l.receipts.eraseIdx place → number < built.length :=
      fun number hm => h.leased_lt number (List.mem_of_mem_eraseIdx hm)
    cases receipt with
    | none =>
      refine ⟨?_, ?_, ?_, ?_⟩ <;> simp only [step, hp, Option.elim_none]
      · exact h.length_eq
      · intro number s b hs hb
        have := h.slot number s b hs hb
        rwa [hcount number] at this
      · exact h.current_lt
      · exact hmem
    | some n =>
      refine ⟨?_, ?_, ?_, ?_⟩ <;> simp only [step, hp, Option.elim_some]
      · simpa [release, modify] using h.length_eq
      · intro number s b hs hb
        rw [slot?_release, Option.map_eq_some_iff] at hs
        obtain ⟨s, hs, rfl⟩ := hs
        have hsound := h.slot number s b hs hb
        rw [hcount number] at hsound
        by_cases hn : n = number
        · subst hn
          rw [if_pos rfl] at hsound ⊢
          exact hsound.giveBack
        · rw [if_neg (by simpa using hn)] at hsound
          rw [if_neg hn]
          exact hsound
      · exact h.current_lt
      · exact hmem

/-- Every operation keeps the invariant, and a build that succeeds adds its handle. -/
theorem Sound.step (h : l.Sound built) (op : Op ε α) :
    (l.step op).Sound (built ++ op.built?.toList) := by
  cases op with
  | rebuild result =>
    cases result with
    | ok handle => exact h.install handle
    | error e => simpa [Ledger.step, Holder.rebuild, Op.built?] using h
  | clear => simpa [Op.built?] using h.clear
  | lease => simpa [Op.built?] using h.lease
  | endLease place => simpa [Op.built?] using h.endLease place

/-- The invariant holds after every sequence of operations. -/
theorem sound_run (ops : List (Op ε α)) : (run ops).Sound (builtBy ops) := by
  -- Over every state of the ledger: the rest of a run starts where its first step ends.
  suffices h : ∀ (l : Ledger α) (built : List α), l.Sound built →
      (ops.foldl Ledger.step l).Sound (built ++ builtBy ops) by
    exact h {} [] sound_new
  induction ops with
  | nil => intro l built h; simpa [builtBy] using h
  | cons op ops ih =>
    intro l built h
    have := ih (l.step op) _ (h.step op)
    rw [List.append_assoc] at this
    cases hop : op.built? with
    | none => simpa [builtBy, hop] using this
    | some handle => simpa [builtBy, hop] using this

/-! ## When a handle is closed -/

/-- A swap closes the handle in use when it has no lease, and no other. -/
theorem Sound.closes_swap (h : l.Sound built) {number : Nat} {s : Slot α} {b : α}
    (hs : l.holder.slot? number = some s) (hb : built[number]? = some b) :
    (if l.holder.current = some number then s.letGo else s).closes
      = if l.holder.current = some number ∧ l.leasesOn number = 0 then s.closes + 1
        else s.closes := by
  have hl : s.leases = l.leasesOn number := (h.slot number s b hs hb).leases_eq
  by_cases hc : l.holder.current = some number
  · simp only [hc, if_true, true_and, Slot.letGo, ← hl]
    split <;> rfl
  · simp only [hc, if_false, false_and]

/-- A handle is closed at the operation that ends it, and at no other. -/
theorem Sound.closesOf_step (h : l.Sound built) (op : Op ε α) {number : Nat}
    (hn : number < built.length) :
    (l.Ends number op → (l.step op).closesOf number = l.closesOf number + 1) ∧
      (¬ l.Ends number op → (l.step op).closesOf number = l.closesOf number) := by
  have hb : built[number]? = some built[number] := List.getElem?_eq_getElem hn
  obtain ⟨s, hs⟩ : ∃ s, l.holder.slot? number = some s :=
    ⟨_, List.getElem?_eq_getElem (h.length_eq ▸ hn)⟩
  have hc : l.closesOf number = s.closes := by rw [closesOf, hs]; rfl
  rw [hc]
  cases op with
  | rebuild result =>
    cases result with
    | error e => exact ⟨False.elim, fun _ => hc⟩
    | ok handle =>
      have hne : number ≠ l.holder.slots.length := by rw [h.length_eq]; exact Nat.ne_of_lt hn
      have := h.closes_swap hs hb
      simp only [closesOf, Ledger.step, Holder.rebuild, slot?_install, if_neg hne, hs,
        Option.map_some, Option.elim_some, this, Ends]
      exact ⟨fun he => if_pos he, fun he => if_neg he⟩
  | clear =>
    have := h.closes_swap hs hb
    simp only [closesOf, Ledger.step, Holder.clear, slot?_swap, hs,
      Option.map_some, Option.elim_some, this, Ends]
    exact ⟨fun he => if_pos he, fun he => if_neg he⟩
  | lease =>
    refine ⟨False.elim, fun _ => ?_⟩
    simp only [closesOf, Ledger.step, slot?_lease, hs, Option.map_some, Option.elim_some]
    split <;> rfl
  | endLease place =>
    cases hp : l.receipts[place]? with
    | none =>
      simp only [Ends, Ledger.step, hp]
      exact ⟨fun he => (nomatch he.2.1), fun _ => hc⟩
    | some receipt =>
      cases receipt with
      | none =>
        simp only [Ends, Ledger.step, hp]
        exact ⟨fun he => (nomatch he.2.1), fun _ => hc⟩
      | some n =>
        simp only [closesOf, Ends, Ledger.step, hp, Option.elim_some, slot?_release, hs,
          Option.map_some]
        by_cases hnn : n = number
        · subst hnn
          have hsound := h.slot n s _ hs hb
          have hcount := leasesOn_eraseIdx n hp
          rw [if_pos rfl] at hcount
          rw [hcount] at hsound ⊢
          simpa using hsound.closes_giveBack
        · simp [hnn]

/-- Every handle that was built has a slot in one of the three stages. -/
theorem Sound.exists_slot (h : l.Sound built) {number : Nat} {b : α}
    (hb : built[number]? = some b) :
    ∃ s, l.holder.slot? number = some s ∧
      s.Sound (l.holder.current = some number) (l.leasesOn number) b := by
  have hn : number < l.holder.slots.length := by
    rw [h.length_eq]; exact (List.getElem?_eq_some_iff.1 hb).1
  have hs : l.holder.slot? number = some l.holder.slots[number] := List.getElem?_eq_getElem hn
  exact ⟨_, hs, h.slot number _ b hs hb⟩

/-- The lease protocol, after any operations in any order and nesting. Every handle that was built
is exactly one of in use, retired with an open lease, or closed; a leased handle and the handle in
use are not closed, and a closed one was closed once: at the swap that put it out of use when it had
no lease, and otherwise at the end of its last lease. A build that fails changes nothing. -/
theorem lease_protocol (ops : List (Op ε α)) :
    (run ops).holder.slots.length = (builtBy ops).length ∧
    (∀ number b, (builtBy ops)[number]? = some b →
      ∃ s, (run ops).holder.slot? number = some s ∧
        s.leases = (run ops).leasesOn number ∧
        s.handle = (if s.closes = 0 then b else Closable.close b) ∧
        (0 < (run ops).leasesOn number → s.closes = 0) ∧
        ((run ops).holder.current = some number → s.closes = 0) ∧
        ((run ops).holder.current = some number ∧ s.retired = false ∧ s.closes = 0 ∨
          (run ops).holder.current ≠ some number ∧ s.retired = true ∧
            0 < (run ops).leasesOn number ∧ s.closes = 0 ∨
          (run ops).holder.current ≠ some number ∧ s.retired = false ∧
            (run ops).leasesOn number = 0 ∧ s.closes = 1)) ∧
    (∀ number < (builtBy ops).length, ∀ op : Op ε α,
      ((run ops).Ends number op →
        ((run ops).step op).closesOf number = (run ops).closesOf number + 1) ∧
      (¬ (run ops).Ends number op →
        ((run ops).step op).closesOf number = (run ops).closesOf number)) ∧
    (∀ handle, ((run ops).step (.rebuild (.ok handle) : Op ε α)).holder.current
      = some (builtBy ops).length) ∧
    ((run ops).step (.clear : Op ε α)).holder.current = none ∧
    ∀ e : ε, (run ops).step (.rebuild (.error e)) = run ops := by
  have h := sound_run ops
  refine ⟨h.length_eq, ?_, fun number hn op => h.closesOf_step op hn, fun handle => ?_, ?_,
    fun e => rfl⟩
  · intro number b hb
    obtain ⟨s, hs, hl, hstage, hh⟩ := h.exists_slot hb
    refine ⟨s, hs, hl, hh, ?_, ?_, hstage⟩
    · intro hpos
      rcases hstage with ⟨-, -, hc⟩ | ⟨-, -, -, hc⟩ | ⟨-, -, hz, -⟩
      · exact hc
      · exact hc
      · exact absurd hz (Nat.ne_of_gt hpos)
    · intro hu
      rcases hstage with ⟨-, -, hc⟩ | ⟨hn, -⟩ | ⟨hn, -⟩
      · exact hc
      · exact absurd hu hn
      · exact absurd hu hn
  · simp [step, Holder.rebuild, Holder.install, h.length_eq]
  · simp [step, Holder.clear]

end Ledger

end

end HttpCourier.Holder
