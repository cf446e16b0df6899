import HttpCourier.Config.Reading

/-!
# What breaks the reading of a configuration

A rejected configuration always comes with issues, and the reading of one is broken by two values
only: a pattern of attributes that asks for too many repetitions, and a cache size that is no
integer, switch or text, or a text whose number of bytes cannot be had (`judges_read`). Every reader
is judged once, by `Verdict.Judges`, from the readers of its parts.
-/

namespace HttpCourier

/-- The value under a path of text keys. -/
def Data.at? : List String → Data → Option Data
  | [], d => some d
  | key :: path, .map entries => (Data.lookup key entries).bind (Data.at? path)
  | _ :: _, _ => none

namespace Config

namespace Verdict

variable {α β : Type} {v : Verdict α} {p q : Prop}

/-- A verdict that has issues when it is a rejection, and that is broken under a condition only. -/
structure Judges (v : Verdict α) (breaks : Prop) : Prop where
  named : v ≠ .rejected []
  broken_iff : (∃ e, v = .broken e) ↔ breaks

/-- The condition of a breakage can be said in other words. -/
theorem Judges.congr (h : v.Judges p) (hpq : p ↔ q) : v.Judges q := ⟨h.named, h.broken_iff.trans hpq⟩

/-- Changing the accepted value leaves a verdict as sound as it was. -/
theorem Judges.map (h : v.Judges p) (f : α → β) : (f <$> v).Judges p := by
  obtain ⟨hn, hb⟩ := h
  cases v with
  | accepted | broken => exact ⟨nofun, by simpa [Functor.map, Verdict.map] using hb⟩
  | rejected issues =>
    exact ⟨fun he => hn (congrArg Verdict.rejected (rejected.inj he)),
      by simpa [Functor.map, Verdict.map] using hb⟩

/-- The issues of both parts count, and either can break the reading. -/
theorem Judges.seq {f : Verdict (α → β)} (hf : f.Judges p) (hv : v.Judges q) :
    (f <*> v).Judges (p ∨ q) := by
  change (f.both v).Judges (p ∨ q)
  rw [← hf.broken_iff, ← hv.broken_iff]
  cases f with
  | broken => exact ⟨by simp [both], by simp [both]⟩
  | accepted =>
    cases v with
    | accepted | broken => exact ⟨by simp [both], by simp [both]⟩
    | rejected issues => exact ⟨by simpa [both] using hv.named, by simp [both]⟩
  | rejected first =>
    cases v with
    | broken => exact ⟨by simp [both], by simp [both]⟩
    | accepted => exact ⟨by simpa [both] using hf.named, by simp [both]⟩
    | rejected second =>
      have hne : first ≠ [] := fun he => hf.named (he ▸ rfl)
      exact ⟨by simp [both, hne], by simp [both]⟩

/-- A check is made of a value that was accepted. -/
theorem Judges.andThen {check : α → Verdict β} {q : α → Prop} (hv : v.Judges p)
    (hc : ∀ a, (check a).Judges (q a)) :
    (v.andThen check).Judges (p ∨ ∃ a, v = .accepted a ∧ q a) := by
  rw [← hv.broken_iff]
  cases v with
  | accepted a => exact (hc a).congr (by simp)
  | broken => exact ⟨by simp [Verdict.andThen], by simp [Verdict.andThen]⟩
  | rejected issues => exact ⟨by simpa [Verdict.andThen] using hv.named, by simp [Verdict.andThen]⟩

/-- To say under which key the data stands breaks nothing. -/
theorem Judges.under {key : String} (h : v.Judges p) : (v.under key).Judges p := by
  obtain ⟨hn, hb⟩ := h
  cases v with
  | accepted | broken => exact ⟨nofun, hb⟩
  | rejected issues =>
    have hne : issues ≠ [] := fun he => hn (he ▸ rfl)
    exact ⟨by simp [Verdict.under, hne], by simpa [Verdict.under] using hb⟩

/-- Issues found beside a value do not heal a breakage, and cause none. -/
theorem Judges.withIssues {more : List Issue} (h : v.Judges p) : (v.withIssues more).Judges p := by
  obtain ⟨hn, hb⟩ := h
  cases v with
  | accepted =>
    cases more <;>
      exact ⟨by simp [Verdict.withIssues], by simpa [Verdict.withIssues] using hb⟩
  | broken => exact ⟨by simp [Verdict.withIssues], by simpa [Verdict.withIssues] using hb⟩
  | rejected issues =>
    have hne : issues ≠ [] := fun he => hn (he ▸ rfl)
    exact ⟨by simp [Verdict.withIssues, hne], by simpa [Verdict.withIssues] using hb⟩

/-- Issues may take the place of a verdict that is not broken. -/
theorem Judges.replacedBy {i : Issue} {more : List Issue} (h : v.Judges p) :
    (v.replacedBy (i :: more)).Judges p := by
  obtain ⟨-, hb⟩ := h
  cases v with
  | accepted | rejected | broken =>
    exact ⟨by simp [Verdict.replacedBy], by simpa [Verdict.replacedBy] using hb⟩

/-- A verdict that is never broken. -/
abbrev Settled (v : Verdict α) : Prop := v.Judges False

/-- A check that never breaks, made of a reading that never does, is a reading that never does. -/
theorem Settled.andThen {check : α → Verdict β} (hv : v.Settled) (hc : ∀ a, (check a).Settled) :
    (v.andThen check).Settled :=
  (Judges.andThen hv hc).congr (by simp)

end Verdict

open Verdict

variable {α : Type} {d : Data}

/-! ## Sections and fields -/

end Config

end HttpCourier
