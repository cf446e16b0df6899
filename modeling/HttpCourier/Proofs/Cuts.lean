import Mathlib.Data.List.Basic
import Mathlib.Data.List.Infix
import Mathlib.Data.List.TakeWhile

/-!
# Cutting texts

Where a text is cut at its first character of some kind, both parts are fixed by the text
(`cut_inj`).
-/

namespace HttpCourier.Text

variable {c : Char} {s t : List Char}

/-- A text cut at the first character that fails a test. -/
theorem takeWhile_dropWhile_of {p : Char → Bool} (hs : ∀ a ∈ s, p a = true) (hc : p c = false) :
    (s ++ c :: t).takeWhile p = s ∧ (s ++ c :: t).dropWhile p = c :: t := by
  constructor
  · rw [List.takeWhile_append_of_pos hs, List.takeWhile_cons_of_neg (by simp [hc]), List.append_nil]
  · rw [List.dropWhile_append_of_pos hs, List.dropWhile_cons_of_neg (by simp [hc])]

/-- The rest of a text begins with a character that fails the test. -/
theorem eq_false_of_head?_dropWhile {p : Char → Bool} (h : c ∈ (s.dropWhile p).head?) :
    p c = false := by
  have hhead := List.head?_dropWhile_not p s
  rwa [h] at hhead

/-- A text is its front and what is left when the front is dropped. -/
theorem eq_of_takeWhile_dropWhile {p : Char → Bool} (h : s.dropWhile p = t) :
    s = s.takeWhile p ++ t ∧ ∀ a ∈ s.takeWhile p, p a = true := by
  subst h
  exact ⟨List.takeWhile_append_dropWhile.symm, fun _ ha => List.mem_takeWhile_imp ha⟩

/-- What stands before and after the first of some character is fixed by the text. -/
theorem cut_inj {s' t' : List Char} (hs : c ∉ s) (hs' : c ∉ s')
    (h : s ++ c :: t = s' ++ c :: t') : s = s' ∧ t = t' := by
  have hfree : ∀ {u : List Char}, c ∉ u → ∀ a ∈ u, (a != c) = true := fun hu a ha => by
    simpa using fun e : a = c => hu (e ▸ ha)
  have hl := takeWhile_dropWhile_of (p := (· != c)) (c := c) (t := t) (hfree hs) (by simp)
  have hr := takeWhile_dropWhile_of (p := (· != c)) (c := c) (t := t') (hfree hs') (by simp)
  rw [h] at hl
  exact ⟨hl.1.symm.trans hr.1, (List.cons.inj (hl.2.symm.trans hr.2)).2⟩

end HttpCourier.Text
