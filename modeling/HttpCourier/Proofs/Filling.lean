import HttpCourier.Proofs.Growth

/-!
# What filling in secrets changes

Secrets are filled into a document through two levels of sections that may be missing or of any
shape. Each filling is an edit of one key, and what it makes of the value there is said once for
each kind (`becomes_sectionOf`, `becomes_authOf`). So a document grows by the secrets and nothing
else (`Secrets.grows_apply`), exactly when the secret of the user meets mappings on its way
(`Secrets.apply_respects_iff`).
-/

namespace HttpCourier

namespace Secrets

open Data

variable {name part key : String} {s : LooseText} {secret : Option LooseText} {es : List (Data × Data)}
  {old : Option Data}

/-! ## What each filling makes of a mapping -/

/-- A secret may be added under a key. -/
def MayFill (name : String) (secret : Option LooseText) (path : List Data) (value : Data) : Prop :=
  ∃ s, given secret = some s ∧ path = [.text name] ∧ value = .ofLoose s

/-- Nothing stands below a secret. -/
theorem eq_of_at_ofLoose {path : List Data} {value : Data} (h : (ofLoose s).At path value) :
    path = [] ∧ value = .ofLoose s := by
  cases s with
  | whole | torn =>
    cases h
    exact ⟨rfl, rfl⟩

/-- What a filling makes of the value of its key. -/
def filled (s : LooseText) (old : Option Data) : Option Data := some (old.getD (.ofLoose s))

/-- A value at the end of the entries of a mapping is written there. -/
theorem append_eq_insert {value : Data} (h : lookup name es = none) :
    es ++ [(.text name, value)] = Data.insert name value es := by
  induction es with
  | nil => rfl
  | cons e rest ih =>
    obtain ⟨k, v⟩ := e
    rw [lookup] at h
    rw [Data.insert]
    split at h
    · cases h
    · next hk => rw [if_neg hk, List.cons_append, ih h]

/-- What is found under a key after a filling: the secret where its key had no value, and else what
was there. -/
theorem lookup_fill {n : String} :
    lookup n (fill name s es) = onKey name (filled s) n (lookup n es) := by
  unfold fill
  by_cases hn : n = name
  · subst hn
    rw [onKey_self]
    cases hl : lookup n es with
    | some value => exact hl
    | none =>
      dsimp only
      rw [append_eq_insert hl, lookup_insert_self]
      rfl
  · rw [onKey_of_ne hn]
    cases hl : lookup name es with
    | some value => rfl
    | none =>
      dsimp only
      rw [append_eq_insert hl, lookup_insert_of_ne hn]

/-- A filling is an edit of its key. -/
theorem edits_fill (h : Plain es) : Edits (onKey name (filled s)) es (fill name s es) := by
  unfold fill
  cases hl : lookup name es with
  | some value => exact edits_self h (by rw [hl]; rfl)
  | none =>
    dsimp only
    rw [append_eq_insert hl]
    exact edits_insert h (by rw [hl]; rfl)

/-- To take away the entries of one key leaves what is found under the others. -/
theorem lookup_filter_of_ne {n : String} (h : n ≠ name) :
    lookup n (es.filter fun e => !isKey name e.1) = lookup n es := by
  induction es with
  | nil => rfl
  | cons e rest ih =>
    obtain ⟨k, v⟩ := e
    by_cases hk : isKey name k = true
    · have hother : ¬ isKey n k = true := by
        rw [isKey_iff.1 hk]
        exact fun hn => h (text.inj (isKey_iff.1 hn)).symm
      rw [List.filter_cons_of_neg (by simp [hk]), ih, lookup, if_neg hother]
    · rw [List.filter_cons_of_pos (by simpa using hk), lookup, lookup, ih]

/-- A secret put first is found as one that is put last. -/
theorem lookup_fillFirst {n : String} :
    lookup n (fillFirst name s es) = onKey name (filled s) n (lookup n es) := by
  rw [fillFirst, lookup]
  by_cases hn : n = name
  · rw [hn, onKey_self, if_pos (isKey_iff.2 rfl)]
    rfl
  · rw [onKey_of_ne hn, if_neg fun hk => hn (text.inj (isKey_iff.1 hk)).symm, lookup_filter_of_ne hn]

/-- A filling that puts the secret first is an edit of its key. -/
theorem edits_fillFirst (h : Plain es) : Edits (onKey name (filled s)) es (fillFirst name s es) where
  plain := by
    refine List.nodup_cons.2 ⟨fun hmem => ?_, h.sublist (List.filter_sublist.filterMap _)⟩
    obtain ⟨value, hmem⟩ := mem_textKeys.1 hmem
    simp [isKey] at hmem
  lookup_eq _ := lookup_fillFirst
  mem_iff key value hk := by
    have hne : isKey name key = false := Bool.eq_false_iff.2 fun hkey => hk name (isKey_iff.1 hkey)
    simp [fillFirst, hk name, hne]

/-- A filling of a mapping adds a secret. -/
theorem grows_of_filled {es' : List (Data × Data)} (hs : given secret = some s) (hplain : Plain es)
    (h : Edits (onKey name (filled s)) es es') : Grows (MayFill name secret) (map es) (map es') := by
  refine (h.grows_onKey (fun path value => path = [] ∧ value = .ofLoose s) hplain ?_).mono ?_
  · cases lookup name es with
    | none => exact fun path value => eq_of_at_ofLoose
    | some old => exact Grows.refl _ old
  · rintro _ _ ⟨_, rfl, rfl, rfl⟩
    exact ⟨s, hs, rfl, rfl⟩

/-- What a filling makes of a section. -/
def sectionOf (name : String) (secret : Option LooseText) (old : Option Data) : Option Data :=
  match given secret, (old.bind entries?).getD [] with
  | none, _ => old
  | _, [] => old
  | some s, inner => some (map (fillFirst name s inner))

/-- To fill a section is an edit of the section's key. -/
theorem edits_fillSection (h : Plain es) :
    Edits (onKey part (sectionOf name secret)) es (fillSection part name secret es) := by
  unfold fillSection
  cases hs : given secret with
  | none => exact edits_self h (by rw [sectionOf, hs])
  | some s =>
    cases hinner : section? part es with
    | nil =>
      unfold section? at hinner
      exact edits_self h (by rw [sectionOf, hs, hinner])
    | cons e inner =>
      unfold section? at hinner
      exact edits_insert h (by rw [sectionOf, hs, hinner])

/-- The entries that an optional value has are those of a mapping, if there are any. -/
theorem eq_map_of_entries {e : Data × Data} (h : (old.bind entries?).getD [] = e :: es) :
    old = some (map (e :: es)) := by
  cases old with
  | none => cases h
  | some d =>
    cases d with
    | map entries => exact congrArg (some ∘ map) h
    | null | flag | whole | real | text | torn | bytes | list | other => cases h

/-- A section with entries gets the secret where it has none, and another stays as it is. -/
theorem becomes_sectionOf (h : ∀ inner, old = some (map inner) → Plain inner) :
    Becomes (MayFill name secret) old (sectionOf name secret old) := by
  cases hs : given secret with
  | none =>
    rw [sectionOf, hs]
    exact .refl _ old
  | some s =>
    cases hinner : (old.bind entries?).getD [] with
    | nil =>
      rw [sectionOf, hs, hinner]
      exact .refl _ old
    | cons e inner =>
      rw [sectionOf, hs, hinner]
      obtain rfl := eq_map_of_entries hinner
      exact grows_of_filled hs (h _ rfl) (edits_fillFirst (h _ rfl))

/-- What the secret of the user makes of the section about it. -/
def authOf (secret : Option LooseText) (old : Option Data) : Option Data :=
  match given secret with
  | none => old
  | some s => some (map (fill "password" s ((old.bind entries?).getD [])))

/-- A section may be added with a secret in it. -/
def MayOpen (name : String) (secret : Option LooseText) (path : List Data) (value : Data) : Prop :=
  MayFill name secret path value ∨ (given secret).isSome ∧ path = [] ∧ ∃ inner, value = map inner

/-- The section about the user gets the secret where it has none, and is opened where it is not
there. -/
theorem becomes_authOf (h : ∀ inner, old = some (map inner) → Plain inner)
    (hmap : (given secret).isSome → ∀ d, old = some d → ∃ inner, d = map inner) :
    Becomes (MayOpen "password" secret) old (authOf secret old) := by
  cases hs : given secret with
  | none =>
    rw [authOf, hs]
    exact .refl _ old
  | some s =>
    rw [authOf, hs]
    cases old with
    | none =>
      intro path value hat
      rcases (grows_of_filled hs plain_nil (edits_fill plain_nil)).of_empty hat with
        ⟨hpath, hvalue⟩ | hmay
      · exact .inr ⟨by rw [hs]; rfl, hpath, _, hvalue⟩
      · exact .inl hmay
    | some d =>
      obtain ⟨inner, rfl⟩ := hmap (by rw [hs]; rfl) d rfl
      exact (grows_of_filled hs (h _ rfl) (edits_fill (h _ rfl))).mono fun _ _ => .inl

/-! ## What filling makes of a document -/

variable {secrets : Secrets} {document : List (Data × Data)}

/-- What may be added under a key of the section about transport. -/
def MayAdd (secrets : Secrets) (n : String) (path : List Data) (value : Data) : Prop :=
  n = "auth" ∧ MayOpen "password" secrets.auth path value ∨
    n = "proxy" ∧ MayFill "password" secrets.proxy path value ∨
    n = "tls" ∧ MayFill "keystore_password" secrets.keystore path value

/-- The secret of the user is filled into its section, which is opened when it is not there. -/
def fillAuth (secret : Option LooseText) (es : List (Data × Data)) : List (Data × Data) :=
  match given secret with
  | none => es
  | some s => insert "auth" (map (fill "password" s (section? "auth" es))) es

/-- The secrets are filled in one after another: the user's, the proxy's, the keystore's. -/
theorem fillTransport_eq (secrets : Secrets) (es : List (Data × Data)) :
    secrets.fillTransport es = fillSection "tls" "keystore_password" secrets.keystore
      (fillSection "proxy" "password" secrets.proxy (fillAuth secrets.auth es)) := rfl

/-- To fill in the user's secret is an edit of the section about the user. -/
theorem edits_fillAuth (h : Plain es) :
    Edits (onKey "auth" (authOf secret)) es (fillAuth secret es) := by
  unfold fillAuth
  cases hs : given secret with
  | none => exact edits_self h (by rw [authOf, hs])
  | some s => exact edits_insert h (by rw [authOf, hs, section?])

/-- To fill in all secrets edits the three sections and nothing else. -/
theorem edits_fillTransport (h : Plain es) :
    Edits (fun n old => onKey "tls" (sectionOf "keystore_password" secrets.keystore) n
      (onKey "proxy" (sectionOf "password" secrets.proxy) n
        (onKey "auth" (authOf secrets.auth) n old))) es (secrets.fillTransport es) := by
  have hauth : Edits _ es (fillAuth secrets.auth es) := edits_fillAuth h
  have hproxy : Edits _ _ (fillSection "proxy" "password" secrets.proxy (fillAuth secrets.auth es)) :=
    edits_fillSection hauth.plain
  exact (hauth.trans hproxy).trans (edits_fillSection hproxy.plain)

/-- The section about transport grows by the secrets, and by the section that the user's stands
in. -/
theorem grows_fillTransport (h : Plain es)
    (hsections : ∀ name inner, lookup name es = some (map inner) → Plain inner)
    (hauth : (given secrets.auth).isSome → ∀ d, lookup "auth" es = some d → ∃ inner, d = map inner) :
    Grows (Below secrets.MayAdd) (map es) (map (secrets.fillTransport es)) := by
  refine (edits_fillTransport h).grows secrets.MayAdd h fun n => ?_
  by_cases ht : n = "tls"
  · subst ht
    rw [onKey_self, onKey_of_ne (by decide), onKey_of_ne (by decide)]
    exact (becomes_sectionOf (hsections _)).mono fun _ _ hmay => .inr (.inr ⟨rfl, hmay⟩)
  rw [onKey_of_ne ht]
  by_cases hp : n = "proxy"
  · subst hp
    rw [onKey_self, onKey_of_ne (by decide)]
    exact (becomes_sectionOf (hsections _)).mono fun _ _ hmay => .inr (.inl ⟨rfl, hmay⟩)
  rw [onKey_of_ne hp]
  by_cases ha : n = "auth"
  · subst ha
    rw [onKey_self]
    exact (becomes_authOf (hsections _) hauth).mono fun _ _ hmay => .inl ⟨rfl, hmay⟩
  rw [onKey_of_ne ha]
  exact .refl _ _

/-- Without a secret of the user nothing is put into an empty section. -/
theorem fillTransport_nil (h : given secrets.auth = none) : secrets.fillTransport [] = [] := by
  unfold fillTransport
  rw [h]
  unfold fillSection
  cases given secrets.proxy <;> cases given secrets.keystore <;> rfl

/-- What filling in secrets adds to a document: the secrets, and the sections that the first one
stands in. -/
inductive Added (secrets : Secrets) : List Data → Data → Prop where
  | transport {inner : List (Data × Data)} : (given secrets.auth).isSome →
    Added secrets [.text "transport"] (.map inner)
  | auth {inner : List (Data × Data)} : (given secrets.auth).isSome →
    Added secrets [.text "transport", .text "auth"] (.map inner)
  | authPassword {s : LooseText} : given secrets.auth = some s →
    Added secrets [.text "transport", .text "auth", .text "password"] (.ofLoose s)
  | proxyPassword {s : LooseText} : given secrets.proxy = some s →
    Added secrets [.text "transport", .text "proxy", .text "password"] (.ofLoose s)
  | keystorePassword {s : LooseText} : given secrets.keystore = some s →
    Added secrets [.text "transport", .text "tls", .text "keystore_password"] (.ofLoose s)

/-- What is added to the section about transport is added to the document below that section. -/
theorem Added.of_below {path : List Data} {value : Data} (h : Below secrets.MayAdd path value) :
    Added secrets (.text "transport" :: path) value := by
  obtain ⟨n, rest, rfl, ⟨rfl, ⟨s, hs, rfl, rfl⟩ | ⟨hs, rfl, inner, rfl⟩⟩ | ⟨rfl, s, hs, rfl, rfl⟩ |
    ⟨rfl, s, hs, rfl, rfl⟩⟩ := exists_of_below h
  · exact .authPassword hs
  · exact .auth hs
  · exact .proxyPassword hs
  · exact .keystorePassword hs

/-- Of the sections below the one about transport, only the user's may be added. -/
theorem Added.eq_auth {value : Data}
    (h : Added secrets [.text "transport", .text name] value) : name = "auth" := by
  generalize hp : [Data.text "transport", Data.text name] = path at h
  cases h with
  | auth => simpa using hp
  | transport | authPassword | proxyPassword | keystorePassword => simp at hp

/-- The sections that the secret of the user goes through are mappings, where they are there. -/
def Fillable (secrets : Secrets) (document : List (Data × Data)) : Prop :=
  given secrets.auth = none ∨
    ∀ path ∈ [[Data.text "transport"], [Data.text "transport", Data.text "auth"]], ∀ value,
      (map document).At path value → ∃ inner, value = map inner

/-- The section about transport grows into what the secrets make of it, unless they make nothing. -/
theorem becomes_transport (hkeyed : (map document).Keyed) (h : Fillable secrets document)
    (hne : secrets.fillTransport (section? "transport" document) ≠ []) :
    Becomes (fun path value => Added secrets (.text "transport" :: path) value)
      (lookup "transport" document)
      (some (map (secrets.fillTransport (section? "transport" document)))) := by
  rw [section?] at hne ⊢
  cases hl : lookup "transport" document with
  | none =>
    rw [hl] at hne
    have hauth : (given secrets.auth).isSome :=
      Option.isSome_iff_ne_none.2 fun hnone => hne (fillTransport_nil hnone)
    intro path value hat
    rcases (grows_fillTransport plain_nil (fun _ _ h => by cases h)
        fun _ _ h => by cases h).of_empty hat with ⟨rfl, rfl⟩ | hmay
    · exact .transport hauth
    · exact .of_below hmay
  | some d =>
    have hat : (map document).At [.text "transport"] d := .under (mem_of_lookup hl) (.here d)
    by_cases hd : ∃ inner, d = map inner
    · obtain ⟨inner, rfl⟩ := hd
      refine Grows.mono (grows_fillTransport (hkeyed.plain hat) (fun name entries hl' => ?_)
        fun hs d hd => ?_) fun _ _ => .of_below
      · exact hkeyed.plain (.under (mem_of_lookup hl) (.under (mem_of_lookup hl') (.here _)))
      · rcases h with hnone | hmaps
        · rw [hnone] at hs
          cases hs
        · exact hmaps _ (by simp) d (.under (mem_of_lookup hl) (.under (mem_of_lookup hd) (.here _)))
    · -- a section that is no mapping is left alone, since there is nothing to put into it
      rcases h with hnone | hmaps
      · rw [hl] at hne
        have hempty : ((some d).bind entries?).getD [] = [] := by
          cases d with
          | map entries => exact absurd ⟨entries, rfl⟩ hd
          | null | flag | whole | real | text | torn | bytes | list | other => rfl
        rw [hempty] at hne
        exact absurd (fillTransport_nil hnone) hne
      · exact absurd (hmaps _ (by simp) d hat) hd

/-- Nothing is made of a document without a section to fill. -/
theorem apply_of_nil (h : secrets.fillTransport (section? "transport" document) = []) :
    secrets.apply document = document := by
  rw [apply, h]

/-- What is made of the section about transport is written under its key. -/
theorem apply_of_ne (h : secrets.fillTransport (section? "transport" document) ≠ []) :
    secrets.apply document
      = insert "transport" (map (secrets.fillTransport (section? "transport" document))) document := by
  unfold apply
  split
  · exact absurd ‹_› h
  · rfl

/-- A document grows by the secrets where the sections can be filled. -/
theorem grows_apply (hkeyed : (map document).Keyed) (h : Fillable secrets document) :
    Grows (Added secrets) (map document) (map (secrets.apply document)) := by
  have hplain : Plain document := hkeyed.plain (.here _)
  by_cases ht : secrets.fillTransport (section? "transport" document) = []
  · rw [apply_of_nil ht]
    exact .refl _ _
  rw [apply_of_ne ht]
  refine ((edits_insert (g := fun _ => some _) hplain rfl).grows_onKey
    (fun path value => Added secrets (.text "transport" :: path) value) hplain
    (becomes_transport hkeyed h ht)).mono ?_
  rintro _ _ ⟨_, rfl, hadded⟩
  exact hadded

/-- What a document loses cannot be filled: with a secret of the user, the sections that it goes
through are written as mappings. -/
theorem fillable_of_kept (hkeyed : (map document).Keyed)
    (h : ∀ path value, (map document).At path value →
      ∃ value', (map (secrets.apply document)).At path value' ∧ value.KeptBy value') :
    Fillable secrets document := by
  cases hs : given secrets.auth with
  | none => exact .inl hs
  | some s =>
    right
    have hedits : Edits _ _ (secrets.fillTransport (section? "transport" document)) :=
      edits_fillTransport (hkeyed.plain_section "transport")
    obtain ⟨inner, hauth⟩ : ∃ inner, lookup "auth"
        (secrets.fillTransport (section? "transport" document)) = some (map inner) := by
      rw [hedits.lookup_eq, onKey_of_ne (by decide), onKey_of_ne (by decide), onKey_self, authOf, hs]
      exact ⟨_, rfl⟩
    have hne : secrets.fillTransport (section? "transport" document) ≠ [] := by
      intro hnil
      rw [hnil] at hauth
      cases hauth
    rw [apply_of_ne hne] at h
    have hplain : ∀ value, Plain (insert "transport" value document) := fun _ =>
      (hkeyed.plain (.here _)).insert
    intro path hpath value hat
    obtain ⟨value', hat', hkept⟩ := h path value hat
    rcases List.mem_cons.1 hpath with rfl | hpath
    · obtain ⟨found, hl, hat'⟩ := (hplain _).at_cons hat'
      rw [lookup_insert_self] at hl
      cases hl
      obtain rfl := hat'.nil_eq
      exact hkept.eq_map
    · obtain rfl := List.mem_singleton.1 hpath
      obtain ⟨found, hl, hat'⟩ := (hplain _).at_cons hat'
      rw [lookup_insert_self] at hl
      cases hl
      obtain ⟨found, hl, hat'⟩ := hedits.plain.at_cons hat'
      rw [hauth] at hl
      cases hl
      obtain rfl := hat'.nil_eq
      exact hkept.eq_map

/-! ## Filling twice -/

/-- A key is written with the value that it has. -/
theorem insert_of_lookup {value : Data} (h : lookup name es = some value) :
    Data.insert name value es = es := by
  induction es with
  | nil => cases h
  | cons e rest ih =>
    obtain ⟨k, v⟩ := e
    rw [lookup] at h
    rw [Data.insert]
    split at h
    · next hk =>
      cases h
      rw [if_pos hk]
    · next hk => rw [if_neg hk, ih h]

/-- A filling finds nothing to fill the second time. -/
theorem fill_fill : fill name s (fill name s es) = fill name s es := by
  have hl : ∃ value, lookup name (fill name s es) = some value := by
    unfold fill
    cases hl : lookup name es with
    | none =>
      dsimp only
      rw [append_eq_insert hl]
      exact ⟨_, lookup_insert_self⟩
    | some value => exact ⟨value, hl⟩
  obtain ⟨value, hl⟩ := hl
  rw [fill, hl]

/-- A filling that puts the secret first finds nothing to fill the second time. -/
theorem fillFirst_fillFirst : fillFirst name s (fillFirst name s es) = fillFirst name s es := by
  have hl : lookup name (fillFirst name s es) = some ((lookup name es).getD (.ofLoose s)) :=
    if_pos (isKey_iff.2 rfl)
  have hrest : (fillFirst name s es).filter (fun e => !isKey name e.1)
      = es.filter fun e => !isKey name e.1 := by
    rw [fillFirst, List.filter_cons_of_neg (by simp [isKey])]
    simp
  rw [fillFirst, hl, hrest]
  rfl

/-- A section was filled, or there is nothing to fill. -/
def Filled (part name : String) (secret : Option LooseText) (es : List (Data × Data)) : Prop :=
  ∀ s, given secret = some s → section? part es = [] ∨
    ∃ inner, lookup part es = some (map (fillFirst name s inner))

/-- A section that was filled is filled. -/
theorem filled_fillSection : Filled part name secret (fillSection part name secret es) := by
  intro s hs
  unfold fillSection
  rw [hs]
  cases hinner : section? part es with
  | nil => exact .inl hinner
  | cons e inner => exact .inr ⟨e :: inner, lookup_insert_self⟩

/-- Filling a section that was filled changes nothing. -/
theorem Filled.fillSection_eq (h : Filled part name secret es) :
    fillSection part name secret es = es := by
  unfold fillSection
  cases hs : given secret with
  | none => rfl
  | some s =>
    rcases h s hs with hnil | ⟨inner, hl⟩
    · rw [hnil]
    · have hinner : section? part es = fillFirst name s inner := by rw [section?, hl]; rfl
      have htwice : fillFirst name s (section? part es) = fillFirst name s inner := by
        rw [hinner, fillFirst_fillFirst]
      cases hsection : section? part es with
      | nil => rfl
      | cons e rest =>
        dsimp only
        rw [← hsection, htwice]
        exact insert_of_lookup hl

/-- Whether a section is filled depends on the section only. -/
theorem Filled.congr {es' : List (Data × Data)} (h : Filled part name secret es)
    (hl : lookup part es' = lookup part es) : Filled part name secret es' := by
  intro s hs
  rw [section?, hl]
  exact h s hs

/-- Secrets that were filled in leave nothing to fill the second time. -/
theorem fillTransport_fillTransport :
    secrets.fillTransport (secrets.fillTransport es) = secrets.fillTransport es := by
  have hauth : fillAuth secrets.auth (secrets.fillTransport es) = secrets.fillTransport es := by
    cases hs : given secrets.auth with
    | none => rw [fillAuth, hs]
    | some s =>
      have hl : lookup "auth" (secrets.fillTransport es)
          = some (map (fill "password" s (section? "auth" es))) := by
        rw [fillTransport_eq, lookup_fillSection_of_ne (by decide),
          lookup_fillSection_of_ne (by decide), fillAuth, hs]
        exact lookup_insert_self
      have hsection : section? "auth" (secrets.fillTransport es)
          = fill "password" s (section? "auth" es) := by rw [section?, hl]; rfl
      rw [fillAuth, hs]
      dsimp only
      rw [hsection, fill_fill]
      exact insert_of_lookup hl
  have hproxy : Filled "proxy" "password" secrets.proxy (secrets.fillTransport es) :=
    filled_fillSection.congr (lookup_fillSection_of_ne (by decide))
  have htls : Filled "tls" "keystore_password" secrets.keystore (secrets.fillTransport es) :=
    filled_fillSection
  rw [fillTransport_eq, hauth, hproxy.fillSection_eq, htls.fillSection_eq]

/-- The secrets can be applied twice as well as once. -/
theorem apply_apply (secrets : Secrets) (document : List (Data × Data)) :
    secrets.apply (secrets.apply document) = secrets.apply document := by
  by_cases ht : secrets.fillTransport (section? "transport" document) = []
  · rw [apply_of_nil ht, apply_of_nil ht]
  rw [apply_of_ne ht]
  have hsection : ∀ inner, section? "transport" (insert "transport" (map inner) document) = inner :=
    fun inner => by rw [section?, lookup_insert_self]; rfl
  rw [apply_of_ne]
  · rw [hsection, fillTransport_fillTransport, insert_of_lookup lookup_insert_self]
  · rw [hsection, fillTransport_fillTransport]
    exact ht

/-! ## What a document keeps -/

/-- A document wins over the secrets: what it has is kept, the secrets are all that is added, no
section about a proxy or a keystore is opened for them, and filling them in once more changes
nothing. -/
structure Respects (secrets : Secrets) (document result : List (Data × Data)) : Prop where
  grows : Grows (Added secrets) (map document) (map result)
  unopened : ∀ name, name = "proxy" ∨ name = "tls" → ∀ value,
    (map result).At [.text "transport", .text name] value →
      ∃ old, (map document).At [.text "transport", .text name] old
  settled : secrets.apply result = result

/-- A document with distinct keys wins over the secrets exactly when none is given for the user, or
the sections that this one goes through are mappings, where they are there. -/
theorem apply_respects_iff {secrets : Secrets} {document : List (Data × Data)}
    (hkeyed : (map document).Keyed) :
    Respects secrets document (secrets.apply document) ↔ Fillable secrets document := by
  refine ⟨fun h => fillable_of_kept hkeyed h.grows.kept, fun h => ?_⟩
  have hgrows := grows_apply hkeyed h
  refine ⟨hgrows, fun name hname value hat => ?_, apply_apply secrets document⟩
  rcases hgrows.added _ _ hat with hold | hadded
  · exact hold
  · rcases hname with rfl | rfl
    · exact absurd hadded.eq_auth (by decide)
    · exact absurd hadded.eq_auth (by decide)

/-- Secrets of each kind. -/
def threeSecrets : Secrets where
  auth := some (.whole "one")
  proxy := some (.whole "two")
  keystore := some (.whole "three")

/-- A document with a proxy that has a password of its own, and a keystore that has none. -/
def partlyFilled : List (Data × Data) :=
  [(.text "transport", .map [
    (.text "proxy", .map [(.text "host", .text "proxy"), (.text "password", .text "own")]),
    (.text "tls", .map [(.text "keystore_path", .text "client.pem")])])]

/-- A document with a proxy that has its password, a keystore without one, and no user. -/
theorem apply_respects_iff_partlyFilled :
    (map partlyFilled).Keyed ∧ Respects threeSecrets partlyFilled (threeSecrets.apply partlyFilled) ∧
      threeSecrets.apply partlyFilled = [(.text "transport", .map [
        (.text "proxy", .map [(.text "password", .text "own"), (.text "host", .text "proxy")]),
        (.text "tls", .map [(.text "keystore_password", .text "three"),
          (.text "keystore_path", .text "client.pem")]),
        (.text "auth", .map [(.text "password", .text "one")])])] := by
  have hproxy : (map [(.text "host", .text "proxy"), (.text "password", .text "own")]).Keyed :=
    keyed_map (by decide +kernel) (by simp [keyed_text])
  have htls : (map [(.text "keystore_path", .text "client.pem")]).Keyed :=
    keyed_map (by decide +kernel) (by simp [keyed_text])
  have hkeyed : (map partlyFilled).Keyed :=
    keyed_map (by decide +kernel) (List.forall_mem_singleton.2
      (keyed_map (by decide +kernel) (by simp [hproxy, htls])))
  refine ⟨hkeyed, (apply_respects_iff hkeyed).2 (.inr fun path hpath value hat => ?_),
    by with_unfolding_all rfl⟩
  rcases List.mem_cons.1 hpath with rfl | hpath
  · simp only [at_cons_iff, partlyFilled, List.mem_singleton] at hat
    obtain ⟨inner, he, hat⟩ := hat
    cases he
    exact ⟨_, hat.nil_eq⟩
  · obtain rfl := List.mem_singleton.1 hpath
    simp [at_cons_iff, partlyFilled] at hat

/-- A document in which the section about the user is no mapping. -/
def misplacedAuth : List (Data × Data) :=
  [(.text "transport", .map [(.text "auth", .text "alice")])]

/-- The secret of the user replaces a section that is no mapping. -/
theorem misplacedAuth_not_respected :
    ¬ ∀ (secrets : Secrets) (document : List (Data × Data)), (map document).Keyed →
      Respects secrets document (secrets.apply document) := by
  intro h
  have hkeyed : (map misplacedAuth).Keyed :=
    keyed_map (by decide +kernel) (List.forall_mem_singleton.2
      (keyed_map (by decide +kernel) (by simp [keyed_text])))
  obtain ⟨value, hat, rfl⟩ := (h threeSecrets misplacedAuth hkeyed).grows.kept
    [.text "transport", .text "auth"] (.text "alice")
    (.under List.mem_cons_self (.under List.mem_cons_self (.here _)))
  have hresult : threeSecrets.apply misplacedAuth = [(.text "transport", .map [
    (.text "auth", .map [(.text "password", .text "one")])])] := by with_unfolding_all rfl
  rw [hresult] at hat
  simp [at_cons_iff] at hat
  cases hat

end Secrets

end HttpCourier
