import HttpCourier.Proofs.Loading

/-!
# How configuration data grows

`Data.At` says what stands at a path of keys through mappings, and `Data.Grows` that one value keeps
what stands in another and adds paths only where they may be added. An edit of a mapping is known by
what it makes of the value of each text key (`Data.Edits`); it grows the mapping when it does so to
each of these values (`Edits.grows`).
-/

namespace HttpCourier

namespace Data

variable {name : String} {key value d d' : Data} {es es' : List (Data × Data)}

/-! ## Paths -/

/-- A value stands at the end of a path of keys through mappings. -/
inductive At : Data → List Data → Data → Prop where
  | here (d : Data) : At d [] d
  | under {entries : List (Data × Data)} {key value found : Data} {path : List Data} :
    (key, value) ∈ entries → At value path found → At (.map entries) (key :: path) found

/-- At the empty path stands the value itself. -/
theorem At.nil_eq (h : d.At [] value) : value = d := by
  cases h
  rfl

/-- What stands at a path stands under its first key, at the rest of the path. -/
theorem at_cons_iff {path : List Data} :
    (map es).At (key :: path) value ↔ ∃ inner, (key, inner) ∈ es ∧ inner.At path value := by
  constructor
  · rintro (_ | ⟨hmem, h⟩)
    exact ⟨_, hmem, h⟩
  · rintro ⟨inner, hmem, h⟩
    exact .under hmem h

/-- A value is kept by one in its place: it is the same, or a mapping with at least the same
keys. -/
def KeptBy : Data → Data → Prop
  | map entries, value =>
    ∃ more, value = map more ∧ ∀ key inner, (key, inner) ∈ entries → ∃ inner', (key, inner') ∈ more
  | old, value => value = old

/-- A value keeps itself. -/
theorem KeptBy.refl (d : Data) : d.KeptBy d := by
  cases d with
  | map entries => exact ⟨entries, rfl, fun _ inner h => ⟨inner, h⟩⟩
  | null | flag | whole | real | text | torn | bytes | list | other => rfl

/-- Only a mapping is kept by a mapping. -/
theorem KeptBy.eq_map (h : d.KeptBy (map es)) : ∃ entries, d = map entries := by
  cases d with
  | map entries => exact ⟨entries, rfl⟩
  | null | flag | whole | real | text | torn | bytes | list | other => cases h

/-- One value grows into another: what stands at a path is kept, and paths are added only where they
may be. -/
structure Grows (may : List Data → Data → Prop) (old new : Data) : Prop where
  kept : ∀ path value, old.At path value → ∃ value', new.At path value' ∧ value.KeptBy value'
  added : ∀ path value, new.At path value → (∃ value', old.At path value') ∨ may path value

/-- A value that stays the same grows into itself. -/
theorem Grows.refl (may : List Data → Data → Prop) (d : Data) : Grows may d d :=
  ⟨fun _ value h => ⟨value, h, .refl value⟩, fun _ value h => .inl ⟨value, h⟩⟩

/-- What has grown out of nothing has only paths that may be added. -/
theorem Grows.of_empty {may : List Data → Data → Prop} {path : List Data} (h : Grows may (map []) d)
    (hat : d.At path value) : path = [] ∧ value = d ∨ may path value := by
  refine (h.added path value hat).imp_left ?_
  rintro ⟨old, hold⟩
  cases hold with
  | here => exact ⟨rfl, hat.nil_eq⟩
  | under hmem => cases hmem

/-- What may be added can be said more generously. -/
theorem Grows.mono {may may' : List Data → Data → Prop} (h : Grows may d d')
    (hm : ∀ path value, may path value → may' path value) : Grows may' d d' :=
  ⟨h.kept, fun path value hat => (h.added path value hat).imp_right (hm path value)⟩

/-! ## Text keys -/

/-- The texts among the keys of a mapping. -/
def textKeys (entries : List (Data × Data)) : List String := entries.filterMap fun e => e.1.text?

/-- No two entries of a mapping have the same text as their key. -/
def Plain (entries : List (Data × Data)) : Prop := (textKeys entries).Nodup

/-- The keys of every mapping in a value are distinct. -/
def Keyed (d : Data) : Prop :=
  ∀ path entries, d.At path (.map entries) →
    entries.Pairwise fun a b => isSameKey a.1 b.1 = false

/-- The empty mapping has no key twice. -/
theorem plain_nil : Plain [] := List.Pairwise.nil

/-- A text is among the keys when an entry stands under it. -/
theorem mem_textKeys : name ∈ textKeys es ↔ ∃ value, (text name, value) ∈ es := by
  simp only [textKeys, List.mem_filterMap, Prod.exists]
  constructor
  · rintro ⟨key, value, hmem, hkey⟩
    cases key <;> cases hkey
    exact ⟨value, hmem⟩
  · rintro ⟨value, hmem⟩
    exact ⟨_, value, hmem, rfl⟩

/-- Only a text is a text key. -/
theorem text?_eq_some_iff : key.text? = some name ↔ key = .text name := by
  cases key <;> simp [text?]

/-- No mapping in a keyed value has a text key twice. -/
theorem Keyed.plain {path : List Data} (h : d.Keyed) (hat : d.At path (map es)) : Plain es := by
  refine (h path es hat).filterMap _ fun a b hab m ha n hb hmn => ?_
  rw [text?_eq_some_iff.1 ha, text?_eq_some_iff.1 hb, hmn] at hab
  simp [isSameKey] at hab

/-- A mapping is keyed when its keys are distinct and its values are keyed. -/
theorem keyed_map (hdistinct : es.Pairwise fun a b => isSameKey a.1 b.1 = false)
    (hvalues : ∀ e ∈ es, e.2.Keyed) : (map es).Keyed := by
  intro path entries hat
  cases hat with
  | here => exact hdistinct
  | under hmem hat => exact hvalues _ hmem _ _ hat

/-- A text has no keys. -/
theorem keyed_text (s : String) : (text s).Keyed := nofun

/-- What is found under a key is one of the entries. -/
theorem mem_of_lookup (h : lookup name es = some value) : (text name, value) ∈ es := by
  induction es with
  | nil => cases h
  | cons e rest ih =>
    obtain ⟨k, v⟩ := e
    rw [lookup] at h
    split at h
    · next hk =>
      obtain rfl := isKey_iff.1 hk
      cases h
      exact List.mem_cons_self
    · exact List.mem_cons_of_mem _ (ih h)

/-- In a mapping without a text key twice, an entry is what is found under its key. -/
theorem Plain.lookup_eq (h : Plain es) (hmem : (text name, value) ∈ es) :
    lookup name es = some value := by
  induction es with
  | nil => cases hmem
  | cons e rest ih =>
    obtain ⟨k, v⟩ := e
    rw [lookup]
    rcases List.mem_cons.1 hmem with he | htail
    · cases he
      rw [if_pos (isKey_iff.2 rfl)]
    · have hrest : Plain rest := List.Nodup.sublist ((List.sublist_cons_self _ _).filterMap _) h
      have hne : ¬ isKey name k = true := by
        intro hk
        obtain rfl := isKey_iff.1 hk
        exact (List.nodup_cons.1 h).1 (mem_textKeys.2 ⟨value, htail⟩)
      rw [if_neg hne]
      exact ih hrest htail

/-- What stands below a text key stands below the value that is looked up. -/
theorem Plain.at_cons {path : List Data} (h : Plain es) (hat : (map es).At (.text name :: path) value) :
    ∃ inner, lookup name es = some inner ∧ inner.At path value := by
  obtain ⟨inner, hmem, hat⟩ := at_cons_iff.1 hat
  exact ⟨inner, h.lookup_eq hmem, hat⟩

/-- A section of a keyed document has no text key twice, also when it is not there. -/
theorem Keyed.plain_section (h : (map es).Keyed) (name : String) : Plain (section? name es) := by
  rw [section?]
  cases hl : lookup name es with
  | none => exact plain_nil
  | some d =>
    cases d with
    | map inner => exact h.plain (.under (mem_of_lookup hl) (.here _))
    | null | flag | whole | real | text | torn | bytes | list | other => exact plain_nil

/-- To write under a key leaves the entries under all others. -/
theorem mem_insert_of_ne (h : key ≠ text name) :
    (key, d) ∈ insert name value es ↔ (key, d) ∈ es := by
  induction es with
  | nil => simp [insert, h]
  | cons e rest ih =>
    obtain ⟨k, v⟩ := e
    rw [insert]
    split
    · next hk =>
      obtain rfl := isKey_iff.1 hk
      simp [h]
    · simp [ih]

/-- To write under a key makes no key occur twice. -/
theorem Plain.insert (h : Plain es) : Plain (insert name value es) := by
  induction es with
  | nil => exact List.pairwise_singleton _ name
  | cons e rest ih =>
    obtain ⟨k, v⟩ := e
    rw [Data.insert]
    split
    · exact h
    · next hk =>
      cases ht : k.text? with
      | none =>
        have hcons : ∀ (v : Data) es, textKeys ((k, v) :: es) = textKeys es := fun v es =>
          List.filterMap_cons_none ht
        rw [Plain, hcons] at h ⊢
        exact ih h
      | some other =>
        have hcons : ∀ (v : Data) es, textKeys ((k, v) :: es) = other :: textKeys es := fun v es =>
          List.filterMap_cons_some ht
        rw [Plain, hcons, List.nodup_cons] at h ⊢
        refine ⟨fun hmem => h.1 ?_, ih h.2⟩
        obtain ⟨value, hmem⟩ := mem_textKeys.1 hmem
        rw [mem_insert_of_ne] at hmem
        · exact mem_textKeys.2 ⟨value, hmem⟩
        · rintro he
          cases he
          exact hk (isKey_iff.2 (text?_eq_some_iff.1 ht))

/-! ## Edits -/

/-- An edit of a mapping, by what it makes of the value of each text key. The other keys keep
theirs. -/
structure Edits (f : String → Option Data → Option Data) (old new : List (Data × Data)) : Prop where
  plain : Plain new
  lookup_eq : ∀ name, lookup name new = f name (lookup name old)
  mem_iff : ∀ key value, (∀ name, key ≠ .text name) → ((key, value) ∈ new ↔ (key, value) ∈ old)

/-- Two edits one after another are an edit, key by key. -/
theorem Edits.trans {f g : String → Option Data → Option Data} {es'' : List (Data × Data)}
    (h : Edits f es es') (h' : Edits g es' es'') : Edits (fun n old => g n (f n old)) es es'' where
  plain := h'.plain
  lookup_eq n := by rw [h'.lookup_eq, h.lookup_eq]
  mem_iff key value hk := (h'.mem_iff key value hk).trans (h.mem_iff key value hk)

/-- An edit of the value of one key. -/
def onKey (name : String) (g : Option Data → Option Data) (n : String) (old : Option Data) :
    Option Data :=
  if n = name then g old else old

theorem onKey_self {g : Option Data → Option Data} {old : Option Data} :
    onKey name g name old = g old := if_pos rfl

theorem onKey_of_ne {g : Option Data → Option Data} {old : Option Data} {n : String} (h : n ≠ name) :
    onKey name g n old = old := if_neg h

/-- To write a value under a key is an edit of this key. -/
theorem edits_insert {g : Option Data → Option Data} (h : Plain es)
    (hg : g (lookup name es) = some value) : Edits (onKey name g) es (insert name value es) where
  plain := h.insert
  lookup_eq n := by
    by_cases hn : n = name
    · rw [hn, lookup_insert_self, onKey_self, hg]
    · rw [lookup_insert_of_ne hn, onKey_of_ne hn]
  mem_iff _ _ hk := mem_insert_of_ne (hk name)

/-- What would not change the value of its key is no change of the mapping. -/
theorem edits_self {g : Option Data → Option Data} (h : Plain es)
    (hg : g (lookup name es) = lookup name es) : Edits (onKey name g) es es where
  plain := h
  lookup_eq n := by
    by_cases hn : n = name
    · rw [hn, onKey_self, hg]
    · rw [onKey_of_ne hn]
  mem_iff _ _ _ := Iff.rfl

/-- Paths may be added below the text keys of a mapping. -/
def Below (may : String → List Data → Data → Prop) : List Data → Data → Prop
  | .text name :: path, value => may name path value
  | _, _ => False

/-- What is added below a text key stands at a path that begins with it. -/
theorem exists_of_below {may : String → List Data → Data → Prop} {path : List Data}
    (h : Below may path value) : ∃ name rest, path = .text name :: rest ∧ may name rest value := by
  cases path with
  | nil => exact h.elim
  | cons key rest =>
    cases key with
    | text name => exact ⟨name, rest, rfl, h⟩
    | null | flag | whole | real | torn | bytes | list | map | other => exact h.elim

/-- What is made of the value of a key: a value grows, and where there was none one may be added. -/
def Becomes (may : List Data → Data → Prop) : Option Data → Option Data → Prop
  | some old, some new => Grows may old new
  | some _, none => False
  | none, some new => ∀ path value, new.At path value → may path value
  | none, none => True

/-- The value of a key, or none, may stay as it is. -/
theorem Becomes.refl (may : List Data → Data → Prop) (old : Option Data) : Becomes may old old := by
  cases old with
  | none => trivial
  | some d => exact Grows.refl may d

/-- What may be added can be said more generously. -/
theorem Becomes.mono {may may' : List Data → Data → Prop} {old new : Option Data}
    (h : Becomes may old new) (hm : ∀ path value, may path value → may' path value) :
    Becomes may' old new := by
  cases old with
  | none =>
    cases new with
    | none => trivial
    | some d => exact fun path value hat => hm path value (h path value hat)
  | some d =>
    cases new with
    | none => exact h
    | some d' => exact Grows.mono h hm

/-- An edit grows a mapping when it does so to the value of each text key. -/
theorem Edits.grows {f : String → Option Data → Option Data} (h : Edits f es es')
    (may : String → List Data → Data → Prop) (hplain : Plain es)
    (hf : ∀ name, Becomes (may name) (lookup name es) (f name (lookup name es))) :
    Grows (Below may) (map es) (map es') := by
  have hbecomes : ∀ name, Becomes (may name) (lookup name es) (lookup name es') := fun name => by
    rw [h.lookup_eq]
    exact hf name
  -- where the old value of a key stands now
  have hold : ∀ key value, (key, value) ∈ es → ∃ value', (key, value') ∈ es' ∧
      Grows (fun path => Below may (key :: path)) value value' := by
    intro key value hmem
    by_cases hk : ∃ name, key = .text name
    · obtain ⟨name, rfl⟩ := hk
      have hb := hbecomes name
      rw [hplain.lookup_eq hmem] at hb
      cases hl : lookup name es' with
      | none =>
        rw [hl] at hb
        exact hb.elim
      | some value' =>
        rw [hl] at hb
        exact ⟨value', mem_of_lookup hl, hb⟩
    · exact ⟨value, (h.mem_iff key value fun name hn => hk ⟨name, hn⟩).2 hmem, .refl _ value⟩
  -- where the new value of a key comes from
  have hnew : ∀ key value path found, (key, value) ∈ es' → value.At path found →
      (∃ found', (map es).At (key :: path) found') ∨ Below may (key :: path) found := by
    intro key value path found hmem hat
    by_cases hk : ∃ name, key = .text name
    · obtain ⟨name, rfl⟩ := hk
      have hb := hbecomes name
      rw [h.plain.lookup_eq hmem] at hb
      cases hl : lookup name es with
      | none =>
        rw [hl] at hb
        exact .inr (hb path found hat)
      | some old =>
        rw [hl] at hb
        exact (hb.added path found hat).imp_left fun ⟨found', hat'⟩ =>
          ⟨found', .under (mem_of_lookup hl) hat'⟩
    · have hmem := (h.mem_iff key value fun name hn => hk ⟨name, hn⟩).1 hmem
      exact .inl ⟨found, .under hmem hat⟩
  refine ⟨fun path value hat => ?_, fun path value hat => ?_⟩
  · cases hat with
    | here =>
      exact ⟨map es', .here _, es', rfl, fun key inner hmem =>
        (hold key inner hmem).imp fun _ => And.left⟩
    | under hmem hat =>
      obtain ⟨value', hmem', hgrows⟩ := hold _ _ hmem
      obtain ⟨found', hat', hkept⟩ := hgrows.kept _ _ hat
      exact ⟨found', .under hmem' hat', hkept⟩
  · cases hat with
    | here => exact .inl ⟨map es, .here _⟩
    | under hmem hat => exact hnew _ _ _ _ hmem hat

/-- An edit of one key grows a mapping when it does so to the value there. -/
theorem Edits.grows_onKey {g : Option Data → Option Data} (h : Edits (onKey name g) es es')
    (may : List Data → Data → Prop) (hplain : Plain es)
    (hg : Becomes may (lookup name es) (g (lookup name es))) :
    Grows (fun path value => ∃ rest, path = .text name :: rest ∧ may rest value)
      (map es) (map es') := by
  refine (h.grows (fun n path value => n = name ∧ may path value) hplain fun n => ?_).mono
    fun path value hbelow => ?_
  · by_cases hn : n = name
    · rw [hn, onKey_self]
      exact hg.mono fun _ _ hmay => ⟨rfl, hmay⟩
    · rw [onKey_of_ne hn]
      exact .refl _ _
  · obtain ⟨n, rest, rfl, rfl, hmay⟩ := exists_of_below hbelow
    exact ⟨rest, rfl, hmay⟩

end Data

end HttpCourier
