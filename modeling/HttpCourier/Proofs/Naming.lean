import HttpCourier.Message.Response
import HttpCourier.Proofs.Cuts

/-!
# What the name of a peer tells

The name of a peer lists the entries of its subject, each as its key, an equals sign and its value,
with commas between them. Nothing in it is quoted, and it does not show which entries are of one
group, so subjects that differ can have one name. A subject is `Legible` when each of its groups is
one entry, no value has a comma, a key and an equals sign in a row, and no key has a comma except
the one that is shown first. Every name is the name of a legible subject, and of one only; so a
subject is told apart by its name from all legible ones exactly when it is legible itself
(`Subject.told_apart_iff`).
-/

namespace HttpCourier.Peer

open Text

/-- The subject of a certificate. Its keys are the names of types of attributes, none of which has
an equals sign; its values are any texts. -/
structure Subject where
  groups : List (List (String × String))
  groups_ne : groups ≠ []
  group_ne : ∀ group ∈ groups, group ≠ []
  keys_free : ∀ group ∈ groups, ∀ entry ∈ group, '=' ∉ entry.1.toList

/-! ## Keys -/

/-- A key as it is shown. -/
def shownKey (key : String) : String := (shortNames.lookup key).getD key

/-- A text that can be shown as a key: it has no equals sign, and no short name. -/
structure IsShown (key : String) : Prop where
  no_equals : '=' ∉ key.toList
  no_short : shortNames.lookup key = none

/-- A shown key is shown as itself. -/
theorem IsShown.shownKey_eq {key : String} (h : IsShown key) : shownKey key = key := by
  rw [shownKey, h.no_short, Option.getD_none]

/-- What is shown of a key is a shown key: no short name is the long form of another. -/
theorem isShown_shownKey {key : String} (hequals : '=' ∉ key.toList) : IsShown (shownKey key) := by
  cases h : shortNames.lookup key with
  | none =>
    rw [shownKey, h, Option.getD_none]
    exact ⟨hequals, h⟩
  | some short =>
    obtain ⟨before, after, hnames, -⟩ := List.lookup_eq_some_iff.1 h
    have hmem : (key, short) ∈ shortNames := by rw [hnames]; simp
    have hall : ∀ names ∈ shortNames, '=' ∉ names.2.toList ∧ shortNames.lookup names.2 = none := by
      decide
    rw [shownKey, h, Option.getD_some]
    exact ⟨(hall _ hmem).1, (hall _ hmem).2⟩

/-! ## Runs of entries -/

/-- An entry as it is shown. -/
def line (entry : String × String) : List Char := entry.1.toList ++ '=' :: entry.2.toList

/-- Entries as they are shown, each after a comma. -/
def run (entries : List (String × String)) : List Char :=
  entries.flatMap fun entry => ',' :: line entry

@[simp] theorem run_nil : run [] = [] := rfl

@[simp] theorem run_cons (entry : String × String) (entries : List (String × String)) :
    run (entry :: entries) = ',' :: (entry.1.toList ++ '=' :: (entry.2.toList ++ run entries)) := by
  simp [run, line]

/-- What is read as the beginning of another entry. -/
def opening (key : String) : List Char := ',' :: (key.toList ++ ['='])

/-- A value in which no other entry seems to begin. -/
def LegibleValue (value : String) : Prop :=
  ∀ key, IsShown key → ',' ∉ key.toList → ¬ opening key <:+: value.toList

/-- Entries that are read as they are after another one. -/
def LegibleEntries (entries : List (String × String)) : Prop :=
  ∀ entry ∈ entries, IsShown entry.1 ∧ ',' ∉ entry.1.toList ∧ LegibleValue entry.2

variable {value value' : String}

/-- In an empty value no entry begins. -/
theorem legibleValue_empty : LegibleValue "" := fun key _ _ h => by cases List.infix_nil.1 h

section
variable {entries entries' : List (String × String)}

/-- A legible value does not reach beyond the beginning of another entry. -/
theorem LegibleValue.eq_nil_of_append {more : List Char} (hvalue : LegibleValue value)
    (hentries : LegibleEntries entries) (hmore : value.toList = value'.toList ++ more)
    (h : run entries = more ++ run entries') : more = [] := by
  cases more with
  | nil => rfl
  | cons c more =>
    cases entries with
    | nil => cases h
    | cons entry rest =>
      rw [run_cons, List.cons_append] at h
      obtain ⟨rfl, hrest⟩ := List.cons.inj h
      obtain ⟨⟨hkey, hcomma, -⟩, -⟩ := List.forall_mem_cons.1 hentries
      -- the key ends within the value, for what follows the value is nothing or a comma
      have hfront : entry.1.toList ++ ['='] <+: more := by
        have hleft : entry.1.toList ++ ['='] <+: more ++ run entries' := by
          rw [← hrest]
          exact ⟨entry.2.toList ++ run rest, by simp⟩
        rcases List.prefix_or_prefix_of_prefix hleft (List.prefix_append more _) with hp | ⟨u, hu⟩
        · exact hp
        · cases u with
          | nil => exact ⟨[], by simpa using hu.symm⟩
          | cons d u =>
            rw [← hu, List.prefix_append_right_inj] at hleft
            cases entries' with
            | nil => cases List.prefix_nil.1 hleft
            | cons entry' rest' =>
              rw [run_cons, List.cons_prefix_cons] at hleft
              have hmem : ',' ∈ entry.1.toList ++ ['='] := by rw [← hu, hleft.1]; simp
              simp [hcomma] at hmem
      obtain ⟨tail, rfl⟩ := hfront
      exact absurd ⟨value'.toList, tail, by simp [hmore, opening]⟩ (hvalue _ hkey hcomma)

/-- Where a legible value ends is fixed by the text. -/
theorem LegibleValue.eq_of_append (hvalue : LegibleValue value) (hvalue' : LegibleValue value')
    (hentries : LegibleEntries entries) (hentries' : LegibleEntries entries')
    (h : value.toList ++ run entries = value'.toList ++ run entries') :
    value = value' ∧ run entries = run entries' := by
  rcases List.append_eq_append_iff.1 h with ⟨more, hmore, hr⟩ | ⟨more, hmore, hr⟩
  · obtain rfl := hvalue'.eq_nil_of_append hentries hmore hr
    exact ⟨String.toList_inj.1 (by simpa using hmore.symm), hr⟩
  · obtain rfl := hvalue.eq_nil_of_append hentries' hmore hr
    exact ⟨String.toList_inj.1 (by simpa using hmore), hr.symm⟩

/-- Legible entries can be read from the run. -/
theorem LegibleEntries.eq_of_run (h : LegibleEntries entries) (h' : LegibleEntries entries')
    (hrun : run entries = run entries') : entries = entries' := by
  induction entries generalizing entries' with
  | nil =>
    cases entries' with
    | nil => rfl
    | cons entry' rest' => rw [run_nil, run_cons] at hrun; cases hrun
  | cons entry rest ih =>
    cases entries' with
    | nil => rw [run_nil, run_cons] at hrun; cases hrun
    | cons entry' rest' =>
      obtain ⟨⟨hkey, -, hvalue⟩, hrest⟩ := List.forall_mem_cons.1 h
      obtain ⟨⟨hkey', -, hvalue'⟩, hrest'⟩ := List.forall_mem_cons.1 h'
      rw [run_cons, run_cons] at hrun
      obtain ⟨hkeys, happend⟩ := cut_inj hkey.no_equals hkey'.no_equals (List.cons.inj hrun).2
      obtain ⟨hvalues, hmore⟩ := hvalue.eq_of_append hvalue' hrest hrest' happend
      rw [ih hrest hrest' hmore, Prod.ext (String.toList_inj.1 hkeys) hvalues]

end

/-- Every text is a legible value and the entries that seem to begin in it. -/
theorem exists_cut (text : List Char) :
    ∃ value entries, LegibleValue value ∧ LegibleEntries entries ∧
      text = value.toList ++ run entries := by
  induction text with
  | nil => exact ⟨"", [], legibleValue_empty, by simp [LegibleEntries], rfl⟩
  | cons c text ih =>
    obtain ⟨value, entries, hvalue, hentries, rfl⟩ := ih
    by_cases h : LegibleValue (String.ofList (c :: value.toList))
    · exact ⟨_, entries, h, hentries, by simp⟩
    · simp only [LegibleValue, not_forall, not_not, String.toList_ofList] at h
      obtain ⟨key, hkey, hcomma, hinfix⟩ := h
      obtain ⟨tail, htail⟩ := (List.infix_cons_iff.1 hinfix).resolve_right (hvalue key hkey hcomma)
      rw [opening, List.cons_append] at htail
      obtain ⟨rfl, htext⟩ := List.cons.inj htail
      have hlegible : LegibleValue (String.ofList tail) := fun other hother hfree h =>
        hvalue other hother hfree (h.trans ⟨key.toList ++ ['='], [], by simp [← htext]⟩)
      exact ⟨"", (key, String.ofList tail) :: entries, legibleValue_empty,
        List.forall_mem_cons.2 ⟨⟨hkey, hcomma, hlegible⟩, hentries⟩, by simp [← htext]⟩

/-! ## Subjects -/

namespace Subject

variable {s t : Subject}

/-- A subject with the short names of its keys. -/
def short (s : Subject) : List (List (String × String)) :=
  s.groups.map fun group => group.map fun entry => (shownKey entry.1, entry.2)

/-- The entries in the order in which they are shown. -/
def listing (s : Subject) : List (String × String) := s.short.reverse.flatten

/-- A subject that is read as it is. -/
structure Legible (s : Subject) : Prop where
  single : ∀ group ∈ s.short, ∃ entry, group = [entry]
  values : ∀ entry ∈ s.listing, LegibleValue entry.2
  keys : ∀ entry ∈ s.listing.tail, ',' ∉ entry.1.toList

/-- The name of the other side of an exchange that has shown this subject. -/
def nameIn (s : Subject) (response : Response) : Option String :=
  { response with peer := .subject s.groups }.peerName?

/-- All keys of a listing are shown ones. -/
theorem isShown_of_mem {entry : String × String} (h : entry ∈ s.listing) : IsShown entry.1 := by
  simp only [listing, short, List.mem_flatten, List.mem_reverse, List.mem_map] at h
  obtain ⟨_, ⟨group, hgroup, rfl⟩, hentry⟩ := h
  obtain ⟨raw, hraw, rfl⟩ := List.mem_map.1 hentry
  exact isShown_shownKey (s.keys_free group hgroup raw hraw)

/-- A subject has at least one entry. -/
theorem exists_listing (s : Subject) : ∃ first rest, s.listing = first :: rest := by
  obtain ⟨group, hgroup⟩ := List.exists_mem_of_ne_nil _ s.groups_ne
  obtain ⟨entry, hentry⟩ := List.exists_mem_of_ne_nil _ (s.group_ne group hgroup)
  refine List.exists_cons_of_ne_nil (List.ne_nil_of_mem (a := (shownKey entry.1, entry.2)) ?_)
  simp only [listing, short, List.mem_flatten, List.mem_reverse, List.mem_map]
  exact ⟨_, ⟨group, hgroup, rfl⟩, List.mem_map.2 ⟨entry, hentry, rfl⟩⟩

/-- The parts of a name with commas between them, and one in front. -/
theorem cons_intercalate {parts : List (List Char)} (h : parts ≠ []) :
    ',' :: [','].intercalate parts = parts.flatMap (',' :: ·) := by
  induction parts with
  | nil => exact absurd rfl h
  | cons part rest ih =>
    cases rest with
    | nil => simp
    | cons next rest =>
      rw [List.intercalate_cons_cons, List.flatMap_cons, ← ih (List.cons_ne_nil _ _)]
      simp

/-- The name of a subject is its listing, with commas between the entries. -/
theorem name?_eq (s : Subject) :
    ∃ name, (Peer.subject s.groups).name? = some name ∧ ',' :: name.toList = run s.listing := by
  obtain ⟨first, rest, hlisting⟩ := s.exists_listing
  have hparts : (s.groups.reverse.flatMap fun group => group.map part).map String.toList
      = s.listing.map line := by
    simp only [listing, short, ← List.map_reverse, List.map_flatten, List.map_map, List.flatMap_def]
    refine congrArg List.flatten (List.map_congr_left fun group _ => ?_)
    rw [Function.comp_apply, Function.comp_apply, List.map_map, List.map_map]
    exact List.map_congr_left fun entry _ => by simp [part, line, shownKey]
  have hname : ',' :: (",".intercalate
      (s.groups.reverse.flatMap fun group => group.map part)).toList = run s.listing := by
    rw [String.toList_intercalate, hparts]
    refine (cons_intercalate (by simp [hlisting])).trans ?_
    rw [List.flatMap_map, run]
  refine ⟨_, ?_, hname⟩
  rw [name?]
  refine if_neg fun hempty => ?_
  rw [String.isEmpty_iff.1 hempty, hlisting, run_cons] at hname
  simp at hname

/-- Two subjects have one name exactly when their entries are shown alike. -/
theorem nameIn_eq_iff {response : Response} (secure : response.request.url.scheme = "https") :
    s.nameIn response = t.nameIn response ↔ run s.listing = run t.listing := by
  obtain ⟨name, hname, hrun⟩ := s.name?_eq
  obtain ⟨name', hname', hrun'⟩ := t.name?_eq
  have hs : s.nameIn response = some name := (if_pos secure).trans hname
  have ht : t.nameIn response = some name' := (if_pos secure).trans hname'
  rw [hs, ht, ← hrun, ← hrun', Option.some_inj, List.cons.injEq, String.toList_inj]
  simp

/-- Whether a subject is legible is a matter of its short form. -/
theorem Legible.congr (hs : s.Legible) (h : s.short = t.short) : t.Legible := by
  have hlisting : s.listing = t.listing := by rw [listing, listing, h]
  exact ⟨h ▸ hs.single, hlisting ▸ hs.values, hlisting ▸ hs.keys⟩

/-- All entries of a legible subject but the first are read as they are. -/
theorem Legible.entries {first : String × String} {rest : List (String × String)} (h : s.Legible)
    (hlisting : s.listing = first :: rest) : LegibleEntries rest := by
  intro entry hentry
  have hmem : entry ∈ s.listing := hlisting ▸ List.mem_cons_of_mem first hentry
  exact ⟨isShown_of_mem hmem, h.keys entry (hlisting ▸ hentry), h.values entry hmem⟩

/-- A legible subject is known from its entries. -/
theorem Legible.short_eq (h : s.Legible) : s.short = (s.listing.map fun entry => [entry]).reverse := by
  have hsingle : ∀ groups : List (List (String × String)),
      (∀ group ∈ groups, ∃ entry, group = [entry]) →
        groups = groups.flatten.map fun entry => [entry] := by
    intro groups hgroups
    induction groups with
    | nil => rfl
    | cons group rest ih =>
      obtain ⟨⟨entry, rfl⟩, hrest⟩ := List.forall_mem_cons.1 hgroups
      conv => lhs; rw [ih hrest]
      simp
  rw [listing, ← hsingle _ fun group hgroup => h.single group (List.mem_reverse.1 hgroup),
    List.reverse_reverse]

/-- Legible subjects with one name are the same subject, up to the short names of keys. -/
theorem Legible.short_eq_of_run (hs : s.Legible) (ht : t.Legible)
    (h : run s.listing = run t.listing) : s.short = t.short := by
  obtain ⟨first, rest, hsl⟩ := s.exists_listing
  obtain ⟨first', rest', htl⟩ := t.exists_listing
  have hfirst : first ∈ s.listing := hsl ▸ List.mem_cons_self
  have hfirst' : first' ∈ t.listing := htl ▸ List.mem_cons_self
  rw [hsl, htl, run_cons, run_cons] at h
  obtain ⟨hkeys, happend⟩ := cut_inj (isShown_of_mem hfirst).no_equals
    (isShown_of_mem hfirst').no_equals (List.cons.inj h).2
  obtain ⟨hvalues, hmore⟩ := (hs.values first hfirst).eq_of_append (ht.values first' hfirst')
    (hs.entries hsl) (ht.entries htl) happend
  have hrest := (hs.entries hsl).eq_of_run (ht.entries htl) hmore
  rw [hs.short_eq, ht.short_eq, hsl, htl, hrest, Prod.ext (String.toList_inj.1 hkeys) hvalues]

/-- Every name is that of a legible subject. -/
theorem exists_legible (s : Subject) : ∃ p : Subject, p.Legible ∧ run p.listing = run s.listing := by
  obtain ⟨first, rest, hlisting⟩ := s.exists_listing
  have hfirst : IsShown first.1 := isShown_of_mem (hlisting ▸ List.mem_cons_self)
  obtain ⟨value, entries, hvalue, hentries, hcut⟩ := exists_cut (first.2.toList ++ run rest)
  have hshown : ∀ entry ∈ (first.1, value) :: entries, IsShown entry.1 :=
    List.forall_mem_cons.2 ⟨hfirst, fun entry h => (hentries entry h).1⟩
  let p : Subject :=
    { groups := (((first.1, value) :: entries).map fun entry => [entry]).reverse
      groups_ne := by simp
      group_ne := fun group hgroup => by
        obtain ⟨entry, -, rfl⟩ := List.mem_map.1 (List.mem_reverse.1 hgroup)
        exact List.cons_ne_nil _ _
      keys_free := fun group hgroup entry hentry => by
        obtain ⟨single, hsingle, rfl⟩ := List.mem_map.1 (List.mem_reverse.1 hgroup)
        rw [List.mem_singleton.1 hentry]
        exact (hshown single hsingle).no_equals }
  have hshort : p.short = (((first.1, value) :: entries).map fun entry => [entry]).reverse := by
    simp only [short, p, List.map_reverse, List.map_map]
    refine congrArg _ (List.map_congr_left fun entry hentry => ?_)
    simp [(hshown entry hentry).shownKey_eq]
  have hp : p.listing = (first.1, value) :: entries := by
    rw [listing, hshort, List.reverse_reverse, ← List.flatMap_def, List.flatMap_singleton']
  refine ⟨p, ⟨fun group hgroup => ?_, ?_, ?_⟩, ?_⟩
  · rw [hshort, List.mem_reverse, List.mem_map] at hgroup
    obtain ⟨entry, -, rfl⟩ := hgroup
    exact ⟨entry, rfl⟩
  · exact hp ▸ List.forall_mem_cons.2 ⟨hvalue, fun entry h => (hentries entry h).2.2⟩
  · exact hp ▸ fun entry h => (hentries entry h).2.1
  · rw [hp, hlisting, run_cons, run_cons, hcut]

/-- Over a secure connection every name is that of a legible subject, and a subject is told apart by
its name from all other legible ones exactly when it is legible itself. -/
theorem told_apart_iff (response : Response) (secure : response.request.url.scheme = "https")
    (s : Subject) :
    (∃ p : Subject, p.Legible ∧ p.nameIn response = s.nameIn response) ∧
    ((∀ p : Subject, p.Legible → p.nameIn response = s.nameIn response → p.short = s.short) ↔
      s.Legible) := by
  obtain ⟨p, hp, hrun⟩ := s.exists_legible
  have hname : p.nameIn response = s.nameIn response := (nameIn_eq_iff secure).2 hrun
  refine ⟨⟨p, hp, hname⟩, fun h => hp.congr (h p hp hname), fun hs q hq hqs => ?_⟩
  exact hq.short_eq_of_run hs ((nameIn_eq_iff secure).1 hqs)

/-- A subject of one entry, whose value has what looks like another. -/
def crafted : Subject :=
  { groups := [[("commonName", "a,O=b")]]
    groups_ne := by decide, group_ne := by decide, keys_free := by decide }

/-- A subject of two groups. -/
def honest : Subject :=
  { groups := [[("organizationName", "b")], [("commonName", "a")]]
    groups_ne := by decide, group_ne := by decide, keys_free := by decide }

/-- An answer that came over a secure connection. -/
def secureResponse : Response :=
  { request :=
      { method := "GET", url := { scheme := "https", host := "example.com", path := "/" }
        fields := [] }
    status := 200 }

/-- A value in which another entry seems to begin is not legible. -/
theorem not_legible_crafted : ¬ crafted.Legible := fun h =>
  h.values ("CN", "a,O=b") (by decide) "O" ⟨by decide, by decide⟩ (by decide)
    ⟨['a'], ['b'], by decide⟩

/-- The crafted subject has the name of a legible one with another short form. -/
theorem told_apart_iff_crafted :
    secureResponse.request.url.scheme = "https" ∧
    (∃ p : Subject, p.Legible ∧ p.nameIn secureResponse = crafted.nameIn secureResponse) ∧
    ¬ ∀ p : Subject, p.Legible → p.nameIn secureResponse = crafted.nameIn secureResponse →
      p.short = crafted.short :=
  have htold := told_apart_iff secureResponse rfl crafted
  ⟨rfl, htold.1, fun h => not_legible_crafted (htold.2.1 h)⟩

/-- A value with a comma can make a subject read as another. -/
theorem crafted_named_as_honest :
    crafted.nameIn secureResponse = some "CN=a,O=b" ∧
    honest.nameIn secureResponse = some "CN=a,O=b" ∧ crafted.short ≠ honest.short := by
  decide

end Subject

end HttpCourier.Peer
