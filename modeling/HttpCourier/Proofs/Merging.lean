import HttpCourier.Proofs.Filling
import HttpCourier.Proofs.Verdicts

/-!
# Configurations with secrets filled in

A document that was accepted is read again after secrets were filled into it. What a filling makes
of the value of each key is known (`Secrets.lookup_fillSection`), so the fields of each section are
read as before, except for its password. A password for a proxy that was accepted without one lacks
its name: such a document is rejected, and every other one is accepted with at most other passwords
(`Config.read_apply`).
-/

namespace HttpCourier

open Data

namespace Secrets

variable {name part n : String} {s : LooseText} {secret : Option LooseText} {es : List (Data × Data)}

/-! ## Values and keys after a filling -/

/-- What is found under a key after a section was filled: the section changes, the other keys keep
theirs. -/
theorem lookup_fillSection :
    lookup n (fillSection part name secret es)
      = onKey part (sectionOf name secret) n (lookup n es) := by
  by_cases hn : n = part
  · subst hn
    rw [onKey_self, fillSection, sectionOf, section?]
    cases hs : given secret with
    | none => rfl
    | some s =>
      cases hinner : ((lookup n es).bind entries?).getD [] with
      | nil => rfl
      | cons e inner => exact lookup_insert_self
  · rw [onKey_of_ne hn, lookup_fillSection_of_ne hn]

/-- What is found under a key after the user's secret was filled in. -/
theorem lookup_fillAuth :
    lookup n (fillAuth secret es) = onKey "auth" (authOf secret) n (lookup n es) := by
  by_cases hn : n = "auth"
  · subst hn
    rw [onKey_self, fillAuth, authOf, section?]
    cases hs : given secret with
    | none => rfl
    | some s => exact lookup_insert_self
  · rw [onKey_of_ne hn, fillAuth]
    cases given secret with
    | none => rfl
    | some s => exact lookup_insert_of_ne hn

variable {secrets : Secrets}

/-- The three sections after all secrets were filled in: each has its own secret and no other. -/
theorem lookup_fillTransport :
    lookup "auth" (secrets.fillTransport es) = authOf secrets.auth (lookup "auth" es) ∧
      lookup "proxy" (secrets.fillTransport es)
        = sectionOf "password" secrets.proxy (lookup "proxy" es) ∧
      lookup "tls" (secrets.fillTransport es)
        = sectionOf "keystore_password" secrets.keystore (lookup "tls" es) := by
  simp only [fillTransport_eq, lookup_fillSection, lookup_fillAuth]
  exact ⟨rfl, rfl, rfl⟩

/-- A mapping has no keys but those of another, and some texts. -/
def KeysWithin (names : List String) (old new : List (Data × Data)) : Prop :=
  ∀ e ∈ new, (∃ value, (e.1, value) ∈ old) ∨ ∃ name ∈ names, e.1 = .text name

/-- A mapping has no keys but its own. -/
theorem KeysWithin.refl (names : List String) (es : List (Data × Data)) : KeysWithin names es es :=
  fun e he => .inl ⟨e.2, he⟩

/-- Two changes that add keys of a list add no others. -/
theorem KeysWithin.trans {names : List String} {es' es'' : List (Data × Data)}
    (h : KeysWithin names es es') (h' : KeysWithin names es' es'') : KeysWithin names es es'' := by
  intro e he
  rcases h' e he with ⟨value, hmem⟩ | hname
  · exact h (e.1, value) hmem
  · exact .inr hname

/-- To write a value under a key of the list adds no key beyond it. -/
theorem keysWithin_insert {names : List String} {value : Data} (h : name ∈ names) :
    KeysWithin names es (insert name value es) := by
  intro e he
  by_cases hk : e.1 = .text name
  · exact .inr ⟨name, h, hk⟩
  · exact .inl ⟨e.2, (mem_insert_of_ne hk).1 he⟩

/-- A secret adds its own key at most. -/
theorem keysWithin_fill : KeysWithin [name] es (fill name s es) := by
  unfold fill
  cases hl : lookup name es with
  | some value => exact .refl _ es
  | none =>
    dsimp only
    rw [append_eq_insert hl]
    exact keysWithin_insert List.mem_cons_self

/-- A secret put first adds its own key at most. -/
theorem keysWithin_fillFirst : KeysWithin [name] es (fillFirst name s es) := by
  intro e he
  rcases List.mem_cons.1 he with rfl | he
  · exact .inr ⟨name, List.mem_cons_self, rfl⟩
  · exact .inl ⟨e.2, (List.mem_filter.1 he).1⟩

/-- To fill a section adds no key beside the section's. -/
theorem keysWithin_fillSection {names : List String} (h : part ∈ names) :
    KeysWithin names es (fillSection part name secret es) := by
  unfold fillSection
  split
  case h_1 | h_2 => exact .refl _ es
  case h_3 => exact keysWithin_insert h

/-- To fill in all secrets adds the keys of the three sections at most. -/
theorem keysWithin_fillTransport :
    KeysWithin ["auth", "proxy", "tls"] es (secrets.fillTransport es) := by
  have hauth : KeysWithin ["auth", "proxy", "tls"] es (fillAuth secrets.auth es) := by
    unfold fillAuth
    cases given secrets.auth with
    | none => exact .refl _ es
    | some s => exact keysWithin_insert (by decide)
  rw [fillTransport_eq]
  exact (hauth.trans (keysWithin_fillSection (by decide))).trans (keysWithin_fillSection (by decide))

end Secrets

namespace Config

open Verdict Secrets

variable {α : Type} {es es' : Entries} {names : List String} {x : α}

/-! ## Sections that were accepted -/

/-- A mapping has no keys but the names that a section knows. -/
def Known (names : List String) (es : Entries) : Prop := ∀ e ∈ es, unknownKey names e.1 = none

/-- A name of the section is known to it. -/
theorem unknownKey_text {name : String} (h : name ∈ names) : unknownKey names (.text name) = none := by
  simp [unknownKey, wordsOf?, h]

/-- A mapping stays known to a section when the keys added to it are names of the section. -/
theorem Known.of_keysWithin {more : List String} (h : Known names es) (hk : KeysWithin more es es')
    (hmore : ∀ name ∈ more, name ∈ names) : Known names es' := by
  intro e he
  rcases hk e he with ⟨value, hmem⟩ | ⟨name, hname, hkey⟩
  · exact h (e.1, value) hmem
  · rw [hkey]
    exact unknownKey_text (hmore name hname)

/-- A known key has no surrogates. -/
theorem Known.any_isTorn (h : Known names es) : (es.any fun e => e.1.isTorn) = false := by
  rw [List.any_eq_false]
  rintro ⟨key, value⟩ hmem htorn
  cases key with
  | torn t => cases h _ hmem
  | null | flag | whole | real | text | bytes | list | map | other => cases htorn

/-- A section with known keys only is read as its fields are. -/
theorem readSection_of_known {model : String} {fields : Entries → Verdict α} (h : Known names es) :
    readSection model names fields (.map es) = fields es := by
  have hnil : (es.filterMap fun e => unknownKey names e.1) = [] := List.filterMap_eq_nil_iff.2 h
  rw [readSection, if_neg (by rw [h.any_isTorn]; exact Bool.false_ne_true), hnil]
  cases fields es with
  | rejected issues => rw [withIssues, List.append_nil]
  | accepted | broken => rfl

/-- An accepted section is a mapping with known keys, whose fields were accepted. -/
theorem readSection_eq_accepted {model : String} {fields : Entries → Verdict α} {d : Data}
    (h : readSection model names fields d = .accepted x) :
    ∃ es, d = .map es ∧ Known names es ∧ fields es = .accepted x := by
  cases d with
  | map es =>
    have hknown : (es.filterMap fun e => unknownKey names e.1) = [] := by
      rw [readSection] at h
      split at h
      · exact absurd h replacedBy_ne_accepted
      cases hmore : es.filterMap fun e => unknownKey names e.1 with
      | nil => rfl
      | cons issue more =>
        rw [hmore] at h
        cases hf : fields es <;> rw [hf] at h <;> cases h
    have hknown' : Known names es := List.filterMap_eq_nil_iff.1 hknown
    rw [readSection_of_known hknown'] at h
    exact ⟨es, rfl, hknown', h⟩
  | null | flag | whole | real | text | torn | bytes | list | other => cases h

/-- A field depends on the value under its name only. -/
theorem field_congr {name : String} {default : α} {read : Data → Verdict α}
    (h : lookup name es' = lookup name es) :
    field name default read es' = field name default read es := by
  rw [field, field, h]

/-- A needed field depends on the value under its name only. -/
theorem needed_congr {name : String} {read : Data → Verdict α}
    (h : lookup name es' = lookup name es) : needed name read es' = needed name read es := by
  rw [needed, needed, h]

/-- A text is read as it is. -/
theorem readLoose_ofLoose (s : LooseText) : readLoose (.ofLoose s) = .accepted s := by
  cases s with
  | torn t => rfl
  | whole s =>
    rw [ofLoose, readLoose, readText, wordsOf?]
    · dsimp only
      rw [String.ofList_toList]
      rfl
    · nofun

/-- A secret that was filled in is read as itself. -/
theorem readOptional_readLoose_ofLoose (s : LooseText) :
    readOptional readLoose (.ofLoose s) = .accepted (some s) := by
  rw [readOptional, readLoose_ofLoose]
  · rfl
  · cases s <;> nofun

/-- A field that was filled in is read as a text, and any other one as before. -/
theorem exists_field_filled {name : String} {s : LooseText} {default y : α} {read : Data → Verdict α}
    (h : field name default read es = .accepted x) (hread : read (.ofLoose s) = .accepted y)
    (hl : lookup name es' = filled s (lookup name es)) :
    ∃ z, field name default read es' = .accepted z := by
  cases hold : lookup name es with
  | none =>
    rw [hold] at hl
    refine ⟨y, ?_⟩
    rw [field, hl, filled]
    dsimp only [Option.getD]
    rw [hread]
    rfl
  | some d =>
    rw [hold] at hl
    exact ⟨x, by rw [field_congr (hl.trans hold.symm), h]⟩

/-! ## The sections with secrets -/

/-- A login that was accepted is accepted with a password filled in, and differs in it only. -/
theorem readAuth_fill {auth : Auth} {s : LooseText} (h : readAuth (.map es) = .accepted auth) :
    ∃ password, readAuth (.map (fill "password" s es)) = .accepted { auth with password } := by
  obtain ⟨_, he, hknown, h5⟩ := readSection_eq_accepted h
  obtain rfl := map.inj he
  obtain ⟨_, useDigest, h4, hdigest, rfl⟩ := accepted_of_seq h5
  obtain ⟨_, useNtlm, h3, hntlm, rfl⟩ := accepted_of_seq h4
  obtain ⟨_, ntlmDomain, h2, hdomain, rfl⟩ := accepted_of_seq h3
  obtain ⟨_, password, h1, hpassword, rfl⟩ := accepted_of_seq h2
  obtain ⟨username, hname, rfl⟩ := accepted_of_map h1
  have hother : ∀ n, n ≠ "password" → lookup n (fill "password" s es) = lookup n es := fun n hn => by
    rw [lookup_fill, onKey_of_ne hn]
  obtain ⟨password', hpassword'⟩ :=
    exists_field_filled (s := s) hpassword (readLoose_ofLoose s) (lookup_fill.trans onKey_self)
  refine ⟨password', ?_⟩
  rw [readAuth, readSection_of_known (hknown.of_keysWithin keysWithin_fill (by decide)),
    field_congr (hother "username" (by decide)), field_congr (hother "ntlm_domain" (by decide)),
    field_congr (hother "use_ntlm" (by decide)), field_congr (hother "use_digest" (by decide)),
    hname, hpassword', hdomain, hntlm, hdigest]
  rfl

/-- Transport security that was accepted is accepted with a password filled in, and differs in it
only. -/
theorem readTls_fillFirst {tls : Tls} {s : LooseText} (h : readTls (.map es) = .accepted tls) :
    ∃ password, readTls (.map (fillFirst "keystore_password" s es))
      = .accepted { tls with keystorePassword := password } := by
  obtain ⟨_, he, hknown, h4⟩ := readSection_eq_accepted h
  obtain rfl := map.inj he
  obtain ⟨_, truststore, h3, htruststore, rfl⟩ := accepted_of_seq h4
  obtain ⟨_, password, h2, hpassword, rfl⟩ := accepted_of_seq h3
  obtain ⟨_, key, h1, hkey, rfl⟩ := accepted_of_seq h2
  obtain ⟨keystore, hkeystore, rfl⟩ := accepted_of_map h1
  have hother : ∀ n, n ≠ "keystore_password" →
      lookup n (fillFirst "keystore_password" s es) = lookup n es := fun n hn => by
    rw [lookup_fillFirst, onKey_of_ne hn]
  obtain ⟨password', hpassword'⟩ :=
    exists_field_filled hpassword (readOptional_readLoose_ofLoose s) (lookup_fillFirst.trans onKey_self)
  refine ⟨password', ?_⟩
  rw [readTls, readSection_of_known (hknown.of_keysWithin keysWithin_fillFirst (by decide)),
    field_congr (hother "keystore_path" (by decide)),
    field_congr (hother "keystore_key_path" (by decide)),
    field_congr (hother "truststore_path" (by decide)), hkeystore, hkey, hpassword', htruststore]
  rfl

/-- A proxy is accepted unchanged, with both halves of a login or with neither. -/
theorem checkProxy_eq_accepted {p q : Proxy} (h : checkProxy q = .accepted p) :
    q = p ∧ isSet q.username = isSet q.password := by
  unfold checkProxy at h
  split at h
  case isTrue hpair => exact ⟨accepted.inj h, hpair⟩
  case isFalse => cases h

/-- A proxy that has a password entry is read as before. -/
theorem readProxy_fillFirst_of_some {p : Proxy} {s : LooseText} {d : Data}
    (h : readProxy (.map es) = .accepted p) (hl : lookup "password" es = some d) :
    readProxy (.map (fillFirst "password" s es)) = .accepted p := by
  obtain ⟨q, hsection, hcheck⟩ := accepted_of_andThen h
  obtain ⟨_, he, hknown, hfields⟩ := readSection_eq_accepted hsection
  obtain rfl := map.inj he
  have hsame : ∀ n, lookup n (fillFirst "password" s es) = lookup n es := fun n => by
    rw [lookup_fillFirst]
    by_cases hn : n = "password"
    · rw [hn, onKey_self, hl]
      rfl
    · rw [onKey_of_ne hn]
  rw [readProxy, readSection_of_known (hknown.of_keysWithin keysWithin_fillFirst (by decide)),
    field_congr (hsame "type"), needed_congr (hsame "host"), needed_congr (hsame "port"),
    field_congr (hsame "username"), field_congr (hsame "password"), hfields]
  exact hcheck

/-- A proxy that has no password entry is accepted without a name only, so a password is objected
to. -/
theorem readProxy_fillFirst_of_none {p : Proxy} {s : LooseText}
    (h : readProxy (.map es) = .accepted p) (hs : s.isEmpty = false)
    (hl : lookup "password" es = none) :
    readProxy (.map (fillFirst "password" s es))
      = objection "If proxy username or proxy password is set, both must be set" := by
  obtain ⟨q, hsection, hcheck⟩ := accepted_of_andThen h
  obtain ⟨_, he, hknown, h5⟩ := readSection_eq_accepted hsection
  obtain rfl := map.inj he
  obtain ⟨_, password, h4, hpassword, rfl⟩ := accepted_of_seq h5
  obtain ⟨_, username, h3, hname, rfl⟩ := accepted_of_seq h4
  obtain ⟨_, port, h2, hport, rfl⟩ := accepted_of_seq h3
  obtain ⟨_, host, h1, hhost, rfl⟩ := accepted_of_seq h2
  obtain ⟨secure, htype, rfl⟩ := accepted_of_map h1
  have hnone : password = none := by
    rw [field, hl] at hpassword
    exact (accepted.inj hpassword).symm
  have hunset : isSet username = false := by
    have hpair := (checkProxy_eq_accepted hcheck).2
    rw [hnone] at hpair
    exact hpair
  have hother : ∀ n, n ≠ "password" → lookup n (fillFirst "password" s es) = lookup n es :=
    fun n hn => by rw [lookup_fillFirst, onKey_of_ne hn]
  have hfilled : field "password" none (readOptional readLoose) (fillFirst "password" s es)
      = .accepted (some s) := by
    rw [field, lookup_fillFirst, onKey_self, hl]
    exact congrArg (Verdict.under "password") (readOptional_readLoose_ofLoose s)
  rw [readProxy, readSection_of_known (hknown.of_keysWithin keysWithin_fillFirst (by decide)),
    field_congr (hother "type" (by decide)), needed_congr (hother "host" (by decide)),
    needed_congr (hother "port" (by decide)), field_congr (hother "username" (by decide)),
    htype, hhost, hport, hname, hfilled]
  have hset : isSet (some s) = true := by simp [isSet, hs]
  exact if_neg (by simp only [hunset, hset, Bool.false_eq_true, not_false_eq_true])

/-! ## The section about transport -/

/-- A section that is filled is left as it is, or has entries. -/
theorem sectionOf_cases (name : String) (secret : Option LooseText) (old : Option Data) :
    sectionOf name secret old = old ∨ ∃ s inner, given secret = some s ∧ old = some (.map inner) ∧
      sectionOf name secret old = some (.map (fillFirst name s inner)) := by
  unfold sectionOf
  cases hs : given secret with
  | none => exact .inl rfl
  | some s =>
    cases hinner : (old.bind entries?).getD [] with
    | nil => exact .inl rfl
    | cons e inner => exact .inr ⟨s, _, rfl, eq_map_of_entries hinner, rfl⟩

/-- A mapping under the name of an optional section is read as the section. -/
theorem field_optional_map {name : String} {read : Data → Verdict α} {inner : Entries}
    (h : lookup name es = some (.map inner)) :
    field name none (readOptional read) es = (Verdict.map some (read (.map inner))).under name := by
  rw [field, h]
  rfl

/-- An accepted section is read from the entries found under its name, which may be none. -/
theorem read_section_of_field {name : String} {default : α} {read : Data → Verdict α}
    (h : field name default read es = .accepted x) (hdefault : read (.map []) = .accepted default)
    (hmap : ∀ d x, read d = .accepted x → ∃ inner, d = .map inner) :
    read (.map (section? name es)) = .accepted x := by
  rw [section?]
  cases hl : lookup name es with
  | none =>
    rw [field, hl] at h
    exact hdefault.trans h
  | some d =>
    rw [field, hl] at h
    have hread := accepted_of_under h
    obtain ⟨inner, rfl⟩ := hmap d x hread
    exact hread

/-- Only a mapping is accepted as a login. -/
theorem exists_map_of_readAuth {d : Data} {auth : Auth} (h : readAuth d = .accepted auth) :
    ∃ inner, d = .map inner := by
  obtain ⟨inner, rfl, -⟩ := readSection_eq_accepted h
  exact ⟨inner, rfl⟩

/-- Only a mapping is accepted as a section about transport. -/
theorem exists_map_of_readTransport {d : Data} {t : Transport} (h : readTransport d = .accepted t) :
    ∃ inner, d = .map inner := by
  obtain ⟨_, hsection, -⟩ := accepted_of_andThen h
  obtain ⟨inner, rfl, -⟩ := readSection_eq_accepted hsection
  exact ⟨inner, rfl⟩

/-- What is known of an accepted section about transport. -/
structure ReadsTransport (es : Entries) (t : Transport) : Prop where
  known : Known ["connect_timeout_seconds", "read_timeout_seconds", "follow_redirects", "proxy", "tls",
    "auth", "cache"] es
  connectTime : field "connect_timeout_seconds" (.ofNat 5) readTimeout es = .accepted t.connectTimeout
  readTime : field "read_timeout_seconds" (.ofNat 15) readTimeout es = .accepted t.readTimeout
  follows : field "follow_redirects" true readSwitch es = .accepted t.followRedirects
  proxy : field "proxy" none (readOptional readProxy) es = .accepted t.proxy
  tls : field "tls" none (readOptional readTls) es = .accepted t.tls
  auth : field "auth" {} readAuth es = .accepted t.auth
  cache : field "cache" {} readCache es = .accepted t.cache
  checked : checkTransport t = .accepted t

/-- An accepted section about transport was accepted in each of its fields. -/
theorem reads_of_readTransport {t : Transport} (h : readTransport (.map es) = .accepted t) :
    ReadsTransport es t := by
  obtain ⟨q, hsection, hcheck⟩ := accepted_of_andThen h
  obtain rfl : q = t := by
    unfold checkTransport at hcheck
    split at hcheck
    case isTrue => cases hcheck
    case isFalse => exact accepted.inj hcheck
  obtain ⟨_, he, hknown, h7⟩ := readSection_eq_accepted hsection
  obtain rfl := map.inj he
  obtain ⟨_, cache, h6, hcache, rfl⟩ := accepted_of_seq h7
  obtain ⟨_, auth, h5, hauth, rfl⟩ := accepted_of_seq h6
  obtain ⟨_, tls, h4, htls, rfl⟩ := accepted_of_seq h5
  obtain ⟨_, proxy, h3, hproxy, rfl⟩ := accepted_of_seq h4
  obtain ⟨_, follows, h2, hfollows, rfl⟩ := accepted_of_seq h3
  obtain ⟨_, readTime, h1, hreadTime, rfl⟩ := accepted_of_seq h2
  obtain ⟨connectTime, hconnectTime, rfl⟩ := accepted_of_map h1
  exact ⟨hknown, hconnectTime, hreadTime, hfollows, hproxy, htls, hauth, hcache, hcheck⟩

/-- The section about transport is read as before but for the three sections in it, of which only
the one about the proxy may object. -/
theorem ReadsTransport.of_filled {t : Transport} {auth : Auth} {tls : Option Tls}
    (h : ReadsTransport es t) (hkeys : KeysWithin ["auth", "proxy", "tls"] es es')
    (hother : ∀ n, n ≠ "auth" → n ≠ "proxy" → n ≠ "tls" → lookup n es' = lookup n es)
    (hauth : field "auth" {} readAuth es' = .accepted auth)
    (htls : field "tls" none (readOptional readTls) es' = .accepted tls) :
    readTransport (.map es') = (field "proxy" none (readOptional readProxy) es').andThen fun proxy =>
      checkTransport { t with proxy, tls, auth } := by
  have hsame : ∀ n, n ∈ ["connect_timeout_seconds", "read_timeout_seconds", "follow_redirects",
      "cache"] → lookup n es' = lookup n es := by
    intro n hn
    refine hother n ?_ ?_ ?_
    all_goals
      rintro rfl
      revert hn
      decide
  rw [readTransport, readSection_of_known (h.known.of_keysWithin hkeys (by decide)),
    field_congr (hsame "connect_timeout_seconds" (by decide)),
    field_congr (hsame "read_timeout_seconds" (by decide)),
    field_congr (hsame "follow_redirects" (by decide)), field_congr (hsame "cache" (by decide)),
    h.connectTime, h.readTime, h.follows, h.cache, hauth, htls]
  cases field "proxy" none (readOptional readProxy) es' <;> rfl

/-- The transport of an accepted document is read from its section about that, and the rest of the
document is read as before when nothing but that section changes. -/
theorem read_eq_accepted {config : Config} (h : read (.map es) = .accepted config) :
    field "transport" {} readTransport es = .accepted config.transport ∧
      ∀ es', KeysWithin ["transport"] es es' → (∀ n, n ≠ "transport" → lookup n es' = lookup n es) →
        read (.map es') = (field "transport" {} readTransport es').map fun transport =>
          { config with transport } := by
  obtain ⟨_, he, hknown, h7⟩ := readSection_eq_accepted h
  obtain rfl := map.inj he
  obtain ⟨_, penalizes, h6, hpenalizes, rfl⟩ := accepted_of_seq h7
  obtain ⟨_, adds, h5, hadds, rfl⟩ := accepted_of_seq h6
  obtain ⟨_, outputs, h4, houtputs, rfl⟩ := accepted_of_seq h5
  obtain ⟨_, length, h3, hlength, rfl⟩ := accepted_of_seq h4
  obtain ⟨_, body, h2, hbody, rfl⟩ := accepted_of_seq h3
  obtain ⟨_, transport, h1, htransport, rfl⟩ := accepted_of_seq h2
  obtain ⟨request, hrequest, rfl⟩ := accepted_of_map h1
  refine ⟨htransport, fun es' hkeys hother => ?_⟩
  rw [read, readSection_of_known (hknown.of_keysWithin hkeys (by decide)),
    needed_congr (hother "request" (by decide)),
    field_congr (hother "put_response_body_in_attribute" (by decide)),
    field_congr (hother "max_attribute_length" (by decide)),
    field_congr (hother "always_output_response" (by decide)),
    field_congr (hother "add_response_headers" (by decide)),
    field_congr (hother "penalize_no_retry" (by decide)),
    hrequest, hbody, hlength, houtputs, hadds, hpenalizes]
  cases field "transport" {} readTransport es' <;> rfl

/-! ## Reading a document again -/

/-- The login is still accepted after all secrets were filled in, with at most another password. -/
theorem field_auth_fillTransport {auth : Auth} (secrets : Secrets)
    (h : field "auth" {} readAuth es = .accepted auth) :
    ∃ password, field "auth" {} readAuth (secrets.fillTransport es)
      = .accepted { auth with password } := by
  have hl : lookup "auth" (secrets.fillTransport es) = authOf secrets.auth (lookup "auth" es) :=
    lookup_fillTransport.1
  cases hs : given secrets.auth with
  | none =>
    rw [authOf, hs] at hl
    exact ⟨auth.password, by rw [field_congr hl, h]⟩
  | some s =>
    rw [authOf, hs] at hl
    have hread : readAuth (.map (section? "auth" es)) = .accepted auth :=
      read_section_of_field h rfl fun _ _ => exists_map_of_readAuth
    obtain ⟨password, hfilled⟩ := readAuth_fill (s := s) hread
    rw [section?] at hfilled
    refine ⟨password, ?_⟩
    rw [field, hl]
    dsimp only
    rw [hfilled]
    rfl

/-- The files without the password for them. -/
def Tls.withoutPassword (t : Tls) : Tls := { t with keystorePassword := none }

/-- Transport security is still accepted after all secrets were filled in, with at most another
password. -/
theorem field_tls_fillTransport {tls : Option Tls} (secrets : Secrets)
    (h : field "tls" none (readOptional readTls) es = .accepted tls) :
    ∃ tls', field "tls" none (readOptional readTls) (secrets.fillTransport es) = .accepted tls' ∧
      tls'.map Tls.withoutPassword = tls.map Tls.withoutPassword := by
  have hl : lookup "tls" (secrets.fillTransport es)
      = sectionOf "keystore_password" secrets.keystore (lookup "tls" es) := lookup_fillTransport.2.2
  rcases sectionOf_cases "keystore_password" secrets.keystore (lookup "tls" es) with
    hsame | ⟨s, inner, -, hold, hnew⟩
  · exact ⟨tls, by rw [field_congr (hl.trans hsame), h], rfl⟩
  · rw [field_optional_map hold] at h
    obtain ⟨files, hread, rfl⟩ := accepted_of_map (accepted_of_under h)
    obtain ⟨password, hfilled⟩ := readTls_fillFirst (s := s) hread
    refine ⟨some { files with keystorePassword := password }, ?_, rfl⟩
    rw [field_optional_map (hl.trans hnew), hfilled]
    rfl

/-- A password is given for a proxy that is described without one. -/
def Unpaired (secrets : Secrets) (transport : Entries) : Prop :=
  (given secrets.proxy).isSome ∧
    ∃ proxy, lookup "proxy" transport = some (.map proxy) ∧ lookup "password" proxy = none

/-- A proxy described without a password is rejected once it is given one, and any other proxy is
read as before: either its password was its own, or there is none. -/
theorem field_proxy_fillTransport {proxy : Option Proxy} (secrets : Secrets)
    (h : field "proxy" none (readOptional readProxy) es = .accepted proxy) :
    (Unpaired secrets es → field "proxy" none (readOptional readProxy) (secrets.fillTransport es)
        = (objection "If proxy username or proxy password is set, both must be set").under "proxy") ∧
      (¬ Unpaired secrets es →
        field "proxy" none (readOptional readProxy) (secrets.fillTransport es) = .accepted proxy) := by
  have hl : lookup "proxy" (secrets.fillTransport es)
      = sectionOf "password" secrets.proxy (lookup "proxy" es) := lookup_fillTransport.2.1
  rcases sectionOf_cases "password" secrets.proxy (lookup "proxy" es) with
    hsame | ⟨s, inner, hs, hold, hnew⟩
  · refine ⟨fun ⟨hgiven, inner, hold, hnone⟩ => ?_, fun _ => by rw [field_congr (hl.trans hsame), h]⟩
    -- an accepted proxy has entries, so its section is not left as it is
    obtain ⟨s, hs⟩ := Option.isSome_iff_exists.1 hgiven
    rw [field_optional_map hold] at h
    obtain ⟨p, hread, -⟩ := accepted_of_map (accepted_of_under h)
    cases inner with
    | nil => cases hread
    | cons e inner =>
      rw [sectionOf, hs, hold] at hsame
      have hfilled : fillFirst "password" s (e :: inner) = e :: inner :=
        map.inj (Option.some.inj hsame)
      have hsome : lookup "password" (fillFirst "password" s (e :: inner)) = filled s none := by
        rw [lookup_fillFirst, onKey_self, hnone]
      rw [hfilled, hnone] at hsome
      cases hsome
  · rw [field_optional_map hold] at h
    obtain ⟨p, hread, rfl⟩ := accepted_of_map (accepted_of_under h)
    rw [field_optional_map (hl.trans hnew)]
    cases hpassword : lookup "password" inner with
    | none =>
      have hset : s.isEmpty = false := by simpa [given] using (Option.filter_eq_some_iff.1 hs).2
      rw [readProxy_fillFirst_of_none hread hset hpassword]
      exact ⟨fun _ => rfl, fun h => absurd ⟨by rw [hs]; rfl, inner, hold, hpassword⟩ h⟩
    | some d =>
      rw [readProxy_fillFirst_of_some hread hpassword]
      refine ⟨fun ⟨_, inner', hold', hnone⟩ => ?_, fun _ => rfl⟩
      obtain rfl := map.inj (Option.some.inj (hold.symm.trans hold'))
      rw [hpassword] at hnone
      cases hnone

/-- How requests are sent, without the passwords. -/
def Transport.withoutPasswords (t : Transport) : Transport :=
  { t with
    proxy := t.proxy.map fun p => { p with password := none }
    tls := t.tls.map Tls.withoutPassword
    auth := { t.auth with password := "" } }

/-- The section about transport is rejected for a proxy that was given half a login, and is accepted
otherwise, with at most other passwords. -/
theorem readTransport_fillTransport {t : Transport} (secrets : Secrets)
    (h : readTransport (.map es) = .accepted t) :
    (Unpaired secrets es → readTransport (.map (secrets.fillTransport es))
        = (objection "If proxy username or proxy password is set, both must be set").under "proxy") ∧
      (¬ Unpaired secrets es → ∃ t', readTransport (.map (secrets.fillTransport es)) = .accepted t' ∧
        t'.withoutPasswords = t.withoutPasswords) := by
  have hreads := reads_of_readTransport h
  obtain ⟨password, hauth⟩ := field_auth_fillTransport secrets hreads.auth
  obtain ⟨tls, htls, hfiles⟩ := field_tls_fillTransport secrets hreads.tls
  obtain ⟨hunpaired, hpaired⟩ := field_proxy_fillTransport secrets hreads.proxy
  have hother : ∀ n, n ≠ "auth" → n ≠ "proxy" → n ≠ "tls" →
      lookup n (secrets.fillTransport es) = lookup n es := fun n ha hp ht =>
    lookup_fillTransport_of_ne ha hp ht
  have hcheck := hreads.checked
  rw [hreads.of_filled keysWithin_fillTransport hother hauth htls]
  refine ⟨fun hu => by rw [hunpaired hu]; rfl, fun hu => ?_⟩
  rw [hpaired hu]
  have hnone : tls.isNone = t.tls.isNone := by
    simpa only [Option.isNone_map] using congrArg Option.isNone hfiles
  refine ⟨{ t with tls, auth := { t.auth with password } }, ?_, ?_⟩
  · unfold checkTransport at hcheck
    split at hcheck
    case isTrue => cases hcheck
    case isFalse hsecure =>
      rw [← hnone] at hsecure
      exact if_neg hsecure
  · unfold Transport.withoutPasswords
    rw [hfiles]

/-- A configuration without its passwords. -/
def withoutPasswords (config : Config) : Config :=
  { config with transport := config.transport.withoutPasswords }

/-- An accepted document with secrets filled in is rejected when a password is given for a proxy
that it describes without one, and is accepted otherwise, with at most other passwords. -/
theorem read_apply {secrets : Secrets} {document : Entries} {config : Config}
    (h : read (.map document) = .accepted config) :
    (Unpaired secrets (section? "transport" document) → read (.map (secrets.apply document))
        = .rejected [{
          place := ["transport", "proxy"]
          message := "Value error, If proxy username or proxy password is set, both must be set"
          kind := "value_error" }]) ∧
      (¬ Unpaired secrets (section? "transport" document) →
        ∃ config', read (.map (secrets.apply document)) = .accepted config' ∧
          config'.withoutPasswords = config.withoutPasswords) := by
  obtain ⟨htransport, hagain⟩ := read_eq_accepted h
  have hread : readTransport (.map (section? "transport" document)) = .accepted config.transport :=
    read_section_of_field htransport rfl fun _ _ => exists_map_of_readTransport
  obtain ⟨hunpaired, hpaired⟩ := readTransport_fillTransport secrets hread
  by_cases hnil : secrets.fillTransport (section? "transport" document) = []
  · rw [apply_of_nil hnil]
    refine ⟨fun hu => ?_, fun _ => ⟨config, h, rfl⟩⟩
    have hrejected := hunpaired hu
    rw [hnil] at hrejected
    cases hrejected
  rw [apply_of_ne hnil, hagain _ (keysWithin_insert List.mem_cons_self)
    fun n hn => lookup_insert_of_ne hn, field, lookup_insert_self]
  refine ⟨fun hu => ?_, fun hu => ?_⟩
  · dsimp only
    rw [hunpaired hu]
    rfl
  · obtain ⟨t, ht, hsame⟩ := hpaired hu
    dsimp only
    rw [ht]
    exact ⟨{ config with transport := t }, rfl,
      congrArg (fun transport => { config with transport }) hsame⟩

/-- A document with a proxy that has a password of its own, and a keystore that has none. -/
def pairedProxy : Entries :=
  [(.text "request", .map [(.text "url", .text "http://origin")]),
    (.text "transport", .map [
      (.text "proxy", .map [(.text "host", .text "proxy"), (.text "port", .whole 8080),
        (.text "username", .text "alice"), (.text "password", .text "own")]),
      (.text "tls", .map [(.text "keystore_path", .text "client.pem")])])]

/-- What is read of it. -/
def pairedConfig : Config where
  request := { url := "http://origin" }
  transport := {
    proxy := some {
      host := "proxy", port := 8080, username := some (.whole "alice"), password := some (.whole "own") }
    tls := some { keystorePath := some (.whole "client.pem") } }

/-- Beside a proxy with both halves of a login, the secrets are taken as passwords where there was
none. -/
theorem read_apply_pairedProxy :
    read (.map pairedProxy) = .accepted pairedConfig ∧
      ¬ Unpaired threeSecrets (section? "transport" pairedProxy) ∧
      ∃ config, read (.map (threeSecrets.apply pairedProxy)) = .accepted config ∧
        config.withoutPasswords = pairedConfig.withoutPasswords := by
  have hread : read (.map pairedProxy) = .accepted pairedConfig := by with_unfolding_all rfl
  have hpaired : ¬ Unpaired threeSecrets (section? "transport" pairedProxy) := by
    rintro ⟨-, proxy, hproxy, hnone⟩
    obtain rfl := map.inj (Option.some.inj hproxy)
    cases hnone
  exact ⟨hread, hpaired, (read_apply hread).2 hpaired⟩

/-- A document with a proxy that asks for no credentials. -/
def namelessProxy : Entries :=
  [(.text "request", .map [(.text "url", .text "http://origin")]),
    (.text "transport", .map [
      (.text "proxy", .map [(.text "host", .text "proxy"), (.text "port", .whole 8080)])])]

/-- A password for a proxy without a name makes an accepted document objectionable. -/
theorem namelessProxy_not_read :
    ¬ ∀ (secrets : Secrets) (document : Entries) (config : Config),
      read (.map document) = .accepted config →
        ∃ config', read (.map (secrets.apply document)) = .accepted config' ∧
          config'.withoutPasswords = config.withoutPasswords := by
  intro h
  obtain ⟨config, hread⟩ : ∃ config, read (.map namelessProxy) = .accepted config :=
    ⟨_, by with_unfolding_all rfl⟩
  obtain ⟨issues, hrejected⟩ :
      ∃ issues, read (.map (threeSecrets.apply namelessProxy)) = .rejected issues :=
    ⟨_, by with_unfolding_all rfl⟩
  obtain ⟨config', haccepted, -⟩ := h threeSecrets namelessProxy config hread
  rw [hrejected] at haccepted
  cases haccepted

end Config

end HttpCourier
