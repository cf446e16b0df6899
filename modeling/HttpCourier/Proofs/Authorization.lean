import HttpCourier.Proofs.Digest

/-!
# The Authorization field

A request carries the answer to a challenge (`Request.Carries`) when its only Authorization field is
that answer, with a certain count. The answer that the client computes is in the request that
reaches the network (`Link.firstSent?_carries`, `Link.secondSent?_carries`).
-/

namespace HttpCourier

open Step

namespace Fields

variable {fields : Fields} {name value : Bytes} {key : String}

/-- The values of a name are those of both parts. -/
theorem valuesOf_append (fields more : Fields) (key : String) :
    valuesOf (fields ++ more) key = fields.valuesOf key ++ more.valuesOf key := by
  simp [valuesOf]

/-- The values of fields of one name. -/
theorem valuesOf_map (name : Bytes) (values : List Bytes) (key : String) :
    valuesOf (values.map fun value => (name, value)) key
      = if Bytes.toLower name = nameBytes key then values else [] := by
  have hfilter : (values.map fun value => (name, value)).filter (isNamed key)
      = if Bytes.toLower name = nameBytes key then values.map fun value => (name, value) else [] := by
    split
    case isTrue h => exact List.filter_eq_self.2 (by simp [isNamed, h])
    case isFalse h => exact List.filter_eq_nil_iff.2 (by simp [isNamed, h])
  rw [valuesOf, hfilter]
  split
  · rw [List.map_map]
    exact List.map_id values
  · rfl

/-- The field that was put is the only one of its name. -/
theorem valuesOf_put_self (h : Bytes.toLower name = nameBytes key) :
    (fields.put name value).valuesOf key = [value] := by
  have hrest : ∀ rest : Fields,
      (rest.filter fun g => Bytes.toLower g.1 != Bytes.toLower name).filter (isNamed key) = [] := by
    intro rest
    rw [List.filter_filter, List.filter_eq_nil_iff]
    intro g _
    simp [isNamed, h]
  unfold put
  split
  case isTrue hany =>
    induction fields with
    | nil => simp at hany
    | cons f fields ih =>
      rw [replaceFirst]
      split
      case isTrue hf => simp [valuesOf, isNamed, h]
      case isFalse hf =>
        have hne : isNamed key f = false := by
          rw [isNamed, ← h]
          simpa using hf
        rw [List.any_cons, Bool.or_eq_true] at hany
        have := ih (hany.resolve_left hf)
        simpa [valuesOf, hne] using this
  case isFalse hany =>
    rw [valuesOf_append]
    have hnone : fields.filter (isNamed key) = [] := by
      rw [List.filter_eq_nil_iff]
      intro f hf
      have hn := hany
      simp only [List.any_eq_true, not_exists, not_and] at hn
      rw [isNamed, ← h]
      exact hn f hf
    simp [valuesOf, hnone, isNamed, h]

/-- Putting a field touches no other name. -/
theorem valuesOf_put_of_ne (h : Bytes.toLower name ≠ nameBytes key) :
    (fields.put name value).valuesOf key = fields.valuesOf key := by
  have hnew : isNamed key (name, value) = false := by simpa [isNamed] using h
  have hold : ∀ f : Bytes × Bytes, Bytes.toLower f.1 = Bytes.toLower name →
      isNamed key f = false := by
    intro f hf
    simpa [isNamed, hf] using h
  have hrest : ∀ rest : Fields,
      (rest.filter fun g => Bytes.toLower g.1 != Bytes.toLower name).filter (isNamed key)
        = rest.filter (isNamed key) := by
    intro rest
    rw [List.filter_filter]
    refine List.filter_congr fun g _ => ?_
    by_cases hg : Bytes.toLower g.1 = Bytes.toLower name
    · simp [hold g hg]
    · simp [hg]
  unfold put
  split
  case isTrue hany =>
    clear hany
    induction fields with
    | nil => rfl
    | cons f fields ih =>
      rw [replaceFirst]
      split
      case isTrue hf => simp [valuesOf, hnew, hold f (by simpa using hf), hrest]
      case isFalse hf =>
        simp only [valuesOf, List.filter_cons] at ih ⊢
        split
        · rw [List.map_cons, List.map_cons, ih]
        · exact ih
  case isFalse hany =>
    rw [valuesOf_append]
    simp [valuesOf, hnew]

end Fields

/-- The only Authorization field of a request is the answer to a challenge with a counter, and this
is its count. -/
def Request.Carries (who : Digest.Credentials) (c : Digest.Challenge) (count : Nat) (q : Request) :
    Prop :=
  ∃ hash, Digest.hashOf c = .ok hash ∧
    ∃ (e : TextEncoding) (own : UInt64) (method target : String) (value : Bytes),
    e.encode (Digest.answer who c hash true count own method target).toList = .ok value ∧
      q.fields.valuesOf "Authorization" = [value]

/-- Two requests have the same Authorization fields. -/
def Request.SameAuthorization (q q' : Request) : Prop :=
  q'.fields.valuesOf "Authorization" = q.fields.valuesOf "Authorization"

variable {who : Digest.Credentials} {c : Digest.Challenge} {count : Nat} {q r r' : Request}

/-- What a request carries is a matter of its field for it. -/
theorem Request.Carries.of_same (h : r.Carries who c count) (hs : r.SameAuthorization r') :
    r'.Carries who c count := by
  obtain ⟨hash, hh, e, own, method, target, value, he, hv⟩ := h
  exact ⟨hash, hh, e, own, method, target, value, he, hs.trans hv⟩

/-! ## The answer in a request -/

/-- The names that the client writes itself are written alike in all encodings. -/
theorem encode_name {name : String} (hname : name = "Authorization" ∨ name = "Cookie")
    (e : TextEncoding) : e.encode name.toList = .ok (Bytes.ofString name) := by
  rcases hname with rfl | rfl <;> cases e <;> rfl

/-- A field of such a name is put with its value in the encoding of the request. -/
theorem Request.putField_eq_ok {name value : String}
    (hname : name = "Authorization" ∨ name = "Cookie") (h : r.putField name value = .ok r') :
    ∃ (e : TextEncoding) (value' : Bytes), e.encode value.toList = .ok value' ∧
      r' = { r with fields := r.fields.put (Bytes.ofString name) value' } := by
  obtain ⟨name', hn, h⟩ := ok_of_bind h
  obtain ⟨value', hv, h⟩ := ok_of_bind h
  rw [encode_name hname] at hn
  obtain rfl := Except.ok.inj hn
  exact ⟨_, value', hv, (Except.ok.inj h).symm⟩

namespace AuthFlow

/-- The answer to a challenge stands in its field, in the encoding of the request. -/
theorem answered_eq_ok {value : String} (h : answered r value = .ok r') :
    ∃ (e : TextEncoding) (value' : Bytes), e.encode value.toList = .ok value' ∧
      r' = { r with fields := r.fields.put (Bytes.ofString "Authorization") value' } :=
  Request.putField_eq_ok (.inl rfl) (ok_of_mapError h)

/-- The answer to a Digest challenge is a request that carries some value. -/
theorem answered_of_authorize {s : DigestState} (h : (authorize who s c r).1 = .ok r') :
    ∃ value, answered r value = .ok r' := by
  unfold authorize at h
  split at h
  case h_1 value _ _ => exact ⟨value, h⟩
  case h_2 => cases h

/-- Cookies of an answer are put, or there are none to put. -/
theorem withCookiesOf_eq_ok {response : Response} (h : withCookiesOf response r = .ok r') :
    r' = r ∨ ∃ value, r' = { r with fields := r.fields.put (Bytes.ofString "Cookie") value } := by
  unfold withCookiesOf at h
  dsimp only at h
  split at h
  · obtain ⟨-, value, -, hr⟩ := Request.putField_eq_ok (.inr rfl) (ok_of_mapError h)
    exact .inr ⟨value, hr⟩
  · exact .inl (Except.ok.inj h).symm

/-- The answer to a challenge has the count of the state. -/
theorem carries_of_authorize {s : DigestState} (hc : Digest.usesCounter c = .ok true)
    (h : (authorize who s c r).1 = .ok r') : r'.Carries who c s.counter := by
  unfold authorize Digest.authorize at h
  cases hh : Digest.hashOf c with
  | error e => simp [hh] at h
  | ok hash =>
    simp only [hh, hc] at h
    obtain ⟨e, value, he, rfl⟩ := answered_eq_ok h
    exact ⟨hash, hh, e, s.nonce, r.method, r.url.target, value, he, Fields.valuesOf_put_self rfl⟩

/-- Cookies touch no other field. -/
theorem same_of_withCookiesOf {response : Response} (h : withCookiesOf response r = .ok r') :
    r.SameAuthorization r' := by
  rcases withCookiesOf_eq_ok h with rfl | ⟨value, rfl⟩
  · rfl
  · exact Fields.valuesOf_put_of_ne (by decide +kernel)

end AuthFlow

/-! ## The request that reaches the network -/

namespace Cache

/-- The values of a condition: the first value of its source, if that is not empty. -/
theorem valuesOf_condition (name source : String) (stored : StoredResponse) (key : String) :
    (condition name source stored).valuesOf key
      = if Fields.nameBytes name = Fields.nameBytes key
        then ((stored.fields.valuesOf source).head?.filter fun value => !value.isEmpty).toList
        else [] := by
  unfold condition
  cases stored.fields.valuesOf source with
  | nil => simp [Fields.valuesOf]
  | cons value values =>
    by_cases he : value = []
    · simp [he, Fields.valuesOf]
    · have hhead : ((value :: values).head?.filter fun value => !value.isEmpty) = some value := by
        simp [Option.filter, he]
      rw [hhead]
      simp only [List.isEmpty_iff, he, if_false]
      exact (Fields.valuesOf_map (Bytes.ofString name) [value] key).trans
        (ite_congr rfl (fun _ => rfl) fun _ => rfl)

/-- The conditions of a request that revalidates are no credentials. -/
theorem same_of_conditional {stored : StoredResponse} (h : conditional r stored = .ok r') :
    r.SameAuthorization r' := by
  obtain ⟨url, -, h⟩ := ok_of_bind h
  obtain rfl := Except.ok.inj h
  rw [Request.SameAuthorization, Fields.valuesOf_append, conditions, Fields.valuesOf_append,
    valuesOf_condition, valuesOf_condition, if_neg (by decide +kernel), if_neg (by decide +kernel),
    List.append_nil, List.append_nil]

/-- A request that asks about a stored page is the one asked for, with conditions. -/
theorem conditional_of_plan {cache : Cache} {stored : StoredResponse}
    (h : cache.plan r = .ok (.revalidate r' stored)) : conditional r stored = .ok r' := by
  unfold plan at h
  extract_lets go at h
  split at h
  · cases h
  obtain ⟨asked, -, h⟩ := ok_of_bind h
  split at h
  · split at h <;> cases h
  · obtain ⟨-, -, h⟩ := ok_of_bind h
    obtain ⟨isSuitable, -, h⟩ := ok_of_bind h
    split at h
    · cases h
    split at h
    · obtain ⟨q, hq, h⟩ := ok_of_bind h
      cases h
      exact hq
    · cases h

end Cache

namespace Link

variable {l : Link} {request : Request}

/-- The request that reaches the network is the one that was asked for, as it is, as the cache
prepared it, or with the conditions of a stored answer. -/
theorem outgoing?_eq_some (h : l.outgoing? r = some r') :
    r' = r ∨ r' = Cache.prepared r ∨ ∃ stored, Cache.conditional (Cache.prepared r) stored = .ok r' := by
  unfold outgoing? at h
  split at h
  case h_1 => exact .inl (Option.some.inj h).symm
  case h_2 =>
    unfold Cache.outgoing? at h
    split at h
    case h_1 => exact .inr (.inl (Option.some.inj h).symm)
    case h_2 hplan =>
      obtain rfl := Option.some.inj h
      exact .inr (.inr ⟨_, Cache.conditional_of_plan hplan⟩)
    case h_3 => cases h
    case h_4 => cases h

/-- What the cache sends for a request has the authorization of the request. -/
theorem same_of_outgoing? (h : l.outgoing? r = some r') : r.SameAuthorization r' := by
  have hprepared : (Cache.prepared r).fields = r.fields := by
    unfold Cache.prepared
    split <;> rfl
  rcases outgoing?_eq_some h with rfl | rfl | ⟨stored, hconditional⟩
  · rfl
  · rw [Request.SameAuthorization, hprepared]
  · have hs := Cache.same_of_conditional hconditional
    rwa [Request.SameAuthorization, hprepared] at hs

/-- The first request answers the challenge that is kept, with the count of the client. -/
theorem firstSent?_carries (hk : l.kept? request = some c) (hc : Digest.usesCounter c = .ok true)
    (h : firstSent? who l request = some q) : q.Carries who c l.client.digest.counter := by
  rw [firstSent?, readied_of_kept hk] at h
  cases hr : (AuthFlow.authorize who l.client.digest c request).1 with
  | error e => simp [hr] at h
  | ok r =>
    rw [hr] at h
    exact (AuthFlow.carries_of_authorize hc hr).of_same (same_of_outgoing? h)

/-- Without a challenge the first request has the credentials that it was given. -/
theorem firstSent?_same (hk : l.kept? request = none) (h : firstSent? who l request = some q) :
    request.SameAuthorization q := by
  simp only [firstSent?, readied, hk] at h
  exact same_of_outgoing? h

/-- Where a second request comes from: it answers the challenge of the first answer, which was
read. -/
theorem second?_eq_some {l₁ : Link} (h : second? who l request = some (r, l₁)) :
    ∃ response r₁ l₂ c, firstAnswer? who l request = some (response, r₁, l₂) ∧
      AuthFlow.challengeOf? response = some c ∧
      (AuthFlow.authorize who { l₂.client.digest.keep request.url.route c with counter := 1 } c
        r₁.seen).1 >>= AuthFlow.withCookiesOf response = .ok r ∧
      l₁.client.followsRedirects = l₂.client.followsRedirects := by
  obtain ⟨⟨response, r₁, l₂⟩, hanswer, h⟩ := Option.bind_eq_some_iff.1 h
  have hnext := resume_yields who l₂ r₁ request.url.route response
  dsimp only at h
  split at h
  case h_2 => cases h
  rename_i next l₃ hg
  rw [yields_of_ok hg] at hnext
  obtain ⟨-, c, hc, hr⟩ := AuthFlow.resume_next hnext.1
  have hread := quiet_readAll response l₃
  split at h
  case h_2 => cases h
  rename_i body l₄ hbody
  rw [yields_of_ok hbody] at hread
  obtain ⟨rfl, rfl⟩ := h
  exact ⟨response, r₁, l₂, c, hanswer, hc, hr, (hnext.2.quiet hread).1.followsRedirects_eq⟩

/-- The second request answers the challenge that was shown, with the first count. -/
theorem secondSent?_carries (h : secondSent? who l request = some q) :
    ∃ c, shown? who l request = some c ∧
      (Digest.usesCounter c = .ok true → q.Carries who c 1) := by
  obtain ⟨⟨r, l₁⟩, hsecond, hout⟩ := Option.bind_eq_some_iff.1 h
  obtain ⟨response, r₁, l₂, c, hanswer, hc, hr, -⟩ := second?_eq_some hsecond
  obtain ⟨r₂, ha, hw⟩ := ok_of_bind hr
  refine ⟨c, ?_, fun hcount => ?_⟩
  · rw [shown?, hanswer]
    exact hc
  · have hcarries := AuthFlow.carries_of_authorize hcount ha
    exact (hcarries.of_same (AuthFlow.same_of_withCookiesOf hw)).of_same (same_of_outgoing? hout)

/-- A client that does not follow redirects follows none in an exchange. -/
theorem direct_of_followsRedirects (h : l.client.followsRedirects = false) :
    Direct who l request := by
  have hfirst : ∀ {r l₁}, readied who l request = (.ok r, l₁) →
      l₁.client.followsRedirects = false := by
    intro r l₁ hready
    rw [link_of_readied hready]
    exact h
  refine ⟨fun r l₁ hready => .inl (hfirst hready), fun r l₁ hsecond => .inl ?_⟩
  obtain ⟨response, r₁, l₂, c, hanswer, -, -, hsame⟩ := second?_eq_some hsecond
  rw [hsame]
  unfold firstAnswer? at hanswer
  split at hanswer
  · cases hanswer
  rename_i r' l' hready
  split at hanswer
  · cases hanswer
  rename_i response' l'' hfollow
  have hf := (yields_of_ok hfollow).1 (follow_yields maxRedirects r')
  obtain ⟨rfl, rfl, rfl⟩ := hanswer
  rw [hf.1.1.followsRedirects_eq, hfirst hready]

end Link

end HttpCourier
