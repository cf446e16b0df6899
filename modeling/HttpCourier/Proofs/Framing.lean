import HttpCourier.Proofs.Assembling
import HttpCourier.Proofs.Authorization
import HttpCourier.Proofs.LetterCase

/-!
# Framing

A request says where its body ends, by its length or by being sent in chunks. The first request of
an exchange carries the body of its draft and says so once (`Draft.frames_of_toRequest`). What an
exchange makes of a request (`Request.Leads`) leaves the body and what is said of it as they are,
unless a redirect turns the request into a GET, which has neither (`Request.Leads.framing`).
-/

namespace HttpCourier

open Step Text

namespace Fields

variable {fields : Fields} {key name : String}

/-- The names of the fields that say where a body ends. -/
def framingNames : List String := ["Content-Length", "Transfer-Encoding"]

/-- A field that is not there has no values. -/
theorem has_eq_false_iff : fields.has key = false ↔ fields.valuesOf key = [] := by
  rw [has, valuesOf, List.map_eq_nil_iff, List.filter_eq_nil_iff, List.any_eq_false]

/-- A field that was taken away has no values. -/
theorem valuesOf_without_self (fields : Fields) (name : String) :
    (fields.without name).valuesOf name = [] := by
  rw [valuesOf, without, List.filter_filter, List.map_eq_nil_iff, List.filter_eq_nil_iff]
  simp

/-- Dropping the fields of a name touches no other name. -/
theorem valuesOf_without_of_ne (h : nameBytes name ≠ nameBytes key) :
    (fields.without name).valuesOf key = fields.valuesOf key := by
  rw [valuesOf, without, List.filter_filter, valuesOf]
  congr 1
  refine List.filter_congr fun f _ => ?_
  by_cases hf : Bytes.toLower f.1 = nameBytes key
  · simp [isNamed, hf, h.symm]
  · simp [isNamed, hf]

/-- A field without values gets none by taking fields away. -/
theorem valuesOf_filter_eq_nil (h : fields.valuesOf key = []) (p : Bytes × Bytes → Bool) :
    valuesOf (fields.filter p) key = [] := by
  rw [valuesOf, List.map_eq_nil_iff, List.filter_eq_nil_iff] at h ⊢
  exact fun f hf => h f (List.mem_of_mem_filter hf)

/-- A field of another name has no value of a name. -/
theorem valuesOf_singleton_of_ne {value : Bytes} (h : nameBytes name ≠ nameBytes key) :
    valuesOf [(Bytes.ofString name, value)] key = [] :=
  (valuesOf_map (Bytes.ofString name) [value] key).trans (if_neg h)

/-- The only field has its value. -/
theorem valuesOf_singleton_self (value : Bytes) :
    valuesOf [(Bytes.ofString key, value)] key = [value] :=
  (valuesOf_map (Bytes.ofString key) [value] key).trans (if_pos rfl)

/-- A field that is put in anew has just its value. -/
theorem valuesOf_putNew_self (h : fields.valuesOf key = []) (value : String) :
    (fields.putNew key value).valuesOf key = [Bytes.ofString value] := by
  rw [putNew, has_eq_false_iff.2 h, if_neg Bool.false_ne_true, valuesOf_append, h,
    valuesOf_singleton_self, List.nil_append]

/-- A field that is put in anew leaves the values of the others. -/
theorem valuesOf_putNew_of_ne (h : nameBytes name ≠ nameBytes key) (value : String) :
    (fields.putNew name value).valuesOf key = fields.valuesOf key := by
  unfold putNew
  split
  · rfl
  · rw [valuesOf_append, valuesOf_singleton_of_ne h, List.append_nil]

/-- A field with a value is there. -/
theorem has_of_valuesOf {value : Bytes} (h : fields.valuesOf key = [value]) :
    fields.has key = true := by
  rw [← Bool.not_eq_false, has_eq_false_iff, h]
  exact List.cons_ne_nil _ _

/-- No other field that the client writes itself says where a body ends. -/
theorem framing_ne {key : String} (hkey : key ∈ framingNames) :
    ∀ name ∈ ["Authorization", "Cookie", "Host", "If-Modified-Since", "If-None-Match"],
      nameBytes name ≠ nameBytes key := by
  have hall : ∀ key ∈ framingNames,
      ∀ name ∈ ["Authorization", "Cookie", "Host", "If-Modified-Since", "If-None-Match"],
        nameBytes name ≠ nameBytes key := by
    decide +kernel
  exact hall key hkey

end Fields

open Fields

namespace Request

/-- A request carries the body of a draft, and its fields say once where it ends: by its length,
or by being sent in chunks. Without a body there are no such fields. -/
structure Frames (q : Request) (body : Option Draft.Body) : Prop where
  sent_eq : q.body.pieces.flatten = body.elim [] (·.content)
  lengths_eq : q.fields.valuesOf "Content-Length"
    = (body.bind (·.length?)).toList.map fun n => Bytes.ofString (toString n)
  encodings_eq : q.fields.valuesOf "Transfer-Encoding"
    = if body.any (·.chunked) then [Bytes.ofString "chunked"] else []

/-- Two requests have the same method and the same body, and say the same of it. -/
structure SameFraming (q q' : Request) : Prop where
  method_eq : q'.method = q.method
  content_eq : q'.body.content = q.body.content
  values_eq : ∀ key ∈ framingNames, q'.fields.valuesOf key = q.fields.valuesOf key

variable {q q' q'' : Request} {body : Option Draft.Body}

theorem SameFraming.refl (q : Request) : q.SameFraming q := ⟨rfl, rfl, fun _ _ => rfl⟩

/-- Two changes that leave the framing alone do so together. -/
theorem SameFraming.trans (h : q.SameFraming q') (h' : q'.SameFraming q'') : q.SameFraming q'' :=
  ⟨h'.1.trans h.1, h'.2.trans h.2, fun key hkey => (h'.3 key hkey).trans (h.3 key hkey)⟩

/-- The pieces that a body is sent in are its content. -/
theorem flatten_pieces (b : HttpCourier.Body) : b.pieces.flatten = b.content := by
  cases b with
  | fixed content => exact List.append_nil content
  | chunked content chunkSize => exact Bytes.flatten_chunks chunkSize content

/-- What frames a body is left to frame it by a change of other things. -/
theorem Frames.of_same (h : q.Frames body) (hs : q.SameFraming q') : q'.Frames body := by
  refine ⟨?_, ?_, ?_⟩
  · rw [flatten_pieces, hs.content_eq, ← flatten_pieces, h.sent_eq]
  · rw [hs.values_eq _ (by decide), h.lengths_eq]
  · rw [hs.values_eq _ (by decide), h.encodings_eq]

/-- The length of a missing body is written only where the method declares one, and nothing else
is said of the body. -/
theorem valuesOf_withLeadingFields {fields : Fields} {method key : String} {url : Url}
    (hkey : key ∈ framingNames)
    (h : fields.has "Content-Length" = true ∨ fields.has "Transfer-Encoding" = true ∨
      declaresEmptyBody method = false) :
    (withLeadingFields fields method url).valuesOf key = fields.valuesOf key := by
  have hlength : (fields.has "Content-Length" || fields.has "Transfer-Encoding"
      || !declaresEmptyBody method) = true := by
    simpa [or_assoc] using h
  unfold withLeadingFields
  simp only [hlength, if_true, List.append_nil]
  rw [valuesOf_append]
  split
  · rfl
  · rw [valuesOf_singleton_of_ne (framing_ne hkey "Host" (by decide)), List.nil_append]

section
variable {fields : Fields} {key : String}

/-- A body's length and its being sent in chunks are said in different fields. -/
theorem nameBytes_framing_ne : nameBytes "Content-Length" ≠ nameBytes "Transfer-Encoding" := by
  decide +kernel

/-- A request with an empty body says what its fields say. -/
theorem valuesOf_make_empty {method : String}
    (h : fields.has "Content-Length" = true ∨ declaresEmptyBody method = false) (url : Url) :
    ∀ key ∈ framingNames,
      (make method url fields (.fixed [])).fields.valuesOf key = fields.valuesOf key :=
  fun _ hkey => valuesOf_withLeadingFields hkey (h.imp_right .inr)

/-- A body in one piece is declared by its length. -/
theorem valuesOf_make_fixed (hlengths : fields.valuesOf "Content-Length" = [])
    (hencodings : fields.valuesOf "Transfer-Encoding" = []) (method : String) (url : Url)
    {content : Bytes} (hcontent : content ≠ []) :
    let made := (make method url fields (.fixed content)).fields
    made.valuesOf "Content-Length" = [Bytes.ofString (toString content.length)] ∧
      made.valuesOf "Transfer-Encoding" = [] := by
  have hfields : withBodyFields fields (.fixed content)
      = fields.putNew "Content-Length" (toString content.length) := by
    cases content with
    | nil => exact absurd rfl hcontent
    | cons b rest => rfl
  have hput := valuesOf_putNew_self hlengths (toString content.length)
  dsimp only [make]
  rw [hfields, valuesOf_withLeadingFields (by decide) (.inl (has_of_valuesOf hput)),
    valuesOf_withLeadingFields (by decide) (.inl (has_of_valuesOf hput)),
    valuesOf_putNew_of_ne nameBytes_framing_ne]
  exact ⟨hput, hencodings⟩

/-- A body in chunks is declared as such. -/
theorem valuesOf_make_chunked (hlengths : fields.valuesOf "Content-Length" = [])
    (hencodings : fields.valuesOf "Transfer-Encoding" = []) (method : String) (url : Url)
    (content : Bytes) (chunkSize : Nat) :
    let made := (make method url fields (.chunked content chunkSize)).fields
    made.valuesOf "Content-Length" = [] ∧
      made.valuesOf "Transfer-Encoding" = [Bytes.ofString "chunked"] := by
  have hfields : withBodyFields fields (.chunked content chunkSize)
      = fields.putNew "Transfer-Encoding" "chunked" := by
    rw [withBodyFields, has_eq_false_iff.2 hlengths, if_neg Bool.false_ne_true]
  have hput := valuesOf_putNew_self hencodings "chunked"
  dsimp only [make]
  rw [hfields, valuesOf_withLeadingFields (by decide) (.inr (.inl (has_of_valuesOf hput))),
    valuesOf_withLeadingFields (by decide) (.inr (.inl (has_of_valuesOf hput))),
    valuesOf_putNew_of_ne nameBytes_framing_ne.symm]
  exact ⟨hlengths, hput⟩

end

/-- Putting a field that says nothing of the body. -/
theorem sameFraming_put (q : Request) {name : String} (value : Bytes)
    (hname : name ∈ ["Authorization", "Cookie", "Host", "If-Modified-Since", "If-None-Match"]) :
    q.SameFraming { q with fields := q.fields.put (Bytes.ofString name) value } :=
  ⟨rfl, rfl, fun _ hkey => valuesOf_put_of_ne (framing_ne hkey name hname)⟩

/-- A request that was seen by the login is framed as before. -/
theorem sameFraming_seen (q : Request) : q.SameFraming q.seen := ⟨rfl, rfl, fun _ _ => rfl⟩

/-- A request prepared for the cache is framed as before. -/
theorem sameFraming_prepared (q : Request) : q.SameFraming (Cache.prepared q) := by
  unfold Cache.prepared
  split
  · exact .refl q
  · exact ⟨rfl, rfl, fun _ _ => rfl⟩

/-- The answer to a challenge goes into a field of its own. -/
theorem sameFraming_answered {value : String} (h : AuthFlow.answered q value = .ok q') :
    q.SameFraming q' := by
  obtain ⟨-, value', -, rfl⟩ := AuthFlow.answered_eq_ok h
  exact sameFraming_put q value' (by decide)

/-- The cookies go into a field of their own. -/
theorem sameFraming_cookies {response : Response}
    (h : AuthFlow.withCookiesOf response q = .ok q') : q.SameFraming q' := by
  rcases AuthFlow.withCookiesOf_eq_ok h with rfl | ⟨value, rfl⟩
  · exact .refl q'
  · exact sameFraming_put q value (by decide)

/-- The conditions for a stored page go into fields of their own. -/
theorem sameFraming_conditional {stored : StoredResponse}
    (h : Cache.conditional q stored = .ok q') : q.SameFraming q' := by
  obtain ⟨url, -, h⟩ := ok_of_bind h
  obtain rfl := Except.ok.inj h
  refine ⟨rfl, rfl, fun key hkey => ?_⟩
  rw [valuesOf_append, Cache.conditions, valuesOf_append, Cache.valuesOf_condition,
    Cache.valuesOf_condition, if_neg (framing_ne hkey _ (by decide)),
    if_neg (framing_ne hkey _ (by decide)), List.append_nil, List.append_nil]

end Request

/-- The cookies leave the fields that frame the body of a request. -/
theorem CookieJar.valuesOf_addTo {jar : CookieJar} {url : Url} {fields fields' : Fields}
    {key : String} (hkey : key ∈ framingNames) (h : jar.addTo url fields = .ok fields') :
    fields'.valuesOf key = fields.valuesOf key := by
  unfold addTo at h
  split at h
  · rw [Except.ok.inj h]
  split at h
  · cases h
  split at h
  · obtain ⟨value, -, hput⟩ := ok_of_bind (ok_of_mapError h)
    obtain rfl := Except.ok.inj hput
    exact valuesOf_put_of_ne (framing_ne hkey "Cookie" (by decide))
  · rw [Except.ok.inj h]

/-! ## Redirects -/

namespace Redirect

variable {request next : Request} {response : Response} {jar : CookieJar} {location key : String}

/-- A method stays as it is or turns into GET. -/
theorem method_eq_or (status : Int) (name : String) :
    method status name = name ∨ method status name = "GET" := by
  unfold method
  split
  · exact .inr rfl
  · split
    · exact .inr rfl
    · exact .inl rfl

/-- What the fields of the next request say of the body. -/
theorem valuesOf_fields (hkey : key ∈ framingNames) (request : Request) (url : Url)
    (method : String) :
    (fields request url method).valuesOf key
      = if method ≠ request.method ∧ method = "GET" then [] else request.fields.valuesOf key := by
  have hne := framing_ne hkey
  have horigin : (if sameOrigin url request.url then request.fields
      else (if becomesSecure request.url url then request.fields
        else request.fields.without "Authorization").putText "Host" url.hostAndPort).valuesOf key
      = request.fields.valuesOf key := by
    split
    · rfl
    · rw [putText, valuesOf_put_of_ne (hne "Host" (by decide))]
      split
      · rfl
      · exact valuesOf_without_of_ne (hne "Authorization" (by decide))
  unfold fields
  rw [valuesOf_without_of_ne (hne "Cookie" (by decide))]
  split
  · simp only [framingNames, List.mem_cons, List.not_mem_nil, or_false] at hkey
    rcases hkey with rfl | rfl
    · rw [valuesOf_without_of_ne (by decide +kernel), valuesOf_without_self]
    · rw [valuesOf_without_self]
  · exact horigin

/-- The next request keeps the framing of the one before, or is a GET without a body. -/
theorem request_framing (h : Redirect.request jar response location = .ok next) :
    response.request.SameFraming next ∨
      (next.method ≠ response.request.method ∧ next.method = "GET" ∧ next.Frames none) := by
  obtain ⟨url, -, h⟩ := ok_of_bind h
  obtain ⟨cookied, hcookies, h⟩ := ok_of_bind h
  -- whatever becomes of origin and cookies, only the method decides what is said of the body
  have hvalues : ∀ key ∈ framingNames, cookied.valuesOf key = _ := fun key hkey =>
    (CookieJar.valuesOf_addTo hkey hcookies).trans (valuesOf_fields hkey _ url _)
  split at h
  case isTrue hturned =>
    obtain rfl := Except.ok.inj h
    have hnone : ∀ key ∈ framingNames, (Request.withLeadingFields cookied
        (method response.status response.request.method) url).valuesOf key = [] := by
      intro key hkey
      rw [Request.valuesOf_withLeadingFields hkey (.inr (.inr (hturned.2 ▸ rfl))), hvalues key hkey,
        if_pos hturned]
    exact .inr ⟨hturned.1, hturned.2, rfl, hnone _ (by decide), hnone _ (by decide)⟩
  case isFalse hkept =>
    obtain rfl := Except.ok.inj h
    have hmethod : method response.status response.request.method = response.request.method := by
      rcases method_eq_or response.status response.request.method with heq | hget
      · exact heq
      · exact Classical.byContradiction fun hne => hkept ⟨hne, hget⟩
    refine .inl ⟨hmethod, rfl, fun key hkey => ?_⟩
    rw [hvalues key hkey, if_neg hkept]

end Redirect

/-! ## The first request -/

namespace Draft

variable {d : Draft} {jar : CookieJar} {chunkSize : Nat} {q : Request}

/-- No header of a draft says where the body ends. -/
def LeavesFraming (d : Draft) : Prop := ∀ name ∈ framingNames, d.headers.valuesOf name = []

/-- A draft without a body has a method that declares none. -/
def BodyFits (d : Draft) : Prop :=
  d.body = none → Request.declaresEmptyBody (upper d.method) = false

/-- The headers that the client adds say nothing of the body. -/
theorem valuesOf_mergeDefaults {key : String} (hkey : key ∈ framingNames) (given : Fields) :
    (Request.mergeDefaults given).valuesOf key = given.valuesOf key := by
  have hdefaults : ∀ key ∈ framingNames, valuesOf
      (Request.defaultFields.map fun d => (Bytes.ofString d.1, Bytes.ofString d.2)) key = [] := by
    decide +kernel
  unfold Request.mergeDefaults
  rw [valuesOf_append, valuesOf_filter_eq_nil (hdefaults key hkey), List.nil_append]

/-- What the headers of a draft say of its body: only that it is empty. -/
theorem valuesOf_allHeaders (hframing : d.LeavesFraming) {key : String}
    (hkey : key ∈ framingNames) :
    d.allHeaders.valuesOf key
      = if key = "Content-Length" ∧ d.body.any (fun b => !b.chunked && b.content.isEmpty) then ["0"]
        else [] := by
  have htype : ∀ key ∈ framingNames, sameName "Content-Type" key = false := by decide +kernel
  have hlength : ∀ key ∈ framingNames, Headers.valuesOf [("Content-Length", "0")] key
      = if key = "Content-Length" then ["0"] else [] := by
    decide +kernel
  have happend : ∀ a b : Headers, (a ++ b).valuesOf key = a.valuesOf key ++ b.valuesOf key := by
    intro a b
    rw [Headers.valuesOf, List.filter_append, List.map_append, ← Headers.valuesOf,
      ← Headers.valuesOf]
  unfold allHeaders
  cases hb : d.body with
  | none => simpa using hframing key hkey
  | some b =>
    dsimp only
    rw [happend, happend, hframing key hkey]
    have htyped : Headers.valuesOf (b.contentType.map fun t => ("Content-Type", t)).toList key
        = [] := by
      cases b.contentType with
      | none => rfl
      | some t => simp [Headers.valuesOf, htype key hkey]
    rw [htyped, List.nil_append, List.nil_append, Option.any_some]
    by_cases hempty : (!b.chunked && b.content.isEmpty) = true
    · simp only [hempty, if_true, and_true, hlength key hkey]
    · rw [if_neg hempty, if_neg fun h => hempty h.2]
      rfl

/-- The first request of an exchange carries the body of the draft. -/
theorem frames_of_toRequest (hframing : d.LeavesFraming) (hfits : d.BodyFits)
    (h : d.toRequest jar chunkSize = .ok q) : q.Frames d.body := by
  obtain ⟨url, -, h⟩ := ok_of_bind h
  obtain ⟨given, hgiven, h⟩ := ok_of_bind h
  obtain ⟨fields, hcookies, h⟩ := ok_of_bind h
  obtain rfl := Except.ok.inj h
  have hvalues : ∀ key ∈ framingNames, fields.valuesOf key
      = if key = "Content-Length" ∧ d.body.any (fun b => !b.chunked && b.content.isEmpty)
        then [Bytes.ofString "0"] else [] := by
    intro key hkey
    have hascii : ∀ key ∈ framingNames, IsAscii key.toList := by decide +kernel
    rw [CookieJar.valuesOf_addTo hkey hcookies, valuesOf_mergeDefaults hkey,
      valuesOf_ofHeaders (hascii key hkey) (ok_of_mapError hgiven),
      valuesOf_allHeaders hframing hkey]
    split
    · rfl
    · rfl
  have hlengths := hvalues "Content-Length" (by decide)
  have hencodings : fields.valuesOf "Transfer-Encoding" = [] :=
    hvalues "Transfer-Encoding" (by decide)
  unfold BodyFits at hfits
  unfold sentBody
  cases hb : d.body with
  | none =>
    rw [hb] at hlengths hfits
    have hsame := @Request.valuesOf_make_empty fields _ (.inr (hfits rfl)) url
    exact ⟨rfl, (hsame _ (by decide)).trans hlengths, (hsame _ (by decide)).trans hencodings⟩
  | some b =>
    obtain ⟨contentType, content, chunked⟩ := b
    rw [hb, Option.any_some] at hlengths
    cases chunked with
    | true =>
      obtain ⟨hl, he⟩ :=
        Request.valuesOf_make_chunked hlengths hencodings (upper d.method) url content chunkSize
      exact ⟨Request.flatten_pieces _, hl, he⟩
    | false =>
      cases content with
      | nil =>
        have hsame := @Request.valuesOf_make_empty fields (upper d.method)
          (.inl (has_of_valuesOf hlengths)) url
        have hzero : Bytes.ofString "0" = Bytes.ofString (toString 0) := by decide +kernel
        exact ⟨rfl, (hsame _ (by decide)).trans (hlengths.trans (congrArg ([·]) hzero)),
          (hsame _ (by decide)).trans hencodings⟩
      | cons byte rest =>
        obtain ⟨hl, he⟩ := Request.valuesOf_make_fixed hlengths hencodings (upper d.method) url
          (List.cons_ne_nil byte rest)
        exact ⟨Request.flatten_pieces _, hl, he⟩

end Draft

/-- A method in capital letters declares a body only if it has one. -/
theorem Assembler.hasBody_of_declares {name : String}
    (h : Request.declaresEmptyBody (upper (upper name)) = true) : hasBody (upper name) = true := by
  have hascii : ∀ name ∈ bodyMethods, IsAscii name.toList := by decide +kernel
  -- the name stays a variable here: comparing it would unfold the case tables
  generalize hu : upper (upper name) = twice at h
  have hmem : twice ∈ bodyMethods := by
    rw [Request.declaresEmptyBody, List.contains_iff_mem] at h
    exact h
  have hsame : twice = upper name := by
    rw [← hu] at hmem ⊢
    exact upper_upper (hascii _ hmem)
  rw [hasBody, List.contains_iff_mem, ← hsame]
  exact hmem

/-- The draft for an item has a body if its method declares one. -/
theorem Assembler.bodyFits_of_assemble {a : Assembler} {item : Option WorkItem} {now : Int}
    {d : Draft} {log : List Log.Record} (h : a.assemble item now = .ok (d, log)) : d.BodyFits := by
  obtain ⟨date, -, rfl⟩ := assemble_eq_ok h
  obtain ⟨name, hname⟩ : ∃ name, a.method item = upper name := ⟨_, rfl⟩
  intro hnone
  dsimp only at hnone ⊢
  rw [hname] at hnone ⊢
  rw [← Bool.not_eq_true]
  intro hdeclares
  rw [if_pos (hasBody_of_declares hdeclares)] at hnone
  cases hnone

/-! ## The requests of an exchange -/

/-- How an exchange comes from its first request to another one: a request is read, answers a
challenge, takes up cookies, passes through the cache, or follows a redirect. `turned` says whether
a redirect changed the method on the way. -/
inductive Request.Leads (first : Request) : (turned : Bool) → Request → Prop where
  | refl : Leads first false first
  | seen {turned : Bool} {q : Request} (h : Leads first turned q) : Leads first turned q.seen
  | answered {turned : Bool} {q q' : Request} {value : String} (h : Leads first turned q)
    (he : AuthFlow.answered q value = .ok q') : Leads first turned q'
  | cookies {turned : Bool} {q q' : Request} {response : Response} (h : Leads first turned q)
    (he : AuthFlow.withCookiesOf response q = .ok q') : Leads first turned q'
  | prepared {turned : Bool} {q : Request} (h : Leads first turned q) :
    Leads first turned (Cache.prepared q)
  | conditional {turned : Bool} {q q' : Request} {stored : StoredResponse}
    (h : Leads first turned q) (he : Cache.conditional q stored = .ok q') : Leads first turned q'
  | redirected {turned : Bool} {q : Request} {response : Response} {jar : CookieJar}
    {location : String} (h : Leads first turned response.request)
    (hl : Redirect.location? response = some location)
    (he : Redirect.request jar response location = .ok q) :
    Leads first (turned || q.method != response.request.method) q

namespace Request.Leads

variable {first q : Request} {turned : Bool}

/-- A request that no redirect turned has the framing of the first one, and a turned one is a GET
without a body. -/
theorem framing (h : first.Leads turned q) :
    (turned = false → first.SameFraming q) ∧
      (turned = true → q.method = "GET" ∧ q.Frames none) := by
  have hsame : ∀ {turned : Bool} {q q' : Request},
      (turned = false → first.SameFraming q) ∧
        (turned = true → q.method = "GET" ∧ q.Frames none) →
      q.SameFraming q' →
      (turned = false → first.SameFraming q') ∧
        (turned = true → q'.method = "GET" ∧ q'.Frames none) := fun h hs =>
    ⟨fun ht => (h.1 ht).trans hs,
      fun ht => ⟨hs.method_eq.trans (h.2 ht).1, (h.2 ht).2.of_same hs⟩⟩
  -- On the way from the first request: every step but a redirect keeps the framing.
  induction h with
  | refl => exact ⟨fun _ => .refl first, nofun⟩
  | seen _ ih => exact hsame ih (sameFraming_seen _)
  | answered _ he ih => exact hsame ih (sameFraming_answered he)
  | cookies _ he ih => exact hsame ih (sameFraming_cookies he)
  | prepared _ ih => exact hsame ih (sameFraming_prepared _)
  | conditional _ he ih => exact hsame ih (sameFraming_conditional he)
  | redirected _ _ he ih =>
    rcases Redirect.request_framing he with hkept | ⟨hne, hget, hframes⟩
    · have hmethod := bne_eq_false_iff_eq.2 hkept.method_eq
      rw [hmethod, Bool.or_false]
      exact hsame ih hkept
    · rw [bne_iff_ne.2 hne, Bool.or_true]
      exact ⟨nofun, fun _ => ⟨hget, hframes⟩⟩

end Request.Leads

end HttpCourier
