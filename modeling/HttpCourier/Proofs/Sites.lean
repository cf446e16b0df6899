import HttpCourier.Proofs.Planning
import HttpCourier.Proofs.Storage

/-!
# What a cache relies on

A `Site` answers a request by its address, the time, and the ETag that the request asks about.
Before a lawful site (`Site.Lawful`) what a cache holds is a page of the site, and its ETag is that
of the page (`Storage.Faithful`); so an answer that is confirmed is the current page
(`StoredResponse.Faithful.plainPage_iff`). `Cache.Follows` is what it takes for one page to be the
same with a cache and without it: the cache does not fail by itself, and the site does not mind that
it was asked about an ETag (`Site.Agrees`).
-/

namespace HttpCourier

open Step

/-! ## Sites -/

/-- The answers of a server: to an address, at a time, when the request asks about an ETag or about
none. -/
abbrev Site := Url → Nat → Option Bytes → Except Failure Reply

/-- The status and the body of an answer. -/
def Reply.page (reply : Reply) : Except Failure (Int × Bytes) :=
  reply.content.map fun body => (reply.status, body)

namespace Site

/-- The status and the body of what is answered. -/
def page (site : Site) (url : Url) (time : Nat) (asked : Option Bytes) :
    Except Failure (Int × Bytes) := do
  let reply ← site url time asked
  reply.page

/-- What a cache relies on. -/
structure Lawful (site : Site) : Prop where
  /-- Addresses that the cache writes alike are the same address. -/
  same_key : ∀ url other, Cache.plainAddress url = Cache.plainAddress other → site url = site other
  /-- An address that is written and read again is the same address. -/
  same_read : ∀ url other, Url.parse (Cache.plainAddress url) = .ok other → site other = site url
  /-- An answer 304 says that the ETag that was asked about is the current one. -/
  confirms : ∀ url time asked reply, site url time asked = .ok reply → reply.status = 304 →
    ∃ etag current, asked = some etag ∧ site url time none = .ok current ∧
      current.fields.etag? = some etag ∧
      (reply.fields.etag? = none ∨ reply.fields.etag? = some etag)
  /-- An address and an ETag determine the body. -/
  same_body : ∀ url time other asked asked' reply reply' etag page page',
    site url time asked = .ok reply → site url other asked' = .ok reply' →
    reply.status ≠ 304 → reply'.status ≠ 304 →
    reply.fields.etag? = some etag → reply'.fields.etag? = some etag →
    reply.page = .ok page → reply'.page = .ok page' → page.2 = page'.2

/-- Asking about an ETag makes no other difference than that a page may be confirmed. -/
def Agrees (site : Site) (url : Url) (time : Nat) (asked : Option Bytes) : Prop :=
  site.page url time asked = site.page url time none ∨
    ∃ rest body, site.page url time asked = .ok (304, rest) ∧
      site.page url time none = .ok (200, body)

/-- Asking about an ETag makes no difference for any page. -/
def Indifferent (site : Site) : Prop := ∀ url time asked, site.Agrees url time asked

/-- The cache can read and store all answers, and asking about an ETag makes no difference. -/
structure Clean (site : Site) : Prop where
  legible : ∀ url time asked reply, site url time asked = .ok reply → reply.fields.Legible
  ascii : ∀ url time asked reply, site url time asked = .ok reply →
    Bytes.isAscii (reply.phrase.getD []) = true
  indifferent : site.Indifferent

variable {site : Site} {url : Url} {time : Nat} {asked : Option Bytes} {reply : Reply}

/-- An answer has its page. -/
theorem page_of_ok (h : site url time asked = .ok reply) :
    site.page url time asked = reply.page := by
  rw [page, h, ok_bind]

/-- A lawful site confirms nothing when it is not asked about an ETag. -/
theorem Lawful.status_ne (h : site.Lawful) (hr : site url time none = .ok reply) :
    reply.status ≠ 304 := by
  intro hs
  obtain ⟨etag, current, hn, -⟩ := h.confirms url time none reply hr hs
  cases hn

end Site

/-- A page has the status of its answer. -/
theorem Reply.status_of_page {reply : Reply} {page : Int × Bytes} (h : reply.page = .ok page) :
    page = (reply.status, page.2) := by
  unfold Reply.page at h
  cases hb : reply.content with
  | error failure =>
    rw [hb] at h
    cases h
  | ok body =>
    rw [hb] at h
    obtain rfl := Except.ok.inj h
    rfl

/-! ## What the cache holds -/

/-- A stored answer is a page of a site: its ETag is that of the page. -/
structure StoredResponse.Faithful (stored : StoredResponse) (site : Site) (address : String) :
    Prop where
  status_eq : stored.status = 200
  body_eq : ∀ etag, stored.fields.etag? = some etag →
    ∃ url time asked reply, Cache.plainAddress url = address ∧ site url time asked = .ok reply ∧
      reply.fields.etag? = some etag ∧ reply.page = .ok (200, stored.body)
  legible : site.Clean → stored.fields.Legible

/-- All stored answers are pages of a site. -/
def Storage.Faithful (storage : Storage) (site : Site) : Prop :=
  ∀ key stored, storage.get? key = some stored → stored.Faithful site key.url

namespace Storage

variable {site : Site} {storage : Storage} {key : CacheKey} {response : StoredResponse}

/-- An empty storage has nothing that is not of the site. -/
theorem faithful_new (capacity : Nat) : ({ capacity } : Storage).Faithful site :=
  fun _ _ h => by cases h

/-- A page that is stored stays faithful, whatever is dropped for it. -/
theorem Faithful.store (h : storage.Faithful site) (hr : response.Faithful site key.url) :
    (storage.store key response).1.Faithful site := by
  intro other stored hs
  by_cases hfits : response.size ≤ storage.capacity
  · obtain ⟨n, hstores, -⟩ := store_of_fits key hfits
    by_cases ho : other = key
    · subst ho
      rw [hstores.get?_self] at hs
      obtain rfl := Option.some.inj hs
      exact hr
    · rw [hstores.get?_other other ho] at hs
      split at hs
      · cases hs
      · exact h other stored hs
  · rw [store_of_large (Nat.lt_of_not_le hfits)] at hs
    exact h other stored hs

/-- A replaced answer is found in the place of the stored one, if there is one. -/
theorem get?_replace (storage : Storage) (key other : CacheKey) (response : StoredResponse) :
    (storage.replace key response).get? other
      = if other = key then (storage.get? key).map fun _ => response else storage.get? other := by
  unfold replace get?
  dsimp only
  induction storage.entries with
  | nil => simp
  | cons entry entries ih =>
    rw [List.map_cons]
    by_cases hk : entry.1 = key
    · by_cases ho : other = key
      · simp [OrderedMap.get?, hk, ho]
      · simp [OrderedMap.get?, hk, ho, Ne.symm ho, ih]
    · by_cases ho : entry.1 = other
      · have hne : other ≠ key := ho ▸ hk
        simp [OrderedMap.get?, ho, hne]
      · simp [OrderedMap.get?, hk, ho, ih]

/-- A storage stays faithful when one of its answers is replaced by a page of the site. -/
theorem Faithful.replace (h : storage.Faithful site) (hr : response.Faithful site key.url) :
    (storage.replace key response).Faithful site := by
  intro other stored hs
  rw [get?_replace] at hs
  split at hs
  case isTrue ho =>
    subst ho
    obtain ⟨-, -, rfl⟩ := Option.map_eq_some_iff.1 hs
    exact hr
  case isFalse => exact h other stored hs

end Storage

/-! ## What a page is compared to -/

namespace Site

variable {site : Site} {url : Url} {time : Nat} {asked : Option Bytes} {failure : Failure}
  {page : Int × Bytes}

/-- What a request gets without a cache. -/
def plainPage (site : Site) (url : Url) (time : Nat) : Except Fault (Int × Bytes) :=
  (site.page url time none).mapError Fault.failure

theorem plainPage_eq_ok : site.plainPage url time = .ok page ↔ site.page url time none = .ok page := by
  unfold plainPage
  cases site.page url time none with
  | error failure => exact ⟨nofun, nofun⟩
  | ok page' => exact ⟨fun h => congrArg _ (Except.ok.inj h), fun h => congrArg _ (Except.ok.inj h)⟩

theorem plainPage_eq_error :
    site.plainPage url time = .error (.failure failure) ↔ site.page url time none = .error failure := by
  unfold plainPage
  cases site.page url time none with
  | error failure' =>
    refine ⟨fun h => ?_, fun h => ?_⟩
    · cases h
      rfl
    · cases h
      rfl
  | ok page => exact ⟨nofun, nofun⟩

/-- A page without a cache is never missing by a fault of a cache. -/
theorem plainPage_ne {fault : Fault} (h : fault.IsOwn) : site.plainPage url time ≠ .error fault := by
  unfold plainPage
  cases site.page url time none with
  | error failure =>
    intro he
    exact h failure (Except.error.inj he).symm
  | ok page => exact nofun

/-- A failure after being asked is the failure without a cache exactly when being asked makes no
difference. -/
theorem agrees_iff_of_error (h : site.page url time asked = .error failure) :
    site.plainPage url time = .error (.failure failure) ↔ site.Agrees url time asked := by
  rw [plainPage_eq_error, Agrees, h]
  exact ⟨fun hn => .inl hn.symm, fun ha => ha.elim Eq.symm fun ⟨_, _, hc, _⟩ => nomatch hc⟩

/-- A page sent after being asked is the page without a cache exactly when being asked makes no
difference. -/
theorem agrees_iff_of_ok (h : site.page url time asked = .ok page) (hs : page.1 ≠ 304) :
    site.plainPage url time = .ok page ↔ site.Agrees url time asked := by
  rw [plainPage_eq_ok, Agrees, h]
  refine ⟨fun hn => .inl hn.symm, fun ha => ha.elim Eq.symm fun ⟨_, _, hc, _⟩ => ?_⟩
  exact absurd (congrArg Prod.fst (Except.ok.inj hc)) hs

/-- A page that is confirmed agrees when the current page has the status and the body that are
stored. -/
theorem agrees_iff_of_confirmed {rest body : Bytes} (h : site.page url time asked = .ok (304, rest))
    (hne : site.page url time none ≠ .ok (304, rest))
    (hbody : ∀ page, site.page url time none = .ok page → page.2 = body) :
    site.plainPage url time = .ok (200, body) ↔ site.Agrees url time asked := by
  rw [plainPage_eq_ok, Agrees, h]
  constructor
  · exact fun hn => .inr ⟨rest, body, rfl, hn⟩
  · rintro (ha | ⟨-, other, -, hn⟩)
    · exact absurd ha.symm hne
    · rw [hn, ← hbody _ hn]

end Site

/-! ## Confirmed pages -/

namespace StoredResponse

variable {site : Site} {url : Url} {time : Nat} {stored : StoredResponse} {reply : Reply}
  (hsite : site.Lawful) (h : stored.Faithful site (Cache.plainAddress url))
  (hr : site url time stored.fields.etag? = .ok reply) (hs : reply.status = 304)
include hsite h hr hs

/-- A confirmed answer has no other ETag than before. -/
theorem Faithful.refresh (out : Request) :
    (Cache.refresh stored out reply.fields).Faithful site (Cache.plainAddress url) := by
  obtain ⟨etag, current, hstored, -, -, hnew⟩ := hsite.confirms _ _ _ _ hr hs
  rw [← hstored] at hnew
  refine ⟨h.status_eq, fun etag' he => h.body_eq etag' (Cache.etag?_refreshedFields hnew he), ?_⟩
  exact fun hclean => (h.legible hclean).refreshed (hclean.legible _ _ _ _ hr)

/-- The answer that is confirmed is the current page. -/
theorem Faithful.plainPage_iff {rest : Bytes} (hp : reply.page = .ok (304, rest)) :
    site.plainPage url time = .ok (200, stored.body) ↔
      site.Agrees url time stored.fields.etag? := by
  obtain ⟨etag, current, hstored, hcurrent, hetag, -⟩ := hsite.confirms _ _ _ _ hr hs
  obtain ⟨url', time', asked', reply', hurl, hr', hetag', hp'⟩ := h.body_eq etag hstored
  rw [hsite.same_key url' url hurl] at hr'
  have hs' : reply'.status ≠ 304 := by
    rw [← (Prod.mk.inj (Reply.status_of_page hp')).1]
    decide
  have hne := hsite.status_ne hcurrent
  refine Site.agrees_iff_of_confirmed ((Site.page_of_ok hr).trans hp) ?_ fun page hpage => ?_
  · intro hpage
    rw [Site.page_of_ok hcurrent] at hpage
    exact hne (Prod.mk.inj (Reply.status_of_page hpage)).1.symm
  · rw [Site.page_of_ok hcurrent] at hpage
    exact hsite.same_body url time time' none asked' current reply' etag page (200, stored.body)
      hcurrent hr' hne hs' hetag hetag' hpage hp'

end StoredResponse

/-! ## Following a site -/

/-- The page of a request comes through the cache as it comes without it: the cache can go on with
the request, being asked about an ETag makes no difference to the site, and the answer can be stored
as it is. -/
def Cache.Follows (cache : Cache) (site : Site) (time : Nat) (request : Request) : Prop :=
  cache.Asks request ∧ ∀ out, cache.outgoing? request = some out →
    site.Agrees request.url time out.fields.asked? ∧
      ∀ reply body, site request.url time out.fields.asked? = .ok reply →
        reply.page = .ok (reply.status, body) → cache.Accepts reply body

namespace Cache

variable {site : Site} {time : Nat} {request out : Request} {cache : Cache} {reply : Reply}
  {body : Bytes} {failure : Failure} (ha : cache.Asks request)
  (hout : cache.outgoing? request = some out)
include ha hout

/-- When the site fails, the cache follows it as far as being asked makes no difference. -/
theorem follows_iff_of_error
    (h : site.page request.url time out.fields.asked? = .error failure) :
    cache.Follows site time request ↔ site.Agrees request.url time out.fields.asked? := by
  refine ⟨fun hf => (hf.2 out hout).1, fun hagrees => ⟨ha, fun other ho => ?_⟩⟩
  obtain rfl := Option.some.inj (hout.symm.trans ho)
  refine ⟨hagrees, fun reply body hr hp => ?_⟩
  rw [Site.page_of_ok hr, hp] at h
  cases h

/-- When the site sends a page, the cache follows it as far as being asked makes no difference and
the page can be stored. -/
theorem follows_iff_of_ok (hr : site request.url time out.fields.asked? = .ok reply)
    (hp : reply.page = .ok (reply.status, body)) :
    cache.Follows site time request ↔
      site.Agrees request.url time out.fields.asked? ∧ cache.Accepts reply body := by
  refine ⟨fun hf => ⟨(hf.2 out hout).1, (hf.2 out hout).2 reply body hr hp⟩,
    fun ⟨hagrees, haccepts⟩ => ⟨ha, fun other ho => ?_⟩⟩
  obtain rfl := Option.some.inj (hout.symm.trans ho)
  refine ⟨hagrees, fun reply' body' hr' hp' => ?_⟩
  obtain rfl := Except.ok.inj (hr.symm.trans hr')
  obtain ⟨-, rfl⟩ := Prod.mk.inj (Except.ok.inj (hp.symm.trans hp'))
  exact haccepts

end Cache

/-- The cache follows a clean site, for addresses that can be read again. -/
theorem Cache.follows_of_clean {site : Site} {cache : Cache} {request : Request}
    (hclean : site.Clean) (hf : cache.storage.Faithful site)
    (hurl : ∃ url, Url.parse (Cache.plainAddress request.url) = .ok url) (time : Nat) :
    cache.Follows site time request := by
  refine ⟨fun stored hs => ?_, fun out _ => ⟨hclean.indifferent _ _ _, fun reply body hr _ _ => ?_⟩⟩
  · have hlegible := (hf _ stored hs).legible hclean
    refine ⟨exists_directives hlegible.directives, ?_⟩
    obtain ⟨isSuitable, hsuits⟩ := exists_suits request stored hlegible.names
    cases isSuitable with
    | false => exact .inl hsuits
    | true => exact .inr ⟨hsuits, hurl⟩
  · obtain ⟨d, hd⟩ := exists_directives (hclean.legible _ _ _ _ hr).directives
    exact ⟨d, hd, fun _ _ => hclean.ascii _ _ _ _ hr⟩

end HttpCourier
