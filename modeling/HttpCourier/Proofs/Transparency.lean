import HttpCourier.Proofs.Sites

/-!
# What a cache changes

A link in front of a site is asked for one page after the other (`Link.pages`), with a cache or
without one. Whatever comes of a page, what the cache holds stays faithful to the site, and the page
is the one without a cache exactly when the cache follows the site (`Link.Outcome`,
`Link.visit_outcome`). `Link.Transparent` says this of all pages of a run
(`Link.cache_transparent_iff`). One answer that the cache cannot read is enough for a page to be
missing (`Link.missing_of_quoted_time`).
-/

namespace HttpCourier

open Step

/-! ## One page -/

namespace Link

variable {site : Site} {time : Nat} {request out : Request} {l : Link} {cache : Cache}
  {reply : Reply} {body : Bytes}

/-- The link in front of a site, which will answer what is sent for a request. -/
def facing (site : Site) (time : Nat) (request : Request) (l : Link) : Link :=
  { l with network := { l.network with
    steps := (l.outgoing? request).toList.map fun out =>
      { answer := site out.url time out.fields.asked? } } }

/-- A site answers what is sent. -/
theorem nextAnswer_facing (time : Nat) (h : l.outgoing? request = some out) :
    (facing site time request l).nextAnswer = site out.url time out.fields.asked? := by
  rw [nextAnswer, facing, h]
  rfl

/-- Asks a site for a page, and reads it. -/
def visit (site : Site) (time : Nat) (request : Request) : Step Link (Int × Bytes) := do
  modify (facing site time request)
  let response ← transmit request
  let body ← readAll response
  return (response.status, body)

/-- The pages of some requests, one after the other. -/
def pages (site : Site) : (time : Nat) → List Request → Link → List (Except Fault (Int × Bytes))
  | _, [], _ => []
  | time, request :: requests, l =>
    (on l (visit site time request)).1
      :: pages site (time + 1) requests (on l (visit site time request)).2

/-- What the link has in its cache is faithful to a site. -/
def Ready (site : Site) (l : Link) : Prop :=
  ∃ cache, l.client.cache = some cache ∧ cache.storage.Faithful site

/-- The status and the body of an answer that is in memory. -/
structure Held (response : Response) (page : Int × Bytes) : Prop where
  status_eq : response.status = page.1
  wire_eq : response.wire = { parts := [.chunk page.2] }
  fromNetwork_eq : response.fromNetwork = false

/-- What is in memory is read without a change. -/
theorem readAll_held {response : Response} {page : Int × Bytes} (h : Held response page) :
    on l (readAll response) = (.ok page.2, l) := by
  unfold readAll settle
  rw [h.wire_eq, h.fromNetwork_eq]
  dsimp only
  rw [Wire.readAll_chunk]
  rfl

/-- What is fetched is the page that the network answers. -/
theorem fetch_page {answer : Except Failure Reply} (h : l.nextAnswer = answer) (cache : Cache)
    (out : Request) :
    (fetch cache out).Yields l
      (fun result l' => l'.Caches cache.storage ∧ ∃ reply, answer = .ok reply ∧
        reply.page = .ok (reply.status, result.2) ∧ result.1 = reply.fetched out result.2)
      fun fault l' => l'.Caches cache.storage ∧
        ∃ failure, (answer >>= Reply.page) = .error failure ∧ fault = .failure failure := by
  subst h
  refine (fetch_answer cache out).mono ?_ ?_
  · rintro result l' ⟨hcaches, reply, hreply, hcontent, hfetched⟩
    exact ⟨hcaches, reply, hreply, by rw [Reply.page, hcontent]; rfl, hfetched⟩
  · rintro fault l' ⟨hcaches, failure, hfailure, rfl⟩
    refine ⟨hcaches, failure, ?_, rfl⟩
    cases hnext : l.nextAnswer with
    | error other =>
      rw [hnext] at hfailure
      obtain rfl := Except.error.inj hfailure
      rfl
    | ok reply =>
      rw [hnext] at hfailure
      have hcontent : reply.content = .error failure := hfailure
      rw [ok_bind, Reply.page, hcontent]
      rfl

/-- What becomes of a page that the cache looks at. -/
theorem keep_page {url : Url} {asked : Option Bytes} {key : CacheKey}
    (hc : l.Caches cache.storage) (hf : cache.storage.Faithful site) (hm : out.method = "GET")
    (hd : out.fields.valuesOf "Cache-Control" = []) (hr : site url time asked = .ok reply)
    (hp : reply.page = .ok (reply.status, body)) (hkey : Cache.plainAddress url = key.url) :
    (keep key out (reply.fetched out body) body).Yields l
      (fun _ l' => Ready site l' ∧ cache.Accepts reply body)
      fun fault l' => Ready site l' ∧ fault.IsOwn ∧ ¬ cache.Accepts reply body := by
  obtain ⟨statistics, hc⟩ := hc
  have hready : Ready site l := ⟨_, hc, hf⟩
  unfold keep
  rw [yields_bind, yields_get, hc]
  dsimp only
  rw [yields_bind]
  cases Cache.kept { cache with statistics } key hm hd reply body with
  | stuck fault keep_eq isOwn fails =>
    rw [keep_eq, yields_error]
    exact ⟨hready, isOwn, fails⟩
  | passed accepts keep_eq =>
    rw [keep_eq, yields_ok]
    exact ⟨⟨_, rfl, hf⟩, accepts⟩
  | stored log status_eq accepts keep_eq =>
    have hstored : (reply.stored out body).Faithful site key.url := by
      refine ⟨status_eq, fun etag he => ⟨url, time, asked, reply, hkey, hr, he, ?_⟩, fun hclean => ?_⟩
      · rw [hp, status_eq]
        rfl
      · exact hclean.legible url time asked reply hr
    rw [keep_eq, yields_ok]
    exact ⟨⟨_, rfl, hf.store hstored⟩, accepts⟩

/-- A page that comes through a cache is the page without it, or it is missing by a fault of the
cache. -/
def SameOrMissing (result plain : Except Fault (Int × Bytes)) : Prop :=
  result = plain ∨ ∃ fault, result = .error fault ∧ fault.IsOwn

/-- The result of a page through the cache: it is the page without a cache exactly when the cache
follows the site, and what is stored stays faithful in any case. -/
structure Outcome (site : Site) (time : Nat) (request : Request) (cache : Cache)
    (result : Except Fault (Int × Bytes)) (l : Link) : Prop where
  ready : Ready site l
  result_iff : site.plainPage request.url time = result ↔ cache.Follows site time request
  sound : site.Indifferent → SameOrMissing result (site.plainPage request.url time)

section
variable (ha : cache.Asks request) (hout : cache.outgoing? request = some out)
include ha hout

/-- A failure of the network comes through the cache as it is. -/
theorem Outcome.of_failure {failure : Failure} (hready : Ready site l)
    (h : site.page request.url time out.fields.asked? = .error failure) :
    Outcome site time request cache (.error (.failure failure)) l := by
  have hagrees := Site.agrees_iff_of_error h
  refine ⟨hready, ?_, fun hall => .inl (hagrees.2 (hall _ _ _)).symm⟩
  rw [hagrees, Cache.follows_iff_of_error ha hout h]

variable (hr : site request.url time out.fields.asked? = .ok reply)
  (hp : reply.page = .ok (reply.status, body))
include hr hp

/-- A page of the site comes through the cache as it is, when the cache can store it. -/
theorem Outcome.of_kept (hready : Ready site l) (hs : reply.status ≠ 304)
    (haccepts : cache.Accepts reply body) :
    Outcome site time request cache (.ok (reply.status, body)) l := by
  have hagrees := Site.agrees_iff_of_ok ((Site.page_of_ok hr).trans hp) hs
  refine ⟨hready, ?_, fun hall => .inl (hagrees.2 (hall _ _ _)).symm⟩
  rw [hagrees, Cache.follows_iff_of_ok ha hout hr hp, and_iff_left haccepts]

/-- A page that the cache cannot store is missing by a fault of its own. -/
theorem Outcome.of_stuck {fault : Fault} (hready : Ready site l) (hown : fault.IsOwn)
    (haccepts : ¬ cache.Accepts reply body) :
    Outcome site time request cache (.error fault) l := by
  refine ⟨hready, ?_, fun _ => .inr ⟨fault, rfl, hown⟩⟩
  rw [Cache.follows_iff_of_ok ha hout hr hp]
  exact iff_of_false (Site.plainPage_ne hown) fun h => haccepts h.2

/-- A page that is not a confirmation, after the cache looked at it. -/
theorem keep_outcome (hs : reply.status ≠ 304) (hc : l.Caches cache.storage)
    (hf : cache.storage.Faithful site) (hm : out.method = "GET")
    (hd : out.fields.valuesOf "Cache-Control" = []) :
    (keep (Cache.keyOf request) out (reply.fetched out body) body).Yields l
      (fun _ l' => Outcome site time request cache (.ok (reply.status, body)) l')
      fun fault l' => Outcome site time request cache (.error fault) l' := by
  refine (keep_page hc hf hm hd hr hp rfl).mono ?_ ?_
  · rintro - l' ⟨hready, haccepts⟩
    exact .of_kept ha hout hr hp hready hs haccepts
  · rintro fault l' ⟨hready, hown, haccepts⟩
    exact .of_stuck ha hout hr hp hready hown haccepts

end

/-- A confirmed page is the one that was stored, with the ETag that the site confirms. -/
theorem Outcome.of_confirmed (hsite : site.Lawful) {stored : StoredResponse}
    (ha : cache.Asks request) (hout : cache.outgoing? request = some out)
    (hasked : out.fields.asked? = stored.fields.etag?)
    (hstored : stored.Faithful site (Cache.plainAddress request.url))
    (hr : site request.url time out.fields.asked? = .ok reply) (hs : reply.status = 304)
    (hp : reply.page = .ok (reply.status, body)) (hready : Ready site l) :
    Outcome site time request cache (.ok (200, stored.body)) l := by
  have haccepts : cache.Accepts reply body := fun h200 => by
    rw [hs] at h200
    cases h200
  have hfollows := Cache.follows_iff_of_ok ha hout hr hp
  rw [and_iff_left haccepts, hasked] at hfollows
  rw [hasked] at hr
  rw [hs] at hp
  have hagrees := hstored.plainPage_iff hsite hr hs hp
  exact ⟨hready, hagrees.trans hfollows.symm, fun hall => .inl (hagrees.2 (hall _ _ _)).symm⟩

/-- A page that is fetched because nothing is stored that could be asked about. -/
theorem fetched_page (hm : request.IsPlain) (hplan : cache.plan request = .ok .fetch)
    (ha : cache.Asks request) (hsite : site.Lawful) (hf : cache.storage.Faithful site)
    (hanswer : l.nextAnswer = site request.url time request.fields.asked?) :
    (do
      let (response, body) ← fetch cache request
      keep (Cache.keyOf request) request response body
      return response : Step Link Response).Yields l
      (fun response l' => ∃ page, Held response page ∧
        Outcome site time request cache (.ok page) l')
      fun fault l' => Outcome site time request cache (.error fault) l' := by
  have hout : cache.outgoing? request = some request := by rw [Cache.outgoing?, hplan]
  rw [yields_bind]
  refine (fetch_page hanswer cache request).mono ?_ ?_
  · rintro ⟨response, body⟩ l' ⟨hcaches, reply, hr, hp, hfetched⟩
    dsimp only at hp hfetched
    subst hfetched
    have hs : reply.status ≠ 304 := by
      rw [hm.asked?_eq] at hr
      exact hsite.status_ne hr
    dsimp only
    rw [yields_bind]
    refine (keep_outcome ha hout hr hp hs hcaches hf hm.method_eq hm.directives_eq).mono ?_ ?_
    · exact fun _ l'' h => ⟨(reply.status, body), ⟨rfl, rfl, rfl⟩, h⟩
    · exact fun _ _ => id
  · rintro fault l' ⟨⟨statistics, hcaches⟩, failure, hfail, rfl⟩
    exact .of_failure ha hout ⟨_, hcaches, hf⟩ hfail

/-- A page that is asked about. -/
theorem revalidated_page (hm : request.IsPlain) {stored : StoredResponse} {url : Url}
    (hget : cache.storage.get? (Cache.keyOf request) = some stored)
    (hurl : Url.parse (Cache.plainAddress request.url) = .ok url)
    (hplan : cache.plan request
      = .ok (.revalidate (Cache.confirming request stored url) stored))
    (ha : cache.Asks request) (hsite : site.Lawful) (hf : cache.storage.Faithful site)
    (hanswer : l.nextAnswer = site url time (Cache.confirming request stored url).fields.asked?) :
    (revalidate cache request (Cache.confirming request stored url) stored).Yields l
      (fun response l' => ∃ page, Held response page ∧
        Outcome site time request cache (.ok page) l')
      fun fault l' => Outcome site time request cache (.error fault) l' := by
  have hout : cache.outgoing? request = some (Cache.confirming request stored url) := by
    rw [Cache.outgoing?, hplan]
  have hasked := Cache.asked?_confirming hm stored url
  have hstored : stored.Faithful site (Cache.plainAddress request.url) := hf _ stored hget
  rw [hsite.same_read request.url url hurl] at hanswer
  unfold revalidate
  rw [yields_bind]
  refine (fetch_page hanswer cache _).mono ?_ ?_
  · rintro ⟨response, body⟩ l' ⟨⟨statistics, hcaches⟩, reply, hr, hp, hfetched⟩
    dsimp only at hp hfetched
    subst hfetched
    dsimp only
    split
    case isTrue hs =>
      have hrefreshed : (Cache.refresh stored (Cache.confirming request stored url)
          reply.fields).Faithful site (Cache.plainAddress request.url) := by
        rw [hasked] at hr
        exact hstored.refresh hsite hr hs _
      rw [yields_bind, yields_get, hcaches]
      simp only [setCache, yields_bind, yields_modify]
      refine ⟨(200, stored.body), ⟨hstored.status_eq, rfl, rfl⟩, ?_⟩
      refine .of_confirmed hsite ha hout hasked hstored hr hs hp ⟨_, rfl, ?_⟩
      exact hf.replace hrefreshed
    case isFalse hs =>
      have hmethod : (Cache.confirming request stored url).method = "GET" := hm.method_eq
      rw [yields_bind]
      refine (keep_outcome ha hout hr hp hs ⟨statistics, hcaches⟩ hf hmethod
        (Cache.valuesOf_confirming hm stored url)).mono ?_ ?_
      · exact fun _ l'' h => ⟨(reply.status, body), ⟨rfl, rfl, rfl⟩, h⟩
      · exact fun _ _ => id
  · rintro fault l' ⟨⟨statistics, hcaches⟩, failure, hfail, rfl⟩
    exact .of_failure ha hout ⟨_, hcaches, hf⟩ hfail

/-- What comes of a request that goes through the cache. -/
theorem through_page (hm : request.IsPlain) (hsite : site.Lawful)
    (hc : l.client.cache = some cache) (hf : cache.storage.Faithful site)
    (hanswer : ∀ out, cache.outgoing? request = some out →
      l.nextAnswer = site out.url time out.fields.asked?) :
    (throughCache cache request).Yields l
      (fun response l' => ∃ page, Held response page ∧
        Outcome site time request cache (.ok page) l')
      fun fault l' => Outcome site time request cache (.error fault) l' := by
  unfold throughCache
  rw [yields_bind]
  cases Cache.planned cache hm with
  | stuck fault plan_eq isOwn fails =>
    rw [plan_eq, yields_error]
    exact ⟨⟨cache, hc, hf⟩, iff_of_false (Site.plainPage_ne isOwn) fun h => fails h.1,
      fun _ => .inr ⟨fault, rfl, isOwn⟩⟩
  | fetch plan_eq asks =>
    have hnext := hanswer request (by rw [Cache.outgoing?, plan_eq])
    rw [plan_eq, yields_ok]
    exact fetched_page hm plan_eq asks hsite hf hnext
  | revalidate stored url get?_eq parse_eq plan_eq asks =>
    have hnext := hanswer (Cache.confirming request stored url) (by rw [Cache.outgoing?, plan_eq])
    rw [plan_eq, yields_ok]
    exact revalidated_page hm get?_eq parse_eq plan_eq asks hsite hf hnext

/-- Counting an answer does not touch what is stored. -/
theorem countAnswer_ready (response : Response) (h : Ready site l) :
    (countAnswer response).Yields l (fun _ => Ready site) never := by
  obtain ⟨cache, hc, hf⟩ := h
  unfold countAnswer
  rw [yields_bind, yields_get, hc]
  dsimp only
  rw [yields_bind, setCache, yields_modify]
  split
  · exact ⟨_, rfl, hf⟩
  · exact ⟨_, rfl, hf⟩

/-- A page through the cache. -/
theorem visit_outcome (time : Nat) (hm : request.IsPlain) (hsite : site.Lawful)
    (hc : l.client.cache = some cache) (hf : cache.storage.Faithful site) :
    Outcome site time request cache (on l (visit site time request)).1
      (on l (visit site time request)).2 := by
  have hprepared : Cache.prepared request = request := by
    rw [Cache.prepared, hm.method_eq]
    rfl
  have hcache : (facing site time request l).client.cache = some cache := hc
  have hanswer : ∀ out, cache.outgoing? request = some out →
      (facing site time request l).nextAnswer = site out.url time out.fields.asked? := by
    intro out hout
    refine nextAnswer_facing time ?_
    rw [outgoing?, hc]
    dsimp only
    rw [hprepared, hout]
  refine Yields.both (Outcome site time request cache) ?_
  unfold visit transmit
  rw [yields_bind, yields_modify, yields_bind, yields_bind, yields_get, hcache]
  dsimp only
  rw [hprepared, yields_bind]
  refine (through_page hm hsite hcache hf hanswer).mono ?_ fun _ _ => id
  rintro response l₁ ⟨page, hheld, hout⟩
  rw [yields_bind]
  refine (countAnswer_ready response hout.ready).mono ?_ fun _ _ => False.elim
  rintro - l₂ hready
  rw [yields_pure, yields_bind, yields_of_ok (readAll_held hheld), yields_pure, hheld.status_eq]
  exact ⟨hready, hout.result_iff, hout.sound⟩

/-- A page without a cache. -/
theorem visit_plain (site : Site) (time : Nat) (hm : request.IsPlain) (hc : l.client.cache = none) :
    (on l (visit site time request)).1 = site.plainPage request.url time ∧
      (on l (visit site time request)).2.client.cache = none := by
  have hcache : (facing site time request l).client.cache = none := hc
  have hanswer : (facing site time request l).nextAnswer = site request.url time none := by
    rw [← hm.asked?_eq]
    refine nextAnswer_facing time ?_
    rw [outgoing?, hc]
  refine Yields.both
    (fun result (l' : Link) =>
      result = site.plainPage request.url time ∧ l'.client.cache = none) ?_
  unfold visit transmit
  rw [yields_bind, yields_modify, yields_bind, yields_bind, yields_get, hcache]
  refine (ask_answer request).mono ?_ ?_
  · rintro response l' ⟨hclient, reply, hreply, rfl, -⟩
    have hpage : site.plainPage request.url time
        = (reply.content.map fun body => (reply.status, body)).mapError Fault.failure := by
      rw [Site.plainPage, Site.page_of_ok (hanswer.symm.trans hreply), Reply.page]
    rw [yields_bind, readAll, yields_bind]
    refine (settle_client _ _).mono (fun _ l'' hsettled => ?_) fun _ _ => False.elim
    have hnone : l''.client.cache = none := by rw [hsettled, hclient, hcache]
    have hread : (reply.arriving request).wire.readAll.1 = reply.content := rfl
    rw [hpage, hread]
    cases reply.content with
    | error failure => exact ⟨rfl, hnone⟩
    | ok body => exact ⟨rfl, hnone⟩
  · rintro fault l' ⟨hclient, failure, hfailure, rfl⟩
    refine ⟨?_, by rw [hclient, hcache]⟩
    rw [Site.plainPage, Site.page, hanswer.symm.trans hfailure]
    rfl

/-! ## All pages -/

/-- All pages of a run come through the cache as they come without it. -/
def Transparent (site : Site) : (time : Nat) → List Request → Link → Prop
  | _, [], _ => True
  | time, request :: requests, l =>
    (∃ cache, l.client.cache = some cache ∧ cache.Follows site time request) ∧
      Transparent site (time + 1) requests (on l (visit site time request)).2

/-- The pages of a run are those without a cache exactly when each of them is. -/
theorem pages_eq_iff (time : Nat) (hsite : site.Lawful) {requests : List Request}
    (hplain : ∀ request ∈ requests, request.IsPlain) {bare : Link} (hl : Ready site l)
    (hbare : bare.client.cache = none) :
    pages site time requests l = pages site time requests bare ↔
      Transparent site time requests l := by
  -- On the requests: after each page both links are again as they were before the first.
  induction requests generalizing time l bare with
  | nil => exact ⟨fun _ => trivial, fun _ => rfl⟩
  | cons request requests ih =>
    have hm := hplain request List.mem_cons_self
    obtain ⟨cache, hc, hf⟩ := hl
    have hout := visit_outcome time hm hsite hc hf
    obtain ⟨hpage, hnone⟩ := visit_plain site time hm hbare
    have hfollows : (∃ cache, l.client.cache = some cache ∧ cache.Follows site time request) ↔
        cache.Follows site time request := by
      simp [hc]
    rw [pages, pages, List.cons.injEq, hpage, eq_comm, hout.result_iff, Transparent, hfollows,
      ih (time + 1) (fun r hr => hplain r (List.mem_cons_of_mem _ hr)) hout.ready hnone]

/-- Before an indifferent site a cache gives no wrong page. -/
theorem pages_sound (hsite : site.Lawful) (hall : site.Indifferent) {requests : List Request}
    (hplain : ∀ request ∈ requests, request.IsPlain) {bare : Link} (hl : Ready site l)
    (hbare : bare.client.cache = none) :
    List.Forall₂ SameOrMissing (pages site time requests l) (pages site time requests bare) := by
  induction requests generalizing time l bare with
  | nil => exact .nil
  | cons request requests ih =>
    have hm := hplain request List.mem_cons_self
    obtain ⟨cache, hc, hf⟩ := hl
    have hout := visit_outcome time hm hsite hc hf
    obtain ⟨hpage, hnone⟩ := visit_plain site time hm hbare
    refine .cons ?_ (ih (fun r hr => hplain r (List.mem_cons_of_mem _ hr)) hout.ready hnone)
    rw [hpage]
    exact hout.sound hall

/-- Before a clean site every page of a run comes through the cache, by induction on the
requests. -/
theorem transparent_of_clean (hsite : site.Lawful) (hclean : site.Clean) {requests : List Request}
    (hplain : ∀ request ∈ requests, request.IsPlain)
    (hurl : ∀ request ∈ requests, ∃ url, Url.parse (Cache.plainAddress request.url) = .ok url)
    (hl : Ready site l) : Transparent site time requests l := by
  induction requests generalizing time l with
  | nil => trivial
  | cons request requests ih =>
    obtain ⟨cache, hc, hf⟩ := hl
    have hout := visit_outcome time (hplain request List.mem_cons_self) hsite hc hf
    refine ⟨⟨cache, hc, Cache.follows_of_clean hclean hf (hurl request List.mem_cons_self) time⟩, ?_⟩
    exact ih (fun r hr => hplain r (List.mem_cons_of_mem _ hr))
      (fun r hr => hurl r (List.mem_cons_of_mem _ hr)) hout.ready

/-- When a cache of any capacity, empty at first, changes what plain requests get from a lawful
site. The pages are those without a cache exactly when the cache follows the site at each of them.
Before an indifferent site every page is the one without a cache, or it is missing by a fault of the
cache; and before a clean site none is missing, for addresses that can be read again. -/
theorem cache_transparent_iff (hsite : site.Lawful) {requests : List Request}
    (hplain : ∀ request ∈ requests, request.IsPlain) {capacity : Nat} {cached bare : Link}
    (hcached : cached.client.cache = some { storage := { capacity } })
    (hbare : bare.client.cache = none) (time : Nat) :
    (pages site time requests cached = pages site time requests bare ↔
        Transparent site time requests cached) ∧
      (site.Indifferent → List.Forall₂ SameOrMissing (pages site time requests cached)
        (pages site time requests bare)) ∧
      (site.Clean →
        (∀ request ∈ requests, ∃ url, Url.parse (Cache.plainAddress request.url) = .ok url) →
        pages site time requests cached = pages site time requests bare) := by
  have hready : Ready site cached := ⟨_, hcached, Storage.faithful_new capacity⟩
  have hiff := pages_eq_iff time hsite hplain hready hbare
  refine ⟨hiff, fun hall => pages_sound hsite hall hplain hready hbare, fun hclean hurl => ?_⟩
  exact hiff.2 (transparent_of_clean hsite hclean hplain hurl hready)

/-! ## A site whose page changes -/

/-- A request for a page. -/
def pageRequest : Request :=
  { method := "GET", url := { scheme := "http", host := "example.com", path := "/a" }, fields := [] }

/-- The ETag of a page that changes back and forth. -/
def changingTag (time : Nat) : Bytes := Bytes.ofString (if time % 2 = 0 then "even" else "odd")

/-- The page that is its own ETag. -/
def changingReply (time : Nat) : Reply :=
  { status := 200, fields := [(Bytes.ofString "ETag", changingTag time)]
    body := [.chunk (changingTag time)] }

/-- A site whose page changes back and forth. -/
def changingSite : Site := fun _ time asked =>
  if asked = some (changingTag time) then .ok { status := 304 } else .ok (changingReply time)

/-- A link with a cache that is too small for every other page, and a link without one. -/
def cachedLink : Link where
  client := { cache := some { storage := { capacity := 3 } } }
  network := {}

def bareLink : Link := { client := {}, network := {} }

theorem etag?_changingReply (time : Nat) :
    (changingReply time).fields.etag? = some (changingTag time) := by
  have hne : (changingTag time).isEmpty = false := by
    unfold changingTag
    split
    · decide +kernel
    · decide +kernel
  have hvalues : (changingReply time).fields.valuesOf "ETag" = [changingTag time] :=
    Fields.valuesOf_map (Bytes.ofString "ETag") [changingTag time] "ETag"
  rw [Fields.etag?, hvalues, List.head?_cons, Option.filter_some, hne]
  rfl

theorem page_changingReply (time : Nat) :
    (changingReply time).page = .ok (200, changingTag time) := by
  rw [Reply.page, Reply.content, changingReply, Wire.readAll_chunk]
  rfl

/-- The site confirms its present tag, and sends its present page otherwise. -/
theorem changingSite_ok {url : Url} {time : Nat} {asked : Option Bytes} {reply : Reply}
    (h : changingSite url time asked = .ok reply) :
    asked = some (changingTag time) ∧ reply = { status := 304 } ∨ reply = changingReply time := by
  unfold changingSite at h
  split at h
  case isTrue ha => exact .inl ⟨ha, (Except.ok.inj h).symm⟩
  case isFalse => exact .inr (Except.ok.inj h).symm

/-- A tag that comes back stands for the same page as before. -/
theorem lawful_changingSite : changingSite.Lawful where
  same_key _ _ _ := rfl
  same_read _ _ _ := rfl
  confirms := by
    intro url time asked reply h hs
    rcases changingSite_ok h with ⟨rfl, rfl⟩ | rfl
    · exact ⟨_, changingReply time, rfl, rfl, etag?_changingReply time, .inl rfl⟩
    · cases hs
  same_body := by
    intro url time other asked asked' reply reply' etag page page' h h' hs hs' he he' hp hp'
    rcases changingSite_ok h with ⟨-, rfl⟩ | rfl
    · exact absurd rfl hs
    rcases changingSite_ok h' with ⟨-, rfl⟩ | rfl
    · exact absurd rfl hs'
    rw [etag?_changingReply] at he he'
    rw [page_changingReply] at hp hp'
    obtain rfl := Except.ok.inj hp
    obtain rfl := Except.ok.inj hp'
    exact Option.some.inj (he.trans he'.symm)

/-- All answers of the site can be read and stored. -/
theorem clean_changingSite : changingSite.Clean where
  legible := by
    intro url time asked reply h
    have hnone : reply.fields.valuesOf "Cache-Control" = [] ∧ reply.fields.valuesOf "Vary" = [] := by
      rcases changingSite_ok h with ⟨-, rfl⟩ | rfl
      · exact ⟨rfl, rfl⟩
      · exact ⟨rfl, rfl⟩
    constructor
    · simp [hnone.1]
    · simp [Cache.varyingNames, hnone.2]
  ascii := by
    intro url time asked reply h
    rcases changingSite_ok h with ⟨-, rfl⟩ | rfl
    · rfl
    · rfl
  indifferent := by
    intro url time asked
    have hplain : changingSite.page url time none = .ok (200, changingTag time) :=
      page_changingReply time
    by_cases ha : asked = some (changingTag time)
    · refine .inr ⟨[], changingTag time, ?_, hplain⟩
      have hconfirm : changingSite url time asked = .ok { status := 304 } := if_pos ha
      rw [Site.page_of_ok hconfirm, Reply.page, Reply.content, Wire.readAll_empty]
      rfl
    · have hreply : changingSite url time asked = .ok (changingReply time) := if_neg ha
      refine .inl ?_
      rw [Site.page_of_ok hreply, page_changingReply, hplain]

theorem isPlain_pageRequest : pageRequest.IsPlain := ⟨rfl, rfl, rfl⟩

/-- Four times the page that changes back and forth, with a cache that has room for one of them and
without a cache. -/
theorem cache_transparent_changingSite :
    pages changingSite 0 [pageRequest, pageRequest, pageRequest, pageRequest] cachedLink
      = pages changingSite 0 [pageRequest, pageRequest, pageRequest, pageRequest] bareLink := by
  have hplain : ∀ request ∈ [pageRequest, pageRequest, pageRequest, pageRequest],
      request.IsPlain := by
    simp [isPlain_pageRequest]
  have hurl : ∀ request ∈ [pageRequest, pageRequest, pageRequest, pageRequest],
      ∃ url, Url.parse (Cache.plainAddress request.url) = .ok url := by
    have hread : (Url.parse (Cache.plainAddress pageRequest.url)).isOk = true := by decide +kernel
    cases hu : Url.parse (Cache.plainAddress pageRequest.url) with
    | error e =>
      rw [hu] at hread
      cases hread
    | ok url => simp [hu]
  exact (cache_transparent_iff lawful_changingSite hplain rfl rfl 0).2.2 clean_changingSite hurl

/-! ## A site whose answer the cache cannot read -/

/-- A site that always gives the same page, with a time in quotes. -/
def quotedSite : Site := fun _ _ _ => .ok {
  status := 200
  fields := [(Bytes.ofString "Cache-Control", Bytes.ofString "max-age=\"60\"")]
  body := [.chunk (Bytes.ofString "x")] }

/-- A lawful site need not be the same through a cache: a time in quotes is a fault. -/
theorem missing_of_quoted_time :
    quotedSite.Lawful ∧ pageRequest.IsPlain ∧
      pages quotedSite 0 [pageRequest] cachedLink ≠ pages quotedSite 0 [pageRequest] bareLink := by
  have hcached : (pages quotedSite 0 [pageRequest] cachedLink).map Except.isOk = [false] := by
    decide +kernel
  have hbare : (pages quotedSite 0 [pageRequest] bareLink).map Except.isOk = [true] := by
    decide +kernel
  refine ⟨⟨fun _ _ _ => rfl, fun _ _ _ => rfl, ?_, ?_⟩, isPlain_pageRequest, fun h => ?_⟩
  · rintro url time asked reply ⟨⟩ hs
    cases hs
  · rintro url time other asked asked' reply reply' etag page page' ⟨⟩ ⟨⟩ - - - - hp hp'
    rw [Except.ok.inj (hp.symm.trans hp')]
  · rw [h, hbare] at hcached
    cases hcached

end Link

end HttpCourier
