import HttpCourier.Proofs.Answers
import HttpCourier.Proofs.Refreshing
import Mathlib.Data.List.TakeWhile

/-!
# What the cache plans and keeps

For a GET request without directives and conditions of its own (`Request.IsPlain`) the plan of the
cache depends on the stored answer alone (`Cache.planned`): it goes on when that answer can be read
and the address, too (`Cache.Asks`), and then it asks about the ETag of that answer
(`Cache.asked?_confirming`). An answer from the network is stored or passed on as it is, unless it
cannot be read or its phrase cannot be stored (`Cache.kept`, `Cache.Accepts`). No fault of the cache
is a failure of the network (`Fault.IsOwn`).
-/

namespace HttpCourier

open Step

namespace Cache

variable {stored : StoredResponse} {request : Request}

/-- When all names can be written, it is known whether a stored answer suits. -/
theorem exists_suits (request : Request) (stored : StoredResponse) {names : List String}
    (h : ∀ name ∈ names, ∃ bytes, encodeAscii name.toList = .ok bytes) :
    ∃ isSuitable, suits request.fields stored names = .ok isSuitable := by
  induction names with
  | nil => exact ⟨true, rfl⟩
  | cons name names ih =>
    obtain ⟨bytes, hbytes⟩ := h name List.mem_cons_self
    simp only [suits, hbytes]
    split
    · exact ⟨false, rfl⟩
    · split
      · exact ih fun other ho => h other (List.mem_cons_of_mem _ ho)
      · exact ⟨false, rfl⟩

end Cache

/-! ## Plans -/

/-- A GET request without directives and conditions of its own. -/
structure Request.IsPlain (request : Request) : Prop where
  method_eq : request.method = "GET"
  directives_eq : request.fields.valuesOf "Cache-Control" = []
  asked_eq : request.fields.valuesOf "If-None-Match" = []

/-- A plain request asks about no ETag. -/
theorem Request.IsPlain.asked?_eq {request : Request} (h : request.IsPlain) :
    request.fields.asked? = none := by
  rw [Fields.asked?, h.asked_eq]
  rfl

/-- A fault that is no failure of the network. -/
def Fault.IsOwn (fault : Fault) : Prop := ∀ failure, fault ≠ .failure failure

/-- A computation whose faults are all no failures of the network fails by none. -/
theorem Fault.isOwn_of_mapError {ε α : Type} {x : Except ε α} {f : ε → Fault} {fault : Fault}
    (hf : ∀ e, (f e).IsOwn) (h : x.mapError f = .error fault) : fault.IsOwn := by
  cases x with
  | ok a => cases h
  | error e =>
    obtain rfl := Except.error.inj h
    exact hf e

namespace Cache

open Fields

variable {cache : Cache} {stored : StoredResponse} {fields : Fields} {request : Request}
  {fault : Fault}

/-- Directives that cannot be read are no failure of the network. -/
theorem isOwn_directives (h : directives fields = .error fault) : fault.IsOwn := by
  refine Fault.isOwn_of_mapError (fun e => ?_) h
  exact nofun

/-- Fields that cannot be compared are no failure of the network. -/
theorem isOwn_suits {names : List String} (h : suits fields stored names = .error fault) :
    fault.IsOwn := by
  induction names with
  | nil => cases h
  | cons name names ih =>
    unfold suits at h
    split at h
    · cases h
    · split at h
      · obtain rfl := Except.error.inj h
        exact nofun
      · split at h
        · exact ih h
        · cases h

/-- Without a field for them there are no directives. -/
theorem directives_of_nil (h : fields.valuesOf "Cache-Control" = []) : directives fields = .ok {} := by
  rw [directives, h]
  rfl

/-- The request that asks about a stored answer, to its address as it was read again. -/
def confirming (request : Request) (stored : StoredResponse) (url : Url) : Request :=
  { request with url, fields := request.fields ++ conditions stored, encoding := none }

/-- A plain request that asks about a stored answer asks about its ETag. -/
theorem asked?_confirming (h : request.IsPlain) (stored : StoredResponse) (url : Url) :
    (confirming request stored url).fields.asked? = stored.fields.etag? := by
  have hne : nameBytes "If-Modified-Since" ≠ nameBytes "If-None-Match" := by decide +kernel
  rw [asked?, confirming, valuesOf_append, h.asked_eq, conditions, valuesOf_append,
    valuesOf_condition, valuesOf_condition, if_neg hne, if_pos rfl, etag?]
  simp

/-- A plain request that asks about a stored answer still gives no directives. -/
theorem valuesOf_confirming (h : request.IsPlain) (stored : StoredResponse) (url : Url) :
    (confirming request stored url).fields.valuesOf "Cache-Control" = [] := by
  have hsince : nameBytes "If-Modified-Since" ≠ nameBytes "Cache-Control" := by decide +kernel
  have hmatch : nameBytes "If-None-Match" ≠ nameBytes "Cache-Control" := by decide +kernel
  rw [confirming, valuesOf_append, h.directives_eq, conditions, valuesOf_append,
    valuesOf_condition, valuesOf_condition, if_neg hsince, if_neg hmatch]
  rfl

/-- The cache can go on with a plain request: if there is a stored answer, its directives can be
read, and it does not suit, or it suits and the address can be read again. -/
def Asks (cache : Cache) (request : Request) : Prop :=
  ∀ stored, cache.storage.get? (keyOf request) = some stored →
    (∃ d, directives stored.fields = .ok d) ∧
      (suits request.fields stored (varyingNames stored.fields) = .ok false ∨
        suits request.fields stored (varyingNames stored.fields) = .ok true ∧
          ∃ url, Url.parse (plainAddress request.url) = .ok url)

/-- What the cache plans for a plain request. -/
inductive Planned (cache : Cache) (request : Request) : Prop where
  | stuck (fault : Fault) (plan_eq : cache.plan request = .error fault) (isOwn : fault.IsOwn)
    (fails : ¬ cache.Asks request)
  | fetch (plan_eq : cache.plan request = .ok .fetch) (asks : cache.Asks request)
  | revalidate (stored : StoredResponse) (url : Url)
    (get?_eq : cache.storage.get? (keyOf request) = some stored)
    (parse_eq : Url.parse (plainAddress request.url) = .ok url)
    (plan_eq : cache.plan request = .ok (.revalidate (confirming request stored url) stored))
    (asks : cache.Asks request)

/-- For a plain request only the stored answer decides: it is confirmed if it suits, and fetched
anew if it does not or if there is none. -/
theorem plan_eq (cache : Cache) (h : request.IsPlain) :
    cache.plan request = match cache.storage.get? (keyOf request) with
      | none => .ok .fetch
      | some stored => do
        let _ ← directives stored.fields
        let isSuitable ← suits request.fields stored (varyingNames stored.fields)
        if isSuitable then return .revalidate (← conditional request stored) stored
        return .fetch := by
  have hascii : Bytes.isAscii (Bytes.ofString "GET") = true := by decide +kernel
  unfold plan
  rw [h.method_eq, hascii, directives_of_nil h.directives_eq]
  cases cache.storage.get? (keyOf request) with
  | none => rfl
  | some stored => rfl

/-- A plan for a plain request is one of the three, or there is a fault of the cache's own. -/
theorem planned (cache : Cache) (h : request.IsPlain) : cache.Planned request := by
  have hplan := plan_eq cache h
  cases hg : cache.storage.get? (keyOf request) with
  | none =>
    rw [hg] at hplan
    exact .fetch hplan fun stored hs => by cases hg.symm.trans hs
  | some stored =>
    have honly : ∀ other, cache.storage.get? (keyOf request) = some other → other = stored :=
      fun other ho => Option.some.inj (ho.symm.trans hg)
    rw [hg] at hplan
    dsimp only at hplan
    cases hd : directives stored.fields with
    | error fault =>
      rw [hd] at hplan
      refine .stuck fault hplan (isOwn_directives hd) fun ha => ?_
      obtain ⟨⟨d, hok⟩, -⟩ := ha stored hg
      cases hd.symm.trans hok
    | ok d =>
      rw [hd, ok_bind] at hplan
      cases hs : suits request.fields stored (varyingNames stored.fields) with
      | error fault =>
        rw [hs] at hplan
        refine .stuck fault hplan (isOwn_suits hs) fun ha => ?_
        rcases (ha stored hg).2 with hok | ⟨hok, -⟩
        · cases hs.symm.trans hok
        · cases hs.symm.trans hok
      | ok isSuitable =>
        rw [hs, ok_bind] at hplan
        cases isSuitable with
        | false =>
          refine .fetch hplan fun other ho => ?_
          obtain rfl := honly other ho
          exact ⟨⟨d, hd⟩, .inl hs⟩
        | true =>
          cases hu : Url.parse (plainAddress request.url) with
          | error e =>
            rw [conditional, hu] at hplan
            refine .stuck (.url e) hplan nofun fun ha => ?_
            rcases (ha stored hg).2 with hok | ⟨-, url, hok⟩
            · cases hs.symm.trans hok
            · cases hu.symm.trans hok
          | ok url =>
            rw [conditional, hu] at hplan
            refine .revalidate stored url hg hu hplan fun other ho => ?_
            obtain rfl := honly other ho
            exact ⟨⟨d, hd⟩, .inr ⟨hs, url, hu⟩⟩

end Cache

/-! ## Keeping answers -/

/-- An answer whose directives these are may be stored. -/
def CacheControl.allowsStoring (d : CacheControl) : Bool :=
  (!d.noStore || d.mustUnderstand) && !d.isPrivate

/-- The answer as it is stored. -/
def Reply.stored (reply : Reply) (request : Request) (body : Bytes) : StoredResponse :=
  { status := reply.status, phrase := reply.phrase, fields := reply.fields, body,
    requestFields := request.fields }

namespace Cache

variable {cache : Cache} {request : Request} {reply : Reply} {body : Bytes} {key : CacheKey}

/-- An answer can be stored as it is, if it may be stored. -/
def Accepts (cache : Cache) (reply : Reply) (body : Bytes) : Prop :=
  reply.status = 200 → ∃ d, directives reply.fields = .ok d ∧
    (d.allowsStoring = true → body.length ≤ cache.storage.capacity →
      Bytes.isAscii (reply.phrase.getD []) = true)

/-- What becomes of an answer that the cache looks at. -/
inductive Kept (cache : Cache) (key : CacheKey) (request : Request) (reply : Reply)
    (body : Bytes) : Prop where
  | stuck (fault : Fault)
    (keep_eq : cache.keep key request (reply.fetched request body) body = .error fault)
    (isOwn : fault.IsOwn) (fails : ¬ cache.Accepts reply body)
  | passed (accepts : cache.Accepts reply body)
    (keep_eq : cache.keep key request (reply.fetched request body) body = .ok (cache, []))
  | stored (log : List Log.Record) (status_eq : reply.status = 200)
    (accepts : cache.Accepts reply body)
    (keep_eq : cache.keep key request (reply.fetched request body) body
      = .ok ({ cache with storage := (cache.storage.store key (reply.stored request body)).1 }, log))

/-- The check is passed by ASCII only. -/
theorem checkAscii_eq_ok {bytes : Bytes} : checkAscii bytes = .ok () ↔ Bytes.isAscii bytes = true := by
  have hdrop : bytes.drop (bytes.takeWhile fun b => decide (b.toNat < 128)).length
      = bytes.dropWhile fun b => decide (b.toNat < 128) :=
    calc
      _ = ((bytes.takeWhile fun b => decide (b.toNat < 128))
            ++ bytes.dropWhile fun b => decide (b.toNat < 128)).drop
            (bytes.takeWhile fun b => decide (b.toNat < 128)).length := by
        rw [List.takeWhile_append_dropWhile]
      _ = _ := List.drop_left
  rw [Bytes.isAscii, List.all_eq_true, ← List.dropWhile_eq_nil_iff, ← hdrop, checkAscii]
  split
  case h_1 h => exact ⟨fun _ => h, fun _ => rfl⟩
  case h_2 h =>
    refine iff_of_false (fun hok => ?_) fun hn => ?_
    · cases hok
    · cases h.symm.trans hn

/-- A phrase beyond ASCII is no failure of the network. -/
theorem isOwn_checkAscii {bytes : Bytes} {fault : Fault} (h : checkAscii bytes = .error fault) :
    fault.IsOwn := by
  unfold checkAscii at h
  dsimp only at h
  split at h
  · cases h
  · obtain rfl := Except.error.inj h
    intro failure hf
    cases hf

/-- Whether an answer to a request without directives may be stored. -/
theorem isStorable_eq (hm : request.method = "GET")
    (hd : request.fields.valuesOf "Cache-Control" = []) (status : Int) (fields : Fields) :
    isStorable request status fields
      = if status = 200 then (directives fields).map CacheControl.allowsStoring else .ok false := by
  unfold isStorable
  rw [directives_of_nil hd, hm]
  by_cases hs : status = 200
  · subst hs
    cases directives fields with
    | error fault => rfl
    | ok d =>
      change Except.ok _ = Except.ok _
      simp [CacheControl.allowsStoring]
  · rw [if_neg hs, if_pos (.inl hs)]
    rfl

/-- An answer that may be stored is stored, unless it fits and its phrase is not ASCII. -/
theorem keep_of_storable (cache : Cache) (key : CacheKey) (body : Bytes)
    (h : isStorable request reply.status reply.fields = .ok true) :
    cache.keep key request (reply.fetched request body) body = do
      if body.length ≤ cache.storage.capacity then checkAscii (reply.phrase.getD [])
      return ({ cache with storage := (cache.storage.store key (reply.stored request body)).1 },
        changeLog (cache.storage.store key (reply.stored request body)).2) := by
  unfold keep Reply.fetched Reply.arriving
  rw [h]
  rfl

/-- An answer that may not be stored changes nothing. -/
theorem keep_of_not_storable (h : isStorable request reply.status reply.fields = .ok false) :
    cache.keep key request (reply.fetched request body) body = .ok (cache, []) := by
  unfold keep Reply.fetched Reply.arriving
  rw [h]
  rfl

/-- An answer whose directives cannot be read is a fault of the cache. -/
theorem keep_of_error {fault : Fault}
    (h : isStorable request reply.status reply.fields = .error fault) :
    cache.keep key request (reply.fetched request body) body = .error fault := by
  unfold keep Reply.fetched Reply.arriving
  rw [h]
  rfl

/-- An answer that may be stored is stored, if it is not too large, or is a fault of the cache, if
its phrase is not ASCII. -/
theorem kept_of_allowed (hstatus : reply.status = 200) {d : CacheControl}
    (hd : directives reply.fields = .ok d) (hallows : d.allowsStoring = true)
    (h : isStorable request reply.status reply.fields = .ok true) :
    cache.Kept key request reply body := by
  have hkeep := keep_of_storable cache key body h
  by_cases hfits : body.length ≤ cache.storage.capacity
  · rw [if_pos hfits] at hkeep
    cases hascii : checkAscii (reply.phrase.getD []) with
    | error fault =>
      rw [hascii] at hkeep
      refine .stuck fault hkeep (isOwn_checkAscii hascii) fun ha => ?_
      obtain ⟨d', hd', hphrase⟩ := ha hstatus
      obtain rfl := Except.ok.inj (hd.symm.trans hd')
      rw [checkAscii_eq_ok.2 (hphrase hallows hfits)] at hascii
      cases hascii
    | ok u =>
      rw [hascii] at hkeep
      exact .stored _ hstatus (fun _ => ⟨d, hd, fun _ _ => checkAscii_eq_ok.1 hascii⟩) hkeep
  · rw [if_neg hfits] at hkeep
    exact .stored _ hstatus (fun _ => ⟨d, hd, fun _ hf => absurd hf hfits⟩) hkeep

/-- What becomes of the answer to a request without directives. -/
theorem kept (cache : Cache) (key : CacheKey) (hm : request.method = "GET")
    (hnone : request.fields.valuesOf "Cache-Control" = []) (reply : Reply) (body : Bytes) :
    cache.Kept key request reply body := by
  have hstorable := isStorable_eq hm hnone reply.status reply.fields
  by_cases hstatus : reply.status = 200
  · rw [if_pos hstatus] at hstorable
    cases hd : directives reply.fields with
    | error fault =>
      rw [hd] at hstorable
      refine .stuck fault (keep_of_error hstorable) (isOwn_directives hd) fun ha => ?_
      obtain ⟨d, hok, -⟩ := ha hstatus
      cases hd.symm.trans hok
    | ok d =>
      rw [hd, Except.map] at hstorable
      cases hallows : d.allowsStoring with
      | true =>
        rw [hallows] at hstorable
        exact kept_of_allowed hstatus hd hallows hstorable
      | false =>
        rw [hallows] at hstorable
        refine .passed (fun _ => ⟨d, hd, fun hn => ?_⟩) (keep_of_not_storable hstorable)
        rw [hallows] at hn
        cases hn
  · rw [if_neg hstatus] at hstorable
    exact .passed (fun hs => absurd hs hstatus) (keep_of_not_storable hstorable)

end Cache

end HttpCourier
