import HttpCourier.Message.Fields
import HttpCourier.OrderedMap

/-!
# Storage of a bounded size

A `Storage` holds responses by key, up to a total size of their bodies. The responses are on disk
(`entries`), and an index keeps their sizes, from the least to the most recently stored (`sizes`).
`Storage.store` writes a response and puts it last in the index; when the total grows too large the
oldest ones leave the index (`Storage.evict`), and then they are removed from disk. A body larger
than the whole storage is not stored.
-/

namespace HttpCourier

/-- What a stored response answers: a method and an address, and for methods that send a body, the
body. -/
structure CacheKey where
  method : String
  url : String
  body : Bytes := []
  deriving DecidableEq

/-- A stored response, with the fields of the request that it answered. -/
structure StoredResponse where
  status : Int
  phrase : Option Bytes
  fields : Fields
  body : Bytes
  requestFields : Fields

/-- How many bytes a stored response counts for. -/
def StoredResponse.size (r : StoredResponse) : Nat := r.body.length

/-- Responses by key, with an index of their sizes. -/
structure Storage where
  capacity : Nat
  /-- The recorded sizes, from the oldest to the newest. -/
  sizes : OrderedMap CacheKey Nat := []
  /-- The responses on disk. -/
  entries : OrderedMap CacheKey StoredResponse := []

namespace Storage

/-- The recorded sizes together. -/
def total (sizes : OrderedMap CacheKey Nat) : Nat := sizes.foldr (fun e total => e.2 + total) 0

/-- The keys, from the oldest to the newest. -/
def keys (s : Storage) : List CacheKey := s.sizes.keys

/-- The response of a key. -/
def get? (s : Storage) (key : CacheKey) : Option StoredResponse := s.entries.get? key

/-- Records the size of a key as the newest. -/
def touch (sizes : OrderedMap CacheKey Nat) (key : CacheKey) (size : Nat) : OrderedMap CacheKey Nat :=
  sizes.erase key ++ [(key, size)]

/-- Drops the oldest sizes until the others fit; the newest one always stays. `total` is what the
sizes come to. The first part of the result are the keys that were dropped. -/
def evict (capacity : Nat) :
    (total : Nat) → OrderedMap CacheKey Nat → List CacheKey × OrderedMap CacheKey Nat
  | _, [] => ([], [])
  | _, [e] => ([], [e])
  | total, e :: next :: rest =>
    if total ≤ capacity then ([], e :: next :: rest)
    else
      let (dropped, kept) := evict capacity (total - e.2) (next :: rest)
      (e.1 :: dropped, kept)

/-- What storing a response did. -/
inductive Change where
  | skipped (size : Nat)
  | stored (evicted : List CacheKey)

/-- Stores a response as the newest one: it is written, then the index is brought up to date, and
then what left the index is removed from disk. -/
def store (s : Storage) (key : CacheKey) (response : StoredResponse) : Storage × Change :=
  if s.capacity < response.size then (s, .skipped response.size)
  else
    let entries := s.entries.set key response
    let sizes := touch s.sizes key response.size
    let (dropped, sizes) := evict s.capacity (total sizes) sizes
    ({ s with sizes, entries := dropped.foldl OrderedMap.erase entries }, .stored dropped)

/-- Replaces the response of a key on disk; the index stays. -/
def replace (s : Storage) (key : CacheKey) (response : StoredResponse) : Storage :=
  { s with entries := s.entries.map fun e => if e.1 = key then (key, response) else e }

end Storage

end HttpCourier
