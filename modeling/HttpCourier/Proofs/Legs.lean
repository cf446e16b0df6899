import HttpCourier.Proofs.Authorization
import Mathlib.Data.List.Nodup

/-!
# Legs of exchanges

The answers to Digest challenges are numbered by one counter for all routes, which starts again with
every challenge. `Link.legsOf` are the legs of an exchange, each with the challenge that it answers
and the count of the client. `Link.places` recomputes the counts from the legs alone: an answer has
its place after the last challenge on any route. `Link.Chained.nodup_places` is the case in which no
nonce has two answers at one place.
-/

namespace HttpCourier

open Step

namespace Digest

/-- The value of a hexadecimal digit. -/
def hexValue (c : Char) : Nat := "0123456789abcdef".toList.idxOf c

/-- A hexadecimal digit has the value that it is written for. -/
theorem hexValue_digitChar {n : Nat} (h : n < 16) : hexValue (Nat.digitChar n) = n := by
  have hall : ∀ n < 16, hexValue (Nat.digitChar n) = n := by decide +kernel
  exact hall n h

/-- The number that hexadecimal digits stand for. -/
def readHex (digits : List Char) : Nat := digits.foldl (fun n c => 16 * n + hexValue c) 0

/-- A number is read back from its hexadecimal digits. -/
theorem readHex_toDigits (n : Nat) : readHex (Nat.toDigits 16 n) = n := by
  induction n using Nat.strongRecOn with
  | ind n ih =>
    by_cases hn : n < 16
    · rw [Nat.toDigits_of_lt_base hn]
      simpa [readHex] using hexValue_digitChar hn
    · have hlt : n / 16 < n := Nat.div_lt_self (by omega) (by omega)
      rw [Nat.toDigits_of_base_le (by omega) (by omega), readHex, List.foldl_append]
      change ([Nat.digitChar (n % 16)] : List Char).foldl _ (readHex (Nat.toDigits 16 (n / 16))) = n
      rw [ih _ hlt, List.foldl_cons, List.foldl_nil, hexValue_digitChar (Nat.mod_lt _ (by omega))]
      omega

/-- Zeros in front add nothing to a number. -/
theorem readHex_replicate_append (k : Nat) (digits : List Char) :
    readHex (List.replicate k '0' ++ digits) = readHex digits := by
  have hzero : hexValue '0' = 0 := by decide +kernel
  induction k with
  | zero => rfl
  | succ k ih =>
    rw [List.replicate_succ, List.cons_append, readHex, List.foldl_cons, hzero]
    exact ih

/-- Different counters are written differently. -/
theorem counterText_injective : Function.Injective counterText := by
  intro m n h
  have hl := congrArg (fun text => readHex text.toList) h
  simpa [counterText, readHex_replicate_append, readHex_toDigits] using hl

/-- A challenge that is answered with a counter. -/
def Challenge.Counted (c : Challenge) : Prop :=
  (∃ hash, hashOf c = .ok hash) ∧ usesCounter c = .ok true

end Digest

namespace Link

/-- One leg of an exchange. -/
structure Leg where
  /-- The challenge that is answered. -/
  challenge : Option Digest.Challenge
  /-- Whether the challenge was shown in the same exchange. -/
  renewed : Bool
  /-- The counter of the client when the leg begins. -/
  count : Nat
  /-- The request that reaches the network. -/
  sent : Option Request

namespace Leg

/-- The nonce that a leg uses on the network. -/
def nonce? (leg : Leg) : Option String :=
  if leg.sent.isSome then leg.challenge.map (·.nonce) else none

/-- The nonce and the count that a leg sends. -/
def pair? (leg : Leg) : Option (String × String) :=
  leg.nonce?.map fun nonce => (nonce, Digest.counterText leg.count)

/-- The challenge that a leg brings. -/
def shown? (leg : Leg) : Option Digest.Challenge := if leg.renewed then leg.challenge else none

/-- The place of an answer, when `n` is the place of the next answer to the last challenge. -/
def place (leg : Leg) (n : Nat) : Nat := if leg.renewed then 1 else n

/-- The place of the next answer after a leg. -/
def next (leg : Leg) (n : Nat) : Nat := if leg.challenge.isSome then leg.place n + 1 else n

/-- What a leg sends is the answer to its challenge, and otherwise what it was given. -/
def Faithful (who : Digest.Credentials) (request : Request) (leg : Leg) : Prop :=
  ∀ q, leg.sent = some q →
    leg.challenge.elim (request.SameAuthorization q) fun c => q.Carries who c leg.count

end Leg

/-- The legs of an exchange: the first answers the challenge that is kept, and the second, if there
is one, the challenge that is shown. -/
def legsOf (who : Digest.Credentials) (p : Link × Request) : List Leg :=
  { challenge := p.1.kept? p.2, renewed := false, count := p.1.client.digest.counter,
    sent := firstSent? who p.1 p.2 } ::
  ((shown? who p.1 p.2).map fun c => {
    challenge := some c, renewed := true, count := 1,
    sent := secondSent? who p.1 p.2 : Leg }).toList

/-- The nonces on the network, with their counts. -/
def pairs (legs : List Leg) : List (String × String) := legs.filterMap Leg.pair?

/-- The nonces on the network, with the places of the answers after the last challenge on any
route. -/
def places : Nat → List Leg → List (String × Nat)
  | _, [] => []
  | n, leg :: legs => (leg.nonce?.map (·, leg.place n)).toList ++ places (leg.next n) legs

/-- The place of the next answer after some legs. -/
def nextPlace (n : Nat) (legs : List Leg) : Nat := legs.foldl (fun n leg => leg.next n) n

/-- Each leg that answers a challenge that was kept answers the last one that was shown. -/
def Chained : Option Digest.Challenge → List Leg → Prop
  | _, [] => True
  | last, leg :: legs =>
    (leg.renewed = false → leg.challenge = last) ∧
      Chained (leg.shown?.or last) legs

/-- Places are counted on from where the earlier legs ended. -/
theorem places_append (n : Nat) (legs legs' : List Leg) :
    places n (legs ++ legs') = places n legs ++ places (nextPlace n legs) legs' := by
  induction legs generalizing n with
  | nil => rfl
  | cons leg legs ih =>
    rw [List.cons_append, places, places, ih, List.append_assoc]
    rfl

/-- The next place after two runs of legs is found through the place between them. -/
theorem nextPlace_append (n : Nat) (legs legs' : List Leg) :
    nextPlace n (legs ++ legs') = nextPlace (nextPlace n legs) legs' := List.foldl_append

/-- Two runs of legs are chained when each is, the second from the last challenge of the first
on. -/
theorem chained_append {last : Option Digest.Challenge} {legs legs' : List Leg} :
    Chained last (legs ++ legs') ↔
      Chained last legs ∧ Chained ((legs.filterMap Leg.shown?).getLast?.or last) legs' := by
  induction legs generalizing last with
  | nil => simp [Chained]
  | cons leg legs ih =>
    have hlast : ((leg :: legs).filterMap Leg.shown?).getLast?.or last
        = (legs.filterMap Leg.shown?).getLast?.or (leg.shown?.or last) := by
      cases hs : leg.shown? with
      | none => rw [List.filterMap_cons_none hs, Option.none_or]
      | some c =>
        rw [List.filterMap_cons_some hs, List.getLast?_cons]
        cases (legs.filterMap Leg.shown?).getLast? <;> rfl
    rw [List.cons_append, Chained, Chained, ih, hlast, and_assoc]

namespace Leg

variable {leg : Leg} {c : Digest.Challenge} {nonce : String} {n : Nat}

/-- A nonce is on the network for a challenge. -/
theorem challenge_of_nonce? (h : leg.nonce? = some nonce) :
    ∃ c, leg.challenge = some c ∧ c.nonce = nonce := by
  unfold nonce? at h
  split at h
  · exact Option.map_eq_some_iff.1 h
  · cases h

/-- A nonce with its count is on the network for a request that answers the challenge. -/
theorem sent_of_pair? {pair : String × String} (h : leg.pair? = some pair) :
    ∃ q c, leg.sent = some q ∧ leg.challenge = some c ∧
      (c.nonce, Digest.counterText leg.count) = pair := by
  obtain ⟨nonce, hn, hp⟩ := Option.map_eq_some_iff.1 h
  obtain ⟨c, hc, rfl⟩ := challenge_of_nonce? hn
  unfold nonce? at hn
  split at hn
  · rename_i hs
    obtain ⟨q, hq⟩ := Option.isSome_iff_exists.1 hs
    exact ⟨q, c, hq, hc, hp⟩
  · cases hn

/-- An answer moves the next place one on. -/
theorem next_of_challenge (h : leg.challenge = some c) : leg.next n = leg.place n + 1 := by
  rw [next, h]
  rfl

/-- Only a challenge that is shown starts the places again. -/
theorem place_of_not_shown (hs : leg.shown? = none) (h : leg.challenge = some c) :
    leg.place n = n := by
  unfold shown? at hs
  unfold place
  split
  case isTrue hr =>
    rw [if_pos hr, h] at hs
    cases hs
  case isFalse => rfl

/-- Without a new challenge no place is given out again. -/
theorem le_next_of_not_shown (hs : leg.shown? = none) : n ≤ leg.next n := by
  cases h : leg.challenge with
  | none =>
    rw [next, h]
    exact Nat.le_refl n
  | some c =>
    rw [next_of_challenge h, place_of_not_shown hs h]
    exact Nat.le_succ n

end Leg

/-- Where the places of some legs can be: at a challenge that one of them brings, or at the last
challenge before them, from the next place on. -/
def Ahead (last : Option Digest.Challenge) (n : Nat) (legs : List Leg) (nonce : String) (k : Nat) :
    Prop :=
  nonce ∈ (legs.filterMap Leg.shown?).map (·.nonce) ∨
    (∃ c, last = some c ∧ c.nonce = nonce) ∧ n ≤ k

section
variable {last : Option Digest.Challenge} {leg : Leg} {legs : List Leg} {n k : Nat} {nonce : String}

/-- Every place at a challenge that a leg brings is ahead of the leg. -/
theorem ahead_of_shown {c : Digest.Challenge} (hs : leg.shown? = some c) :
    Ahead last n (leg :: legs) c.nonce k := by
  left
  rw [List.filterMap_cons_some hs]
  exact List.mem_cons_self

/-- What is ahead after a leg was ahead before it. -/
theorem Ahead.cons (h : Ahead (leg.shown?.or last) (leg.next n) legs nonce k) :
    Ahead last n (leg :: legs) nonce k := by
  rcases h with hin | ⟨⟨c, hc, rfl⟩, hle⟩
  · left
    exact (((List.sublist_cons_self leg legs).filterMap _).map _).subset hin
  · cases hs : leg.shown? with
    | none =>
      rw [hs, Option.none_or] at hc
      exact .inr ⟨⟨c, hc, rfl⟩, Nat.le_trans (Leg.le_next_of_not_shown hs) hle⟩
    | some c' =>
      rw [hs, Option.some_or] at hc
      obtain rfl := Option.some.inj hc
      exact ahead_of_shown hs

/-- In a chain a leg answers the last challenge, its own included. -/
theorem Leg.shown?_or {c : Digest.Challenge} (hleg : leg.renewed = false → leg.challenge = last)
    (hc : leg.challenge = some c) : leg.shown?.or last = some c := by
  unfold Leg.shown?
  split
  case isTrue => rw [hc, Option.some_or]
  case isFalse hr => rw [Option.none_or, ← hleg (by simpa using hr), hc]

/-- The place of an answer is ahead of its leg: at a new challenge, or at the last one from the next
place on. -/
theorem ahead_place {c : Digest.Challenge} (hleg : leg.renewed = false → leg.challenge = last)
    (hc : leg.challenge = some c) : Ahead last n (leg :: legs) c.nonce (leg.place n) := by
  have hlast := Leg.shown?_or hleg hc
  cases hs : leg.shown? with
  | none =>
    rw [hs, Option.none_or] at hlast
    exact .inr ⟨⟨c, hlast, rfl⟩, Nat.le_of_eq (Leg.place_of_not_shown hs hc).symm⟩
  | some c' =>
    rw [hs, Option.some_or] at hlast
    obtain rfl := Option.some.inj hlast
    exact ahead_of_shown hs

/-- The places of a chain are ahead. -/
theorem Chained.ahead (h : Chained last legs) (hk : (nonce, k) ∈ places n legs) :
    Ahead last n legs nonce k := by
  -- On the legs, over every last challenge and every first place.
  induction legs generalizing last n with
  | nil => cases hk
  | cons leg legs ih =>
    obtain ⟨hleg, hrest⟩ := h
    rcases List.mem_append.1 hk with hk | hk
    · obtain ⟨nonce', hn, heq⟩ := Option.map_eq_some_iff.1 (Option.mem_toList.1 hk)
      obtain ⟨rfl, rfl⟩ := Prod.mk.inj heq
      obtain ⟨c, hc, rfl⟩ := Leg.challenge_of_nonce? hn
      exact ahead_place hleg hc
    · exact (ih hrest hk).cons

/-- With a chain of challenges whose nonces are fresh, no nonce has two answers at one place. -/
theorem Chained.nodup_places (h : Chained last legs)
    (hfresh : ((last.toList ++ legs.filterMap Leg.shown?).map (·.nonce)).Nodup) :
    (places n legs).Nodup := by
  induction legs generalizing last n with
  | nil => exact List.nodup_nil
  | cons leg legs ih =>
    obtain ⟨hleg, hrest⟩ := h
    have hfresh' : (((leg.shown?.or last).toList ++ legs.filterMap Leg.shown?).map
        (·.nonce)).Nodup := by
      cases hs : leg.shown? with
      | none =>
        rw [List.filterMap_cons_none hs] at hfresh
        rwa [Option.none_or]
      | some c =>
        rw [List.filterMap_cons_some hs] at hfresh
        exact hfresh.sublist ((List.sublist_append_right _ _).map _)
    have hnodup : (places (leg.next n) legs).Nodup := ih hrest hfresh'
    rw [places]
    cases hn : leg.nonce? with
    | none => exact hnodup
    | some nonce =>
      obtain ⟨c, hc, rfl⟩ := Leg.challenge_of_nonce? hn
      -- a later place is at a fresh nonce, or further on
      refine List.nodup_cons.2 ⟨fun hk => ?_, hnodup⟩
      rcases hrest.ahead hk with hin | ⟨-, hle⟩
      · rw [Leg.shown?_or hleg hc] at hfresh'
        exact (List.nodup_cons.1 hfresh').1 hin
      · rw [Leg.next_of_challenge hc] at hle
        exact absurd hle (Nat.not_succ_le_self _)

end

/-- A pair that is sent twice is sent by two legs. -/
theorem exists_legs_of_not_nodup {legs : List Leg} (h : ¬ (pairs legs).Nodup) :
    ∃ leg leg' pair, [leg, leg'].Sublist legs ∧ leg.pair? = some pair ∧ leg'.pair? = some pair := by
  simp only [List.nodup_iff_sublist, not_forall, not_not] at h
  obtain ⟨pair, h⟩ := h
  obtain ⟨both, hboth, hpairs⟩ := List.sublist_filterMap_iff.1 h
  obtain ⟨skipped, leg, rest, rfl, -, hp, hrest⟩ := List.filterMap_eq_cons_iff.1 hpairs.symm
  obtain ⟨skipped', leg', rest', rfl, -, hp', -⟩ := List.filterMap_eq_cons_iff.1 hrest
  refine ⟨leg, leg', pair, .trans ?_ hboth, hp, hp'⟩
  refine .trans (.cons_cons leg ?_) (List.sublist_append_right skipped _)
  exact List.singleton_sublist.2 (List.mem_append_right _ List.mem_cons_self)

/-! ## The legs of exchanges -/

section
variable {who : Digest.Credentials} {l : Link} {request : Request}

/-- The legs of exchanges bring the challenges that the exchanges were shown. -/
theorem shown?_legsOf (past : List (Link × Request)) :
    (past.flatMap (legsOf who)).filterMap Leg.shown?
      = past.filterMap fun p => shown? who p.1 p.2 := by
  induction past with
  | nil => rfl
  | cons p past ih =>
    rw [List.flatMap_cons, List.filterMap_append, ih, List.filterMap_cons]
    unfold legsOf
    cases shown? who p.1 p.2 <;> rfl

/-- Two legs are sent at most, the second only to answer a challenge that was shown. -/
theorem sent_legsOf (p : Link × Request) :
    (legsOf who p).filterMap Leg.sent
      = (firstSent? who p.1 p.2).toList ++ (secondSent? who p.1 p.2).toList := by
  have hsecond : shown? who p.1 p.2 = none → secondSent? who p.1 p.2 = none := by
    intro hn
    cases hq : secondSent? who p.1 p.2 with
    | none => rfl
    | some q =>
      obtain ⟨c, hs, -⟩ := secondSent?_carries hq
      rw [hn] at hs
      cases hs
  unfold legsOf
  cases hs : shown? who p.1 p.2 with
  | none =>
    rw [hsecond hs]
    cases firstSent? who p.1 p.2 <;> rfl
  | some c => cases firstSent? who p.1 p.2 <;> cases secondSent? who p.1 p.2 <;> rfl

/-- Each leg of an exchange sends the answer to its challenge with the counter of the client, when
its challenge is answered with a counter. -/
theorem faithful_of_mem_legsOf {p : Link × Request} {leg : Leg} (hleg : leg ∈ legsOf who p)
    (hk : ∀ c, p.1.kept? p.2 = some c → c.Counted)
    (hs : ∀ c, shown? who p.1 p.2 = some c → c.Counted) : leg.Faithful who p.2 := by
  rcases List.mem_cons.1 hleg with rfl | hleg
  · intro q hq
    cases hkept : p.1.kept? p.2 with
    | none => exact firstSent?_same hkept hq
    | some c => exact firstSent?_carries hkept (hk c hkept).2 hq
  · obtain ⟨c, hshown, rfl⟩ := Option.map_eq_some_iff.1 (Option.mem_toList.1 hleg)
    intro q hq
    obtain ⟨c', hshown', hcarries⟩ := secondSent?_carries hq
    rw [hshown] at hshown'
    obtain rfl := Option.some.inj hshown'
    exact hcarries (hs c hshown).2

/-- An answer with a counter moves the counter one on. -/
theorem counter_spent {s : DigestState} {c : Digest.Challenge} (hc : c.Counted) :
    (s.spent c).counter = s.counter + 1 := by
  obtain ⟨⟨hash, hh⟩, -⟩ := hc
  rw [DigestState.spent, hh]
  rfl

/-- An exchange moves the counter on to the place of the next answer. -/
theorem counter_digestAfter (hk : ∀ c, l.kept? request = some c → c.Counted)
    (hs : ∀ c, shown? who l request = some c → c.Counted) :
    (digestAfter who l request).counter
      = nextPlace l.client.digest.counter (legsOf who (l, request)) := by
  unfold digestAfter digestReadied legsOf
  cases hshown : shown? who l request with
  | none =>
    cases hkept : l.kept? request with
    | none => simp [nextPlace, Leg.next]
    | some c => simp [nextPlace, Leg.next, Leg.place, counter_spent (hk c hkept)]
  | some c =>
    simp [nextPlace, Leg.next, Leg.place, DigestState.renewed, counter_spent (hs c hshown)]

/-- The counts on the network are the places of the answers for one leg more, if the leg begins with
its place. -/
theorem pairs_cons {leg : Leg} {legs : List Leg} {n : Nat} (hcount : leg.count = leg.place n)
    (h : pairs legs = (places (leg.next n) legs).map (Prod.map id Digest.counterText)) :
    pairs (leg :: legs) = (places n (leg :: legs)).map (Prod.map id Digest.counterText) := by
  rw [places, List.map_append, ← h, ← hcount, pairs, List.filterMap_cons, pairs, Leg.pair?]
  cases leg.nonce? <;> rfl

/-- The counts of an exchange are the places of its answers. -/
theorem pairs_legsOf (p : Link × Request) :
    pairs (legsOf who p)
      = (places p.1.client.digest.counter (legsOf who p)).map (Prod.map id Digest.counterText) := by
  unfold legsOf
  refine pairs_cons rfl ?_
  cases shown? who p.1 p.2 with
  | none => rfl
  | some c => exact pairs_cons rfl rfl

end

end Link

end HttpCourier
