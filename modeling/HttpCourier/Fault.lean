import HttpCourier.Auth.Digest
import HttpCourier.Auth.Ntlm
import HttpCourier.Cache.Control
import HttpCourier.Charset.Basic
import HttpCourier.Failure
import HttpCourier.HttpDate
import HttpCourier.Lifecycle
import HttpCourier.Pattern.Basic
import HttpCourier.Tls.Basic

/-!
# Faults

A `Fault` is whatever ends an operation of this library before its result: a failure that was
reported to it, or a cause of its own. `Fault.asFailure?` says which faults count as failures of the
exchange.
-/

namespace HttpCourier

/-- What ends an operation. -/
inductive Fault where
  /-- A failure that was reported from outside, or is reported to the caller as one. -/
  | failure (f : Failure)
  /-- The item is not held by the session. -/
  | notHeld (id : String)
  /-- The session refuses to remove items. -/
  | removalRefused
  | refused (r : Lifecycle.Refusal)
  | url (e : Url.Error)
  | notAscii (e : NotAscii)
  /-- A configured text has surrogates where it is to be encoded. -/
  | notUtf8 (e : Unencodable)
  /-- A byte of the phrase that the cache is to store is not ASCII. -/
  | byteNotAscii (position : Nat) (byte : UInt8)
  /-- The method of a request that asks the cache is not ASCII. -/
  | methodNotAscii
  /-- Cookies are kept for addresses with a scheme only. -/
  | unknownUrlType (address : String)
  | digest (e : Digest.Error)
  | ntlm (e : Ntlm.Error)
  | cacheControl (e : CacheControl.Error)
  | charset (e : Charset.Error)
  | date (e : HttpDate.Error)
  | pattern (text : String) (e : Pattern.Error)
  | tls (e : Tls.Error)
  | file (e : FileError)
  | clientClosed
  /-- The processor is running without a transport. -/
  | noTransport
  /-- Pieces of no bytes were asked for. -/
  | emptyPieces

namespace Fault

/-- The name of the kind of a fault. -/
def label : Fault → String
  | failure f => f.kind.label
  | notHeld _ | unknownUrlType _ | emptyPieces => "ValueError"
  | removalRefused | clientClosed | noTransport => "RuntimeError"
  | refused _ => "ProcessorStateError"
  | url _ => "InvalidURL"
  | notAscii _ => "UnicodeEncodeError"
  | notUtf8 _ => Unencodable.label
  | byteNotAscii .. => "UnicodeDecodeError"
  | methodNotAscii => "TypeError"
  | digest e => e.label
  | ntlm e => e.label
  | cacheControl e => e.label
  | charset e => e.label
  | date e => e.label
  | pattern _ e => e.label
  | tls e => e.label
  | file e => e.label

/-- The text of a fault. -/
def message : Fault → String
  | failure f => f.text
  | notHeld id => "Work item " ++ id ++ " is not held by this session"
  | removalRefused => "remove failed"
  | refused r => r.message
  | url e => e.message
  | notAscii e => e.message
  | notUtf8 e => e.message
  | byteNotAscii position byte =>
    "'ascii' codec can't decode byte 0x" ++ Bytes.toHex [byte] ++ " in position "
      ++ toString position ++ ": ordinal not in range(128)"
  | methodNotAscii => "method strings may not include unicode characters."
  | unknownUrlType address => "unknown url type: " ++ Text.quoted address
  | digest e => e.message
  | ntlm e => e.message
  | cacheControl e => e.message
  | charset e => e.message
  | date e => e.message
  | pattern text e => e.message text
  | tls e => e.message
  | file e => e.message
  | clientClosed => "Cannot send a request, as the client has been closed."
  | noTransport => "Processor is RUNNING without a transport handle"
  | emptyPieces => "range() arg 3 must not be zero"

/-- A failure that the library reports in its own words. -/
def report (kind : FailureKind) (text : String) : Fault := failure (.plain kind text)

/-- A failure of the exchange, by its class. -/
def transport (kind : ExchangeClass) (text : String) : Fault := report (.classified kind) text

/-- A fault as a failure of the exchange, if it is one. Challenges that break the rules of the
protocol are; the other faults are mistakes of the caller. -/
def asFailure? : Fault → Option Failure
  | failure f => if f.kind.isTransport then some f else none
  | digest .malformed => some (.plain .protocol Digest.Error.malformed.message)
  | digest (.unknownQop qop) => some (.plain .protocol (Digest.Error.unknownQop qop).message)
  | _ => none

/-- A fault as it is reported by an exchange: failures of the exchange are classified. -/
def classified (fault : Fault) : Fault :=
  match fault.asFailure? with
  | some f => transport f.exchangeClass f.words
  | none => fault

end Fault

/-- An operation on a state that may end in a fault; what it did to the state before stays. -/
abbrev Step (σ α : Type) := ExceptT Fault (StateM σ) α

namespace Step

variable {σ : Type} {α : Type}

/-- The operation that does nothing but give a result or a fault. -/
def ofExcept (result : Except Fault α) : Step σ α := ExceptT.mk (pure result)

/-- The result of an operation with the fault as a value. -/
def attempt (step : Step σ α) : Step σ (Except Fault α) := ExceptT.lift step.run

/-- Runs an operation on a state. -/
def on (state : σ) (step : Step σ α) : Except Fault α × σ := step.run.run state

end Step

end HttpCourier
