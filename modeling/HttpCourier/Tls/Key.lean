import HttpCourier.Cipher.Aes
import HttpCourier.Hash.Keyed
import HttpCourier.Hash.Sha1
import HttpCourier.Hash.Sha256
import HttpCourier.Hash.Sha512
import HttpCourier.Tls.Der

/-!
# Keys

A certificate has a public key, and a private key belongs to it when its own public part is the
same. `PublicKey.ofCertificate?` and `PublicKey.ofPrivateKey?` read both; `EncryptedKey.open?` reads
a private key that is locked with a password (RFC 8018).
-/

namespace HttpCourier

/-- A public key: the name of its kind, its parameters, and its bits. -/
structure PublicKey where
  kind : Bytes
  parameters : List Der
  bits : Bytes
  deriving DecidableEq

namespace PublicKey

/-- The name of keys on elliptic curves. -/
def ellipticKind : Bytes := [0x2a, 0x86, 0x48, 0xce, 0x3d, 0x02, 0x01]

/-- The name of keys with a modulus. -/
def modulusKind : Bytes := [0x2a, 0x86, 0x48, 0x86, 0xf7, 0x0d, 0x01, 0x01, 0x01]

/-- The name of a kind with its parameters. -/
def algorithm? (e : Der) : Option (Bytes × List Der) := do
  match ← e.members? Der.sequence with
  | [] => none
  | name :: parameters => if name.tag = Der.objectName then some (name.content, parameters) else none

/-- The fields of a certificate up to its public key. -/
def certificateTags : List UInt8 :=
  [Der.integer, Der.sequence, Der.sequence, Der.sequence, Der.sequence, Der.sequence]

/-- The public key of a certificate. -/
def ofCertificate? (bytes : Bytes) : Option PublicKey := do
  match ← Der.sequence? bytes with
  | [body, algorithm, signature] =>
    let _ ← algorithm? algorithm
    let _ ← signature.bits?
    let all ← body.members? Der.sequence
    let fields := if all.head?.any fun e => e.tag == 0xa0 then all.tail else all
    if (fields.take 6).map Der.tag ≠ certificateTags then none
    let key ← fields[5]?
    match ← key.members? Der.sequence with
    | [algorithm, bits] =>
      let (kind, parameters) ← algorithm? algorithm
      some { kind, parameters, bits := ← bits.bits? }
    | _ => none
  | _ => none

/-- The public part of a key on an elliptic curve, with the parameters that it carries itself. -/
def ofEllipticKey? (parameters : Option (List Der)) (bytes : Bytes) : Option PublicKey := do
  match ← Der.sequence? bytes with
  | version :: secret :: rest =>
    if version.tag ≠ Der.integer ∨ secret.tag ≠ Der.octetString then none
    let own := (rest.find? fun e => e.tag == 0xa0).bind (Der.members? 0xa0)
    let parameters ← own.or parameters
    match ← (rest.find? fun e => e.tag == 0xa1).bind (Der.members? 0xa1) with
    | [bits] => some { kind := ellipticKind, parameters, bits := ← bits.bits? }
    | _ => none
  | _ => none

/-- The public part of a key with a modulus. -/
def ofModulusKey? (bytes : Bytes) : Option PublicKey := do
  match ← Der.sequence? bytes with
  | _ :: modulus :: exponent :: _ =>
    let bits := { tag := Der.sequence, content := modulus.encode ++ exponent.encode : Der }.encode
    some { kind := modulusKind, parameters := [{ tag := 0x05, content := [] }], bits }
  | _ => none

/-- The public part of a private key that names its own kind. -/
def ofPrivateKey? (bytes : Bytes) : Option PublicKey := do
  match ← Der.sequence? bytes with
  | version :: algorithm :: key :: _ =>
    if version.tag ≠ Der.integer ∨ key.tag ≠ Der.octetString then none
    let (kind, parameters) ← algorithm? algorithm
    if kind = ellipticKind then ofEllipticKey? (some parameters) key.content
    else if kind = modulusKind then ofModulusKey? key.content
    else none
  | _ => none

/-- The public part of a private key of any form. -/
def ofAnyKey? (bytes : Bytes) : Option PublicKey :=
  (ofPrivateKey? bytes).or ((ofEllipticKey? none bytes).or (ofModulusKey? bytes))

end PublicKey

namespace EncryptedKey

/-- The hash functions that lock keys, by name; the first one is used when none is named. -/
def digesters : List (Bytes × Hash.Digester) :=
  let name (n : UInt8) : Bytes := [0x2a, 0x86, 0x48, 0x86, 0xf7, 0x0d, 0x02, n]
  [(name 7, ⟨Hash.Sha1.hash, 64⟩), (name 9, ⟨Hash.Sha256.hash, 64⟩), (name 11, ⟨Hash.Sha512.hash, 128⟩)]

/-- The sizes of the keys that lock keys, by the name of the cipher. -/
def keySizes : List (Bytes × Nat) :=
  let name (n : UInt8) : Bytes := [0x60, 0x86, 0x48, 0x01, 0x65, 0x03, 0x04, 0x01, n]
  [(name 2, 16), (name 22, 24), (name 42, 32)]

/-- How a key is made from a password. -/
structure Stretching where
  salt : Bytes
  rounds : Nat
  digester : Hash.Digester

/-- Reads how a key is made from a password. -/
def stretching? (e : Der) : Option Stretching := do
  match ← PublicKey.algorithm? e with
  | (_, [parameters]) =>
    match ← parameters.members? Der.sequence with
    | salt :: rounds :: rest =>
      let digester ← match rest.find? fun e => e.tag == Der.sequence with
        | none => (digesters.head?).map Prod.snd
        | some e => (PublicKey.algorithm? e).bind fun a => digesters.lookup a.1
      some { salt := salt.content, rounds := Der.number rounds.content, digester }
    | _ => none
  | _ => none

/-- Opens a private key that is locked with a password. -/
def open? (password : Bytes) (bytes : Bytes) : Option Bytes := do
  match ← Der.sequence? bytes with
  | [scheme, secret] =>
    match ← PublicKey.algorithm? scheme with
    | (_, [parameters]) =>
      match ← parameters.members? Der.sequence with
      | [derivation, cipher] =>
        let s ← stretching? derivation
        match ← PublicKey.algorithm? cipher with
        | (name, [start]) =>
          let size ← keySizes.lookup name
          let key := Hash.stretch s.digester password s.salt s.rounds size 2
          Aes.decrypt? key start.content secret.content
        | _ => none
      | _ => none
    | _ => none
  | _ => none

end EncryptedKey

end HttpCourier
