import HttpCourier.Hash.Md5
import HttpCourier.Tls.Basic
import HttpCourier.Tls.Pem

/-!
# A library for keys and certificates

`Tls.Library.pem` reads certificates and the private keys that belong to them from blocks of text:
keys on elliptic curves and keys with a modulus, open or locked with AES. Other kinds of keys, and
other ciphers, are refused.
-/

namespace HttpCourier.Tls

/-- How a block of the old encrypted form is locked. -/
structure BlockLock where
  cipher : String
  start : Bytes

namespace BlockLock

/-- The first line of the header of a locked block. -/
def lockedMark : String := "Proc-Type: 4,ENCRYPTED"

/-- The start of the second line. -/
def cipherMark : List Char := "DEK-Info: ".toList

/-- Reads how a block is locked. -/
def ofHeader? : List String → Option BlockLock
  | mark :: line :: _ =>
    if mark = lockedMark ∧ cipherMark.isPrefixOf line.toList then
      match Text.splitOn ',' (line.toList.drop cipherMark.length) with
      | [cipher, start] => (Bytes.ofHex? start).map fun start => ⟨String.ofList cipher, start⟩
      | _ => none
    else none
  | _ => none

/-- The sizes of the keys that lock blocks, by the name of the cipher. -/
def keySizes : List (String × Nat) := [("AES-128-CBC", 16), ("AES-192-CBC", 24), ("AES-256-CBC", 32)]

/-- The content of a locked block. -/
def open? (l : BlockLock) (secret content : Bytes) : Option Bytes := do
  let size ← keySizes.lookup l.cipher
  let salted := secret ++ l.start.take 8
  let first := Hash.Md5.hash salted
  Aes.decrypt? ((first ++ Hash.Md5.hash (first ++ salted)).take size) l.start content

end BlockLock

namespace Library

/-- The labels of certificates. -/
def certificateLabels : List String :=
  ["CERTIFICATE", "X509 CERTIFICATE", "TRUSTED CERTIFICATE"]

/-- The label of lists of revoked certificates. -/
def revocationLabel : String := "X509 CRL"

/-- Whether a block is a certificate. -/
def isCertificate (block : Pem) : Bool := certificateLabels.contains block.label

/-- The certificates to trust in a file of blocks. -/
def trustedBlocks (file : Bytes) : Option (List Bytes) :=
  let (blocks, isComplete) := Pem.read file
  let certificates := blocks.filter isCertificate
  let lists := blocks.filter fun b => b.label == revocationLabel
  if !isComplete || !(certificates.all fun b => (PublicKey.ofCertificate? b.content).isSome)
    || !(lists.all fun b => (Der.sequence? b.content).isSome)
    || (certificates.isEmpty && lists.isEmpty) then none
  else some (certificates.map (·.content)).eraseDups

/-- The public key of the first certificate of a file; all of them must be sound. -/
def firstCertificate (file : Bytes) : Option PublicKey :=
  let (blocks, isComplete) := Pem.read file
  let keys := (blocks.filter isCertificate).map fun b => PublicKey.ofCertificate? b.content
  if isComplete && keys.all Option.isSome then keys.head?.join else none

/-- Opens the content of a block, which a header may say to be locked. -/
def openBlock (block : Pem) (read : Bytes → Option PublicKey) : Opening PublicKey :=
  if block.header.isEmpty then .settled (read block.content)
  else match BlockLock.ofHeader? block.header with
    | none => .settled none
    | some lock => .locked fun secret => do read (← lock.open? (← secret) block.content)

/-- Opens a block with a private key; `none` for other blocks. -/
def openKey? (block : Pem) : Option (Opening PublicKey) :=
  match block.label with
  | "PRIVATE KEY" => some (openBlock block PublicKey.ofPrivateKey?)
  | "EC PRIVATE KEY" | "RSA PRIVATE KEY" => some (openBlock block PublicKey.ofAnyKey?)
  | "ENCRYPTED PRIVATE KEY" =>
    some (.locked fun secret => do
      PublicKey.ofPrivateKey? (← EncryptedKey.open? (← secret) block.content))
  | _ => none

/-- The library that reads blocks of text. -/
def pem : Library where
  trusted := trustedBlocks
  certificate file := .settled (firstCertificate file)
  privateKey file := ((Pem.read file).1.findSome? openKey?).getD (.settled none)

end Library

end HttpCourier.Tls
