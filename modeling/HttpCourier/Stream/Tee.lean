import HttpCourier.Stream.Buffer
import HttpCourier.Stream.Source

/-!
# Tees

A `Tee` reads a source and copies what it reads into a bounded buffer. When it owns the source,
closing the tee closes the source, once.
-/

namespace HttpCourier

/-- A source with a buffer that gets a copy. -/
structure Tee (σ : Type) where
  source : σ
  sink : BoundedBuffer
  owns : Bool := true
  closed : Bool := false

namespace Tee

variable {σ : Type} [ByteSource σ]

/-- Reads the source and copies what was read. -/
def read (size : Int) (t : Tee σ) : Except Fault Bytes × Tee σ :=
  match ByteSource.read size t.source with
  | (.ok bytes, source) => (.ok bytes, { t with source, sink := t.sink.write bytes })
  | (.error fault, source) => (.error fault, { t with source })

/-- Closes the tee, and its source if it owns it. -/
def close (t : Tee σ) : Tee σ :=
  if t.closed then t
  else { t with closed := true, source := if t.owns then ByteSource.close t.source else t.source }

end Tee

instance {σ : Type} [ByteSource σ] : ByteSource (Tee σ) where
  read := Tee.read
  close := Tee.close
  left t := ByteSource.left t.source

end HttpCourier
