import Converge.Text.Lines
import Converge.Text.Utf8

/-!
# Text that is read in portions

A reader asks for a portion of a text at a time, and each portion takes as many chunks of bytes as it
needs. So bytes that are not UTF-8 are met by the portion whose chunk holds them, at a place that is
counted in the chunk, together with the bytes that the chunk before left over.
-/

namespace Converge.Text

/-- How many characters a reader asks for at a time. -/
def portionSize : Nat := 4096

/-- The least number of bytes of a chunk, unless the bytes end. -/
def chunkSize : Nat := 8192

/-- Where the reading of a stream of bytes stands. -/
structure Stream where
  /-- The bytes to come. -/
  bytes : List UInt8
  /-- The bytes at the end of the last chunk that are no whole character. -/
  cut : List UInt8
  /-- A carriage return ends the last chunk; a line feed may follow it. -/
  returned : Bool
  /-- The characters that are read and not yet taken. -/
  ready : List Char
  /-- The bytes and the characters of the last chunk, by which the next one is measured. -/
  measure : Nat × Nat

namespace Stream

/-- The stream before the bytes of a file. -/
def start (bytes : ByteArray) : Stream := ⟨bytes.toList, [], false, [], (0, 0)⟩

/-- The text of bytes, and what they leave over when a character is cut at their end. -/
def decodeChunk (bytes : List UInt8) : Except Utf8Fault (List Char × List UInt8) :=
  match decode ⟨bytes.toArray⟩ with
  | .ok text => .ok (text.toList, [])
  | .error fault =>
    if fault.reason = .endOfData then
      match decode ⟨(bytes.take fault.start).toArray⟩ with
      | .ok text => .ok (text.toList, bytes.drop fault.start)
      | .error fault => .error fault
    else .error fault

/-- The characters of a chunk with their line ends unified, where a carriage return at its end
waits for the next chunk unless the chunk is the last. -/
def lineEnds (returned last : Bool) (chars : List Char) : List Char × Bool :=
  let chars := if returned then '\r' :: chars else chars
  if !last && chars.getLast? = some '\r' then (unifyChars chars.dropLast, true)
  else (unifyChars chars, false)

/-- One chunk more, for so many characters that are still wanted. -/
def chunk (s : Stream) (wanted : Nat) : Except Utf8Fault Stream := do
  let (bytes, chars) := s.measure
  let size := max chunkSize (if chars = 0 then 0 else bytes * wanted / chars)
  let taken := s.bytes.take size
  let (read, cut) ← decodeChunk (s.cut ++ taken)
  if taken.isEmpty && !cut.isEmpty then
    match decode ⟨cut.toArray⟩ with
    | .error fault => throw fault
    | .ok _ => pure ()
  let (read, returned) := lineEnds s.returned taken.isEmpty read
  return ⟨s.bytes.drop size, cut, returned, s.ready ++ read, (taken.length, read.length)⟩

/-- The stream with as many characters ready as a portion takes, unless the bytes end. -/
def fill : Nat → Stream → Except Utf8Fault Stream
  | 0, s => .ok s
  | fuel + 1, s =>
    if portionSize ≤ s.ready.length then .ok s
    else do
      let after ← s.chunk (portionSize - s.ready.length)
      if s.bytes.isEmpty then return after else fill fuel after

/-- The portions of the characters, and the fault that ends them. -/
def portions : Nat → Stream → List (List Char) × Option Utf8Fault
  | 0, _ => ([], none)
  | fuel + 1, s =>
    match s.fill (s.bytes.length + 1) with
    | .error fault => ([], some fault)
    | .ok s =>
      if s.ready.isEmpty then ([], none)
      else
        let (rest, fault) := portions fuel { s with ready := s.ready.drop portionSize }
        (s.ready.take portionSize :: rest, fault)

/-- The portions of the text of a file, and the fault that ends them. -/
def ofBytes (bytes : ByteArray) : List (List Char) × Option Utf8Fault :=
  (start bytes).portions (bytes.size + 1)

end Stream

end Converge.Text
