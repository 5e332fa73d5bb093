import Converge.Program.Lines
import Converge.Program.Paths

/-!
# Blocks of bytes

The program that copies blocks of bytes from one place to another, skipping some and converting what
it copies.
-/

namespace Converge.Program

open Job

/-- What a copy of blocks is told to do. -/
structure BlockCopy where
  source : Option String
  target : Option String
  /-- The size of the blocks that are read, of those that are written, and of both. -/
  inner : Nat
  outer : Nat
  both : Option Nat
  count : Option Nat
  skip : Nat
  seek : Nat
  conversions : List String
  inFlags : List String
  outFlags : List String
  telling : String
  /-- The count, the skip and the seek are numbers of bytes. -/
  countsBytes : Bool
  skipsBytes : Bool
  seeksBytes : Bool

namespace BlockCopy

/-- The number of bytes that a word writes: products of numbers with factors. -/
def sizeOf? (word : String) : Option Nat :=
  let one (part : String) : Option Nat :=
    match takePlainDigits 10 part.toList with
    | ([], _) => none
    | (ds, ['c']) | (ds, ['B']) => some (Text.ofDigits 10 ds)
    | (ds, ['w']) => some (2 * Text.ofDigits 10 ds)
    | (ds, rest) => (factorOf? (String.ofList rest)).map fun factor => Text.ofDigits 10 ds * factor
  ((word.splitOn "x").mapM one).map fun (ns : List Nat) => ns.foldl (· * ·) 1

def allConversions : List String :=
  ["ascii", "ebcdic", "ibm", "block", "unblock", "lcase", "ucase", "sparse", "swab", "noerror", "nocreat",
    "excl", "notrunc", "sync", "fdatasync", "fsync"]

/-- The flags that an input or an output may have. -/
def allFlags : List String :=
  ["append", "binary", "cio", "direct", "directory", "dsync", "fullblock", "noatime", "nocache", "noctty",
    "nofollow", "nolinks", "nonblock", "sync", "text", "count_bytes", "skip_bytes", "seek_bytes"]

/-- The words between commas, each of which has to be one of those there are. -/
def words (all : List String) (kind value : String) : Job (List String) := do
  let found := value.splitOn ","
  match found.find? fun w => !all.contains w with
  | some w => misuse ("invalid " ++ kind ++ ": " ++ marked w)
  | none => return found

def operand (c : BlockCopy) (word : String) : Job BlockCopy := do
  let name := String.ofList (word.toList.takeWhile (· ≠ '='))
  let value := String.ofList ((word.toList.dropWhile (· ≠ '=')).drop 1)
  let number (least : Nat) : Job Nat :=
    match sizeOf? value with
    | some n => if n < least then refuse ("invalid number: " ++ quotedName value) else return n
    | none => refuse ("invalid number: " ++ quotedName value)
  let inBytes := value.endsWith "B"
  if !word.contains '=' then misuse ("unrecognized operand " ++ quotedName word)
  match name with
  | "if" => return { c with source := some value }
  | "of" => return { c with target := some value }
  | "conv" => return { c with conversions := c.conversions ++ (← words allConversions "conversion" value) }
  | "iflag" =>
    let found ← words (allFlags.filter (· != "seek_bytes")) "input flag" value
    return { c with inFlags := c.inFlags ++ found, countsBytes := c.countsBytes || found.contains "count_bytes"
                    skipsBytes := c.skipsBytes || found.contains "skip_bytes" }
  | "oflag" =>
    let found ← words (allFlags.filter fun f => !(["fullblock", "count_bytes", "skip_bytes"].contains f))
      "output flag" value
    return { c with outFlags := c.outFlags ++ found, seeksBytes := c.seeksBytes || found.contains "seek_bytes" }
  | "status" =>
    if ["none", "noxfer", "progress"].contains value then return { c with telling := value }
    else misuse ("invalid status level: " ++ marked value)
  | "bs" => return { c with both := some (← number 1) }
  | "ibs" => return { c with inner := ← number 1 }
  | "obs" => return { c with outer := ← number 1 }
  | "cbs" =>
    let _ ← number 1
    return c
  | "count" => return { c with count := some (← number 0), countsBytes := c.countsBytes || inBytes }
  | "skip" | "iseek" => return { c with skip := ← number 0, skipsBytes := c.skipsBytes || inBytes }
  | "seek" | "oseek" => return { c with seek := ← number 0, seeksBytes := c.seeksBytes || inBytes }
  | _ => misuse ("unrecognized operand " ++ quotedName word)

/-- Two of the conversions that exclude each other. -/
def clash? (c : BlockCopy) : Option String :=
  [("lcase", "ucase"), ("excl", "nocreat"), ("block", "unblock")].findSome? fun (a, b) =>
    if c.conversions.contains a && c.conversions.contains b then
      some ("cannot combine " ++ a ++ " and " ++ b) else none

/-- Bytes in pairs turned round. -/
def swapped : List Char → List Char
  | a :: b :: rest => b :: a :: swapped rest
  | cs => cs

def converted (c : BlockCopy) (size : Nat) (block : List Char) : List Char :=
  let has (name : String) : Bool := c.conversions.contains name
  let block := if has "sync" then block ++ List.replicate (size - block.length) '\x00' else block
  let block := if has "swab" then swapped block else block
  if has "ucase" then block.map Char.toUpper else if has "lcase" then block.map Char.toLower else block

def pieces (size : Nat) : (fuel : Nat) → List Char → List (List Char)
  | 0, _ => []
  | _, [] => []
  | fuel + 1, cs => cs.take size :: pieces size fuel (cs.drop size)

/-- The numbers of whole blocks and of parts among so many bytes. -/
def records (size total : Nat) : String :=
  toString (total / size) ++ "+" ++ (if total % size = 0 then "0" else "1")

def zeroPlace : Place := ["dev", "zero"]

/-- The bytes that are to be copied, before they are converted. -/
def input (c : BlockCopy) (size : Nat) : Job (List Char) := do
  let before := if c.skipsBytes then c.skip else c.skip * size
  let most := c.count.map fun n => if c.countsBytes then n else n * size
  let cut (cs : List Char) : Job (List Char) := do
    if cs.length < before && c.telling != "none" then
      complain ((match c.source with | some path => headName path | none => "'standard input'") ++
        ": cannot skip to specified offset")
    let cs := cs.drop before
    return match most with
      | some n => cs.take n
      | none => cs
  match c.source with
  | none => cut (← takeInput).toList
  | some path =>
    match ← look path with
    | .ok (place, .file ..) =>
      if place == zeroPlace then return List.replicate (most.getD 0) '\x00'
      else cut (((← content path).toOption).getD "").toList
    | .ok _ => refuse ("error reading " ++ quotedName path ++ ": Is a directory")
    | .error errno => refuse ("failed to open " ++ quotedName path ++ ": " ++ errno.text)

/-- Bytes put where they are to go. -/
def output (c : BlockCopy) (size : Nat) (cs : List Char) : Job Unit := do
  match c.target with
  | none => say (String.ofList cs)
  | some path =>
    let fail {α : Type} (errno : Errno) : Job α :=
      refuse ("failed to open " ++ quotedName path ++ ": " ++ errno.text)
    let stands := (← look path).isOk
    if c.conversions.contains "excl" && stands then fail .fileExists
    if c.conversions.contains "nocreat" && !stands then fail .noEntry
    let before := ((← content path).toOption.getD "").toList
    let keeps := c.conversions.contains "notrunc"
    let place := if c.seeksBytes then c.seek else c.seek * size
    let place := if c.outFlags.contains "append" then (if keeps then before.length else 0) else place
    let front := before.take place
    let front := front ++ List.replicate (place - front.length) '\x00'
    let behind := if keeps then before.drop (front.length + cs.length) else []
    match ← store path (String.ofList (front ++ cs ++ behind)) with
    | .ok () => return ()
    | .error errno => fail errno

end BlockCopy

/-- The program that copies blocks of bytes. -/
def dd (arguments : List String) : Job Unit := do
  let (_, operands) ← options [] arguments
  let begun : BlockCopy :=
    { source := none, target := none, inner := 512, outer := 512, both := none, count := none, skip := 0
      seek := 0, conversions := [], inFlags := [], outFlags := [], telling := "", countsBytes := false
      skipsBytes := false, seeksBytes := false }
  let c ← operands.foldlM BlockCopy.operand begun
  if let some words := c.clash? then refuse words
  let inner := c.both.getD c.inner
  let outer := c.both.getD c.outer
  let cs ← c.input inner
  let blocks := (BlockCopy.pieces inner (cs.length + 1) cs).map (c.converted inner)
  let made := blocks.flatten
  c.output outer made
  if c.telling != "none" then
    sayError (BlockCopy.records inner cs.length ++ " records in\n" ++
      BlockCopy.records outer made.length ++ " records out\n")

end Converge.Program
