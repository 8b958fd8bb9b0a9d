import RsNetty.Std.Bytes
import RsNetty.Std.Utf8

/-!
# `LineCodec`
-/

namespace RsNetty
open EStateM

/-- UTF-8 line codec for newline-delimited TCP streams. -/
structure LineCodec where
  maxLineLen : Nat
deriving DecidableEq, Repr

namespace LineCodec

def new : LineCodec := ⟨8 * 1024⟩

def withMaxLineLen (maxLineLen : Nat) : LineCodec := ⟨maxLineLen⟩

/-- A line without the carriage return in front of its newline. -/
def stripCr (line : Bytes) : Bytes :=
  if line.getLast? = some 0x0d then line.take (line.length - 1) else line

def decode (self : LineCodec) : Exec BytesMut (Option String) := do
  let src ← get
  match src.findIdx? (· = 0x0a) with
  | none =>
    failIf (src.length > self.maxLineLen) (.err (.frameTooLarge src.length self.maxLineLen))
    return none
  | some pos =>
    failIf (pos > self.maxLineLen) (.err (.frameTooLarge pos self.maxLineLen))
    let line ← splitTo (pos + 1)
    let line ← (fromUtf8 (stripCr (line.take pos))).mapError fun err => Fault.decode err.display
    return some line

def encode (_self : LineCodec) (item : String) : Exec BytesMut Unit := do
  extendFromSlice (asBytes item)
  extendFromSlice [0x0a]

end LineCodec

end RsNetty
