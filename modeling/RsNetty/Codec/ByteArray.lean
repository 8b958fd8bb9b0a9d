import RsNetty.Std.Bytes

/-!
# `ByteArrayDecoder`
-/

namespace RsNetty
open EStateM

/-- Byte stream drain codec. -/
structure ByteArrayDecoder where
deriving DecidableEq, Repr

namespace ByteArrayDecoder

def decode (_self : ByteArrayDecoder) : Exec BytesMut (Option Bytes) := do
  let src ← get
  if src = [] then return none
  else
    -- `src.split()`
    return some (← splitTo src.length)

def encode (_self : ByteArrayDecoder) (item : Bytes) : Exec BytesMut Unit := extendFromSlice item

end ByteArrayDecoder

end RsNetty
