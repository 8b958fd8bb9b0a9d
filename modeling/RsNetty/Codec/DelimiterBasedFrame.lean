import RsNetty.Std.Bytes
import RsNetty.Theory.Window

/-!
# Delimiter-terminated binary frames
-/

namespace RsNetty
open EStateM

/-- `new_many` panics if there is no delimiter or an empty one. -/
structure DelimiterBasedFrameDecoder where
  maxFrameLength : Nat
  delimiters : List Bytes
  stripDelimiter : Bool
  delimiters_ne_nil : delimiters ≠ []
  delimiter_ne_nil : ∀ delimiter ∈ delimiters, delimiter ≠ []

/-- `iter.min_by_key(|(pos, len)| (*pos, *len))` -/
def minByPosLen : List (Nat × Nat) → Option (Nat × Nat)
  | [] => none
  | m :: ms =>
    match minByPosLen ms with
    | none => some m
    | some best => some (if best.1 < m.1 ∨ best.1 = m.1 ∧ best.2 < m.2 then best else m)

/-- Where the first delimiter starts, and its length. -/
def findDelimiter (src : BytesMut) (delimiters : List Bytes) : Option (Nat × Nat) :=
  minByPosLen <| delimiters.filterMap fun delimiter =>
    (Window.find delimiter src).map fun pos => (pos, delimiter.length)

namespace DelimiterBasedFrameDecoder

def newMany (maxFrameLength : Nat) (delimiters : List Bytes) (hne : delimiters ≠ [])
    (hdelimiter : ∀ delimiter ∈ delimiters, delimiter ≠ []) : DelimiterBasedFrameDecoder :=
  ⟨maxFrameLength, delimiters, true, hne, hdelimiter⟩

def new (maxFrameLength : Nat) (delimiter : Bytes) (h : delimiter ≠ []) :
    DelimiterBasedFrameDecoder :=
  newMany maxFrameLength [delimiter] (List.cons_ne_nil _ _) (List.forall_mem_singleton.2 h)

/-- `strip_delimiter(strip_delimiter)` -/
def withStripDelimiter (self : DelimiterBasedFrameDecoder) (stripDelimiter : Bool) :
    DelimiterBasedFrameDecoder :=
  { self with stripDelimiter }

/-- A CRLF/LF line delimiter decoder. -/
def lineDelimiter (maxFrameLength : Nat) : DelimiterBasedFrameDecoder :=
  newMany maxFrameLength [[0x0d, 0x0a], [0x0a]] (by decide) (by decide)

def decode (self : DelimiterBasedFrameDecoder) : Exec BytesMut (Option Bytes) := do
  let src ← get
  match findDelimiter src self.delimiters with
  | none =>
    failIf (src.length > self.maxFrameLength)
      (.err (.frameTooLarge src.length self.maxFrameLength))
    return none
  | some (frameEnd, delimiterLen) =>
    failIf (frameEnd > self.maxFrameLength)
      (.err (.frameTooLarge frameEnd self.maxFrameLength))
    let frame ← splitTo (frameEnd + delimiterLen)
    return some (if self.stripDelimiter then frame.take frameEnd else frame)

/-- `Error::Encode` is not reached, for there is a first delimiter. -/
def encode (self : DelimiterBasedFrameDecoder) (item : Bytes) : Exec BytesMut Unit := do
  let delimiter ← okOr self.delimiters.head? (.encode "missing delimiter")
  extendFromSlice item
  extendFromSlice delimiter

end DelimiterBasedFrameDecoder

end RsNetty
