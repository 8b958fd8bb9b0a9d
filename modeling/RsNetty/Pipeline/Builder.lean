import RsNetty.Pipeline.Stream

/-!
# Building a stream pipeline

Each stage is put behind those that were added before it. The phases of the builder leave no other
order than inbound stages, business stages, the handler, outbound stages.
-/

namespace RsNetty
open EStateM

/-- A stage, or the composition of several, with the code of its trait: what `Inbound::read`,
`Business::handle`, `Outbound::write` or the `process` of a pipe does with a message, on a state of
its own. The contexts of a connection only tell its addresses, which do not change. -/
structure Pipe (I Out : Type) : Type 1 where
  State : Type
  state : State
  process : I → Exec State (Flow Out)

namespace Pipe
variable {I Mid Out : Type}

/-- `Identity` -/
def identity : Pipe I I where
  State := Unit
  state := ()
  process msg := return .next msg

/-- `Then::new(a, b)` -/
def andThen (a : Pipe I Mid) (b : Pipe Mid Out) : Pipe I Out where
  State := a.State × b.State
  state := (a.state, b.state)
  process msg := do
    match ← EStateM.zoom Component.fst (a.process msg) with
    | .next mid => EStateM.zoom Component.snd (b.process mid)
    | .stop => return .stop

end Pipe

/-- A codec, as far as it decodes. -/
structure StreamDecoder (Item : Type) : Type 1 where
  C : Type
  codec : C
  decode : Exec (C × BytesMut) (Option Item)

/-- The final handler of inbound messages. -/
structure StreamHandler (I Write : Type) : Type 1 where
  H : Type
  handler : H
  read : H → I → HandlerFuture H Write

namespace PipelineBuilder
variable {Item InOut CurrentIn Write CurrentOut Out : Type}

/-- The builder before the first business stage. -/
structure InboundPhase (Item CurrentIn : Type) : Type 1 where
  codec : StreamDecoder Item
  inbound : Pipe Item CurrentIn

/-- The builder with a business stage and without a handler. -/
structure BusinessPhase (Item InOut CurrentIn : Type) : Type 1 where
  codec : StreamDecoder Item
  inbound : Pipe Item InOut
  business : Pipe InOut CurrentIn

/-- The builder with a handler. -/
structure Ready (Item InOut CurrentIn Write CurrentOut : Type) : Type 1 where
  codec : StreamDecoder Item
  inbound : Pipe Item InOut
  business : Pipe InOut CurrentIn
  handler : StreamHandler CurrentIn Write
  outbound : Pipe Write CurrentOut

/-- `pipeline().codec(codec)` -/
def codec (codec : StreamDecoder Item) : InboundPhase Item Item where
  codec
  inbound := .identity

namespace InboundPhase

/-- `inbound(handler)` -/
def withInbound (self : InboundPhase Item CurrentIn) (handler : Pipe CurrentIn Out) :
    InboundPhase Item Out where
  codec := self.codec
  inbound := self.inbound.andThen handler

/-- `business(business)` -/
def withBusiness (self : InboundPhase Item CurrentIn) (business : Pipe CurrentIn Out) :
    BusinessPhase Item CurrentIn Out where
  codec := self.codec
  inbound := self.inbound
  business := Pipe.identity.andThen business

/-- `handler(handler)` -/
def withHandler (self : InboundPhase Item CurrentIn) (handler : StreamHandler CurrentIn Write) :
    Ready Item CurrentIn CurrentIn Write Write where
  codec := self.codec
  inbound := self.inbound
  business := .identity
  handler
  outbound := .identity

end InboundPhase

namespace BusinessPhase

/-- `business(business)` -/
def withBusiness (self : BusinessPhase Item InOut CurrentIn) (business : Pipe CurrentIn Out) :
    BusinessPhase Item InOut Out where
  codec := self.codec
  inbound := self.inbound
  business := self.business.andThen business

/-- `handler(handler)` -/
def withHandler (self : BusinessPhase Item InOut CurrentIn)
    (handler : StreamHandler CurrentIn Write) : Ready Item InOut CurrentIn Write Write where
  codec := self.codec
  inbound := self.inbound
  business := self.business
  handler
  outbound := .identity

end BusinessPhase

namespace Ready

/-- `outbound(outbound)` -/
def withOutbound (self : Ready Item InOut CurrentIn Write CurrentOut)
    (outbound : Pipe CurrentOut Out) : Ready Item InOut CurrentIn Write Out where
  codec := self.codec
  inbound := self.inbound
  business := self.business
  handler := self.handler
  outbound := self.outbound.andThen outbound

/-- The type of `into_stream_pipeline`, which needs an encoder for what the outbound stages
return. -/
def stages (self : Ready Item InOut CurrentIn Write CurrentOut)
    (encode : CurrentOut → Exec (self.codec.C × BytesMut) Unit) : StreamStages where
  C := self.codec.C
  InP := self.inbound.State
  BizP := self.business.State
  H := self.handler.H
  OutP := self.outbound.State
  Item
  InOut
  CurrentIn
  Write
  CurrentOut
  decode := self.codec.decode
  encode
  inbound := self.inbound.process
  business := self.business.process
  read := self.handler.read
  outbound := self.outbound.process

def intoStreamPipeline (self : Ready Item InOut CurrentIn Write CurrentOut)
    (encode : CurrentOut → Exec (self.codec.C × BytesMut) Unit) :
    StreamPipeline (self.stages encode) where
  codec := self.codec.codec
  inbound := self.inbound.state
  business := self.business.state
  handler := self.handler.handler
  outbound := self.outbound.state

end Ready

end PipelineBuilder

end RsNetty
