import RsNetty.Codec.WebSocket
import RsNetty.Pipeline.Stream

/-!
# `HttpWsRouter`

The handler that lets an HTTP service and a WebSocket service share a port, and the pipelines that
it makes with `HttpWsCodec`.
-/

namespace RsNetty.WebSocket
open EStateM Http

/-! ## Services -/

/-- The future of a call on a service: `suspend` for each `await` that is pending, and the service
it leaves behind. -/
inductive ServiceFuture (S R : Type) where
  | ready (result : Except Error R) (service : S)
  | panic
  | suspend (rest : ServiceFuture S R)

namespace ServiceFuture
variable {S R H M : Type}

/-- Go on with the result of the call. -/
def await (rest : Except Error R → S → HandlerFuture H M) : ServiceFuture S R → HandlerFuture H M
  | .ready result service => rest result service
  | .panic => .panic
  | .suspend future => .suspend (future.await rest)

/-- The result of the call and the service it leaves behind; none where it panics. -/
def output : ServiceFuture S R → Option (Except Error R × S)
  | .ready result service => some (result, service)
  | .panic => none
  | .suspend future => future.output

end ServiceFuture

/-- Static HTTP service used by `HttpWsRouter`. -/
class HttpService (H : Type) where
  call : H → HttpRequest → ServiceFuture H HttpResponse

/-- Static WebSocket service used by `HttpWsRouter`. -/
class WebSocketService (W : Type) where
  «open» : W → WebSocketHandshake → ServiceFuture W WebSocketHandshakeResponse
  message : W → WebSocketMessage → ServiceFuture W (Option WebSocketMessage)

/-- A call on one of the services. -/
inductive ServiceCall where
  | call (request : HttpRequest)
  | «open» (handshake : WebSocketHandshake)
  | message (message : WebSocketMessage)
deriving DecidableEq, Repr

/-! ## The router -/

/-- Static router that lets an HTTP service and WebSocket service share a port. `calls` are the calls
it made so far; nothing depends on them. -/
structure HttpWsRouter (H W : Type) where
  http : H
  websocket : W
  calls : List ServiceCall := []

namespace HttpWsRouter
variable {H W : Type}

def new (http : H) (websocket : W) : HttpWsRouter H W := { http, websocket }

def called (call : ServiceCall) (router : HttpWsRouter H W) : HttpWsRouter H W :=
  { router with calls := router.calls ++ [call] }

/-- The end of `read`: `result?`, and the response is written, if there is one. -/
def respond (router : HttpWsRouter H W) (result : Except Error (Option HttpWsOutbound)) :
    HandlerFuture (HttpWsRouter H W) HttpWsOutbound :=
  match result with
  | .error err => .ready (.error err) router
  | .ok none => .ready (.ok ()) router
  | .ok (some response) => .write response (.ready (.ok ()) router)

def read [HttpService H] [WebSocketService W] (router : HttpWsRouter H W) :
    HttpWsInbound → HandlerFuture (HttpWsRouter H W) HttpWsOutbound
  | .http request =>
    (HttpService.call router.http request).await fun result http =>
      ({ router with http }.called (.call request)).respond
        (result.map fun response => some (.http response))
  | .webSocketHandshake handshake =>
    (WebSocketService.open router.websocket handshake).await fun result websocket =>
      ({ router with websocket }.called (.open handshake)).respond
        (result.map fun response => some (.webSocketHandshake response))
  | .webSocket message =>
    (WebSocketService.message router.websocket message).await fun result websocket =>
      ({ router with websocket }.called (.message message)).respond
        (result.map (Option.map .webSocket))

end HttpWsRouter

/-! ## Pipelines -/

/-- Composed stages that hand on every message as it is. They may have a state of their own. -/
structure PassingPipe (I : Type) where
  State : Type
  state : State
  process : I → Exec State (Flow I)
  passes : ∀ msg s, ∃ s', process msg s = .ok (.next msg) s'

/-- `Identity` -/
def PassingPipe.identity {I : Type} : PassingPipe I where
  State := Unit
  state := ()
  process msg := return .next msg
  passes _ s := ⟨s, rfl⟩

namespace HttpWsRouter
variable (base64Decode : List Char → Except String Bytes) (inbound business : PassingPipe HttpWsInbound)
  (outbound : PassingPipe HttpWsOutbound)

/-- The stages of a pipeline with `HttpWsCodec` and an `HttpWsRouter`. -/
def stages (H W : Type) [HttpService H] [WebSocketService W] : StreamStages where
  C := HttpWsCodec
  InP := inbound.State
  BizP := business.State
  H := HttpWsRouter H W
  OutP := outbound.State
  Item := HttpWsInbound
  InOut := HttpWsInbound
  CurrentIn := HttpWsInbound
  Write := HttpWsOutbound
  CurrentOut := HttpWsOutbound
  decode := HttpWsCodec.decode base64Decode
  encode := HttpWsCodec.encode
  inbound := inbound.process
  business := business.process
  read := HttpWsRouter.read
  outbound := outbound.process

def pipeline {H W : Type} [HttpService H] [WebSocketService W] (codec : HttpWsCodec)
    (router : HttpWsRouter H W) :
    StreamPipeline (stages base64Decode inbound business outbound H W) where
  codec
  inbound := inbound.state
  business := business.state
  handler := router
  outbound := outbound.state

end HttpWsRouter

end RsNetty.WebSocket
