import RsNetty.Pipeline.Datagram
import RsNetty.Theory.Transducer

/-!
# `#[handler]`

The attribute makes a handler of an `async fn` that gets the message, and the handler itself as
`&mut` if it asks for it. The function has no context: what it can do is to await something else and
to return.
-/

namespace RsNetty

/-- The future of the function, and the handler it leaves behind. -/
inductive FnFuture (H Out : Type) where
  | ready (result : Except Error Out) (handler : H)
  | panic
  | suspend (rest : FnFuture H Out)

namespace FnFuture
variable {H Out W : Type}

/-- `let msg = function(self, msg).await?; ctx.write(msg).await` -/
def respond : FnFuture H Out → HandlerFuture H Out
  | .ready (.ok msg) handler => .write msg (.ready (.ok ()) handler)
  | .ready (.error err) handler => .ready (.error err) handler
  | .panic => .panic
  | .suspend rest => .suspend rest.respond

/-- `function(self, msg).await?; Ok(())`, of a function that returns `Result<()>` -/
def consume : FnFuture H Unit → HandlerFuture H W
  | .ready (.ok ()) handler => .ready (.ok ()) handler
  | .ready (.error err) handler => .ready (.error err) handler
  | .panic => .panic
  | .suspend rest => .suspend rest.consume

/-- `respond` in a `DatagramHandler`, whose context writes to the peer of the datagram. -/
def respondTo (info : DatagramInfo) : FnFuture H Out → HandlerFuture H (SocketAddr × Out)
  | .ready (.ok msg) handler => .reply info msg (.ready (.ok ()) handler)
  | .ready (.error err) handler => .ready (.error err) handler
  | .panic => .panic
  | .suspend rest => .suspend (rest.respondTo info)

/-- What the function returns, and the handler behind it; nothing if it returns no value. -/
def returned : FnFuture H Out → Option (Out × H)
  | .ready (.ok msg) handler => some (msg, handler)
  | .ready (.error _) _ => none
  | .panic => none
  | .suspend rest => rest.returned

/-- A function of a handler, as a transducer. -/
def machine {In : Type} (f : H → In → FnFuture H Out) : Transducer H In Out := fun handler msg =>
  (((f handler msg).returned.map (·.1)).toList, (f handler msg).returned.map (·.2))

end FnFuture

end RsNetty
