import FlowScript.Http.Message

/-!
# Dialogues with servers

A computation that may send requests, as a tree: it is done, or it asks and goes on with
the reply. What the computation does is thereby separate from who answers. The one
effect is asking; nothing else can happen on the way.

* `Dialogue.play` lets a scripted server answer, which takes down what reaches it.
* `Dialogue.bind` continues a dialogue with another.
-/

namespace FlowScript

namespace Http

/-- A computation of an `α` that may ask servers. -/
inductive Dialogue (α : Type) where
  /-- the computation is over -/
  | done (result : α)
  /-- a request is sent, and the reply decides how to go on -/
  | ask (request : Request) (next : Reply → Dialogue α)

namespace Dialogue

/-- Continues a dialogue with another. -/
protected def bind {α β : Type} : Dialogue α → (α → Dialogue β) → Dialogue β
  | .done a, f => f a
  | .ask request next, f => .ask request fun reply => (next reply).bind f

instance : Monad Dialogue where
  pure := .done
  bind := Dialogue.bind

/-! ### A scripted server -/

/-- All servers that can be reached, as one: which URLs lead to them, the replies they will
give and the requests they were sent. -/
structure Server where
  /-- whether there is a server at a URL -/
  reaches : Url → Bool
  /-- the replies to come, in order; when they are over it closes every connection -/
  replies : List Reply
  /-- the requests that have reached it, in order -/
  received : List Request := []

/-- A server under one authority, for plain and for encrypted connections. -/
def Server.under (authority : String) (replies : List Reply) : Server where
  reaches url := url.authority == some authority
  replies

/-- Whether a request reaches the server. -/
def Server.isReached (server : Server) (request : Request) : Bool := server.reaches request.url

/-- What becomes of a request: the server takes it down and gives its next reply. A request
to anywhere else gets none. -/
def Server.answer (server : Server) (request : Request) : Reply × Server :=
  if server.isReached request then
    (server.replies.headD .none,
      { server with replies := server.replies.tail, received := server.received ++ [request] })
  else (.none, server)

/-- Plays a dialogue against a server. -/
def play {α : Type} : Dialogue α → Server → α × Server
  | .done a, server => (a, server)
  | .ask request next, server =>
    let (reply, after) := server.answer request
    (next reply).play after

end Dialogue

end Http

end FlowScript
