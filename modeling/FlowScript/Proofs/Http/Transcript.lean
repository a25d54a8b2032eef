import FlowScript.Http.Dialogue

/-!
# Transcripts of dialogues

What is said while a dialogue is played: every request that is sent, whether it reaches the
server or not, with the reply that came back. The server itself takes down only what reaches it
(`Dialogue.received_play`).

A dialogue that goes on with another is played in two parts, and its transcript has two parts
(`Dialogue.play_bind`, `Dialogue.transcript_bind`).
-/

namespace FlowScript

namespace Http

namespace Dialogue

variable {α β : Type}

/-- The requests that are sent when a dialogue is played against a server, with the replies. -/
def transcript : Dialogue α → Server → List (Request × Reply)
  | .done _, _ => []
  | .ask request next, server =>
    let (reply, after) := server.answer request
    (request, reply) :: (next reply).transcript after

/-! ### Equations -/

theorem play_done (a : α) (server : Server) : (done a).play server = (a, server) := rfl

theorem transcript_done (a : α) (server : Server) : (done a).transcript server = [] := rfl

theorem play_ask (request : Request) (next : Reply → Dialogue α) (server : Server) :
    (ask request next).play server =
      (next (server.answer request).1).play (server.answer request).2 := rfl

theorem transcript_ask (request : Request) (next : Reply → Dialogue α) (server : Server) :
    (ask request next).transcript server =
      (request, (server.answer request).1) ::
        (next (server.answer request).1).transcript (server.answer request).2 := rfl

/-- **Two dialogues in a row** end as the second does, on the server that the first leaves. The
induction is on the first, whose next question may depend on the reply before it. -/
theorem play_bind (dialogue : Dialogue α) (f : α → Dialogue β) (server : Server) :
    (dialogue >>= f).play server =
      (f (dialogue.play server).1).play (dialogue.play server).2 := by
  induction dialogue generalizing server with
  | done a => rfl
  | ask request next ih => exact ih _ _

/-- What they say stands one behind the other. -/
theorem transcript_bind (dialogue : Dialogue α) (f : α → Dialogue β) (server : Server) :
    (dialogue >>= f).transcript server =
      dialogue.transcript server ++
        (f (dialogue.play server).1).transcript (dialogue.play server).2 := by
  induction dialogue generalizing server with
  | done a => rfl
  | ask request next ih => exact congrArg (_ :: ·) (ih _ _)

/-! ### What the server takes down -/

/-- Answering changes what a server has received and what it still has to say, but not where it is
found. -/
theorem Server.isReached_answer (server : Server) (request : Request) :
    (server.answer request).2.isReached = server.isReached := by
  unfold Server.answer
  split <;> rfl

/-- A server receives a request that reaches it, and takes no notice of others. -/
theorem Server.received_answer (server : Server) (request : Request) :
    (server.answer request).2.received =
      server.received ++ [request].filter server.isReached := by
  unfold Server.answer
  split
  · next h => rw [List.filter_cons_of_pos h, List.filter_nil]
  · next h => rw [List.filter_cons_of_neg h, List.filter_nil, List.append_nil]

/-- A server has taken down the requests of the transcript that reached it, in order. -/
theorem received_play (dialogue : Dialogue α) (server : Server) :
    (dialogue.play server).2.received =
      server.received ++ ((dialogue.transcript server).map Prod.fst).filter server.isReached := by
  -- the server stays where it is, so what reaches it later is told by the server at the start
  induction dialogue generalizing server with
  | done a => exact (List.append_nil _).symm
  | ask request next ih =>
    rw [play_ask, ih, Server.received_answer, Server.isReached_answer, List.append_assoc,
      ← List.filter_append]
    rfl

end Dialogue

end Http

end FlowScript
