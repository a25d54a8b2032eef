import FlowScript.Proofs.Http.Transcript
import FlowScript.Session

/-!
# Sessions in a world

What is seen of a session from outside: the result, the world that it leaves, and the requests
that it sends (`Session.exchanges`). A session that goes on with another is played in two parts
(`Session.play_bind`, `Session.exchanges_bind`), and a dialogue changes nothing but the server
(`Session.play_ofDialogue`).

What a server has taken down is a record for others: it changes neither the result nor the
requests (`Session.play_of_alike`).
-/

namespace FlowScript

open Http Dialogue

namespace Session

variable {α β : Type}

/-- The requests that a session sends when it is taken through a world, with the replies. -/
def exchanges : Session α → World → List (Request × Reply)
  | .done _, _ => []
  | .ask request next, world =>
    let (reply, server) := world.server.answer request
    (request, reply) :: (next reply).exchanges { world with server }
  | .readFile path next, world => (next (world.folder.read path)).exchanges world
  | .findFile name next, world => (next (world.folder.find? name)).exchanges world
  | .readInput next, world => (next world.input).exchanges { world with input := [] }
  | .writeFile path content next, world =>
    let (written, folder) := world.folder.write path content
    (next written).exchanges { world with folder }

/-! ### One after the other -/

/-- **Two sessions in a row** end as the second does, in the world that the first leaves. The
induction is on the first, one case for each thing that a session can do. -/
theorem play_bind (session : Session α) (f : α → Session β) (world : World) :
    (session >>= f).play world = (f (session.play world).1).play (session.play world).2 := by
  induction session generalizing world with
  | done a => rfl
  | ask request next ih => exact ih _ _
  | readFile path next ih => exact ih _ _
  | findFile name next ih => exact ih _ _
  | readInput next ih => exact ih _ _
  | writeFile path content next ih => exact ih _ _

/-- The exchanges of the first stand before those of the second. -/
theorem exchanges_bind (session : Session α) (f : α → Session β) (world : World) :
    (session >>= f).exchanges world =
      session.exchanges world ++ (f (session.play world).1).exchanges (session.play world).2 := by
  induction session generalizing world with
  | done a => rfl
  | ask request next ih => exact congrArg (_ :: ·) (ih _ _)
  | readFile path next ih => exact ih _ _
  | findFile name next ih => exact ih _ _
  | readInput next ih => exact ih _ _
  | writeFile path content next ih => exact ih _ _

/-! ### Dialogues -/

/-- A dialogue with a server is a session that touches nothing else of the world. -/
theorem play_ofDialogue (dialogue : Dialogue α) (world : World) :
    (ofDialogue dialogue).play world =
      ((dialogue.play world.server).1,
        { world with server := (dialogue.play world.server).2 }) := by
  induction dialogue generalizing world with
  | done a => rfl
  | ask request next ih => exact ih _ _

/-- A dialogue in two parts is a session in two parts. -/
theorem ofDialogue_bind (dialogue : Dialogue α) (f : α → Dialogue β) :
    ofDialogue (dialogue >>= f) = ofDialogue dialogue >>= fun a => ofDialogue (f a) := by
  induction dialogue with
  | done a => rfl
  | ask request next ih => exact congrArg (ask request) (funext ih)

/-! ### Files -/

/-- The session leaves the files as they are, whatever it finds outside. -/
def KeepsFolder (session : Session α) : Prop :=
  ∀ world, (session.play world).2.folder = world.folder

theorem keepsFolder_done (a : α) : (done a).KeepsFolder := fun _ => rfl

theorem keepsFolder_ofDialogue (dialogue : Dialogue α) : (ofDialogue dialogue).KeepsFolder := by
  intro world
  rw [play_ofDialogue]

/-- A run that keeps its files in each part keeps them altogether. -/
theorem KeepsFolder.bind {session : Session α} {f : α → Session β} (hsession : session.KeepsFolder)
    (hf : ∀ a, (f a).KeepsFolder) : (session >>= f).KeepsFolder := by
  intro world
  rw [play_bind, hf, hsession]

/-! ### Requests -/

/-- The session sends no request. -/
def Silent (session : Session α) : Prop := ∀ world, session.exchanges world = []

variable {kind : Request → Prop}

theorem silent_done (a : α) : (done a).Silent := fun _ => rfl

/-- A run that is silent in each part is silent altogether. -/
theorem Silent.bind {session : Session α} {f : α → Session β} (hsession : session.Silent)
    (hf : ∀ a, (f a).Silent) : (session >>= f).Silent := by
  intro world
  rw [exchanges_bind, hsession, hf, List.append_nil]

/-- A server has taken down the requests that reached it, in order. -/
theorem received_play (session : Session α) (world : World) :
    (session.play world).2.server.received =
      world.server.received ++
        ((session.exchanges world).map Prod.fst).filter world.server.isReached := by
  -- only asking changes the server, and it stays where it is
  induction session generalizing world with
  | done a => exact (List.append_nil _).symm
  | ask request next ih =>
    change ((next _).play
      { world with server := (world.server.answer request).2 }).2.server.received = _
    rw [ih, Server.received_answer, Server.isReached_answer, List.append_assoc,
      ← List.filter_append]
    rfl
  | readFile path next ih => exact ih _ _
  | findFile name next ih => exact ih _ _
  | readInput next ih => exact ih _ _
  | writeFile path content next ih => exact ih _ _

/-- Two worlds differ at most in what the servers have taken down. -/
structure World.Alike (world other : World) : Prop where
  /-- there are servers at the same URLs -/
  reaches : world.server.reaches = other.server.reaches
  /-- the same replies are to come -/
  replies : world.server.replies = other.server.replies
  /-- the files are the same -/
  folder : world.folder = other.folder
  /-- the input is the same -/
  input : world.input = other.input

/-- Worlds that are alike get the same answer and stay alike, since an answer depends on what a
server has left to say and not on what it has received. -/
theorem World.Alike.answer {world other : World} (h : world.Alike other) (request : Request) :
    (world.server.answer request).1 = (other.server.answer request).1 ∧
      World.Alike { world with server := (world.server.answer request).2 }
        { other with server := (other.server.answer request).2 } := by
  have hreached : world.server.isReached request = other.server.isReached request := by
    rw [Server.isReached, Server.isReached, h.reaches]
  rw [Server.answer, Server.answer, hreached, h.replies]
  split
  · exact ⟨rfl, h.reaches, rfl, h.folder, h.input⟩
  · exact ⟨rfl, h.reaches, h.replies, h.folder, h.input⟩

/-- In worlds that are alike a session does the same, and leaves worlds that are alike. -/
theorem play_of_alike (session : Session α) {world other : World} (h : world.Alike other) :
    (session.play world).1 = (session.play other).1 ∧
      session.exchanges world = session.exchanges other ∧
        (session.play world).2.Alike (session.play other).2 := by
  -- no step looks at what was taken down, so the worlds stay alike from step to step
  induction session generalizing world other with
  | done a => exact ⟨rfl, rfl, h⟩
  | ask request next ih =>
    obtain ⟨hreply, hafter⟩ := h.answer request
    obtain ⟨hresult, hsent, hleft⟩ := ih (other.server.answer request).1 hafter
    rw [play, play, exchanges, exchanges]
    dsimp only
    rw [hreply]
    exact ⟨hresult, congrArg (_ :: ·) hsent, hleft⟩
  | readFile path next ih =>
    rw [play, play, exchanges, exchanges, h.folder]
    exact ih _ h
  | findFile name next ih =>
    rw [play, play, exchanges, exchanges, h.folder]
    exact ih _ h
  | readInput next ih =>
    rw [play, play, exchanges, exchanges, h.input]
    exact ih _ ⟨h.reaches, h.replies, h.folder, rfl⟩
  | writeFile path content next ih =>
    rw [play, play, exchanges, exchanges, h.folder]
    exact ih _ ⟨h.reaches, h.replies, rfl, h.input⟩

end Session

end FlowScript
