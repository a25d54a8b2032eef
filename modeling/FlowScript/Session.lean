import FlowScript.Folder
import FlowScript.Http.Dialogue

/-!
# Sessions

A computation that deals with all that is outside: servers, files and the input. Like a
dialogue it is a tree, with a node for each thing that it may ask for; a dialogue is a
session that leaves files and input alone.

* `Session.play` takes a session through a `World`, which is what it finds outside, and
  gives the world that it leaves behind.
-/

namespace FlowScript

open Http

/-- A computation of an `α` that may deal with what is outside. -/
inductive Session (α : Type) where
  /-- the computation is over -/
  | done (result : α)
  /-- a request is sent -/
  | ask (request : Request) (next : Reply → Session α)
  /-- a file is read -/
  | readFile (path : String) (next : Except FileFault (List UInt8) → Session α)
  /-- a file of a name is looked for, in one folder above the other, and read -/
  | findFile (name : String) (next : Option (List UInt8) → Session α)
  /-- all of the input is read -/
  | readInput (next : List UInt8 → Session α)
  /-- a file is written -/
  | writeFile (path : String) (content : List UInt8) (next : Except FileFault Unit → Session α)

namespace Session

/-- Continues a session with another. -/
protected def bind {α β : Type} : Session α → (α → Session β) → Session β
  | .done a, f => f a
  | .ask request next, f => .ask request fun reply => (next reply).bind f
  | .readFile path next, f => .readFile path fun content => (next content).bind f
  | .findFile name next, f => .findFile name fun content => (next content).bind f
  | .readInput next, f => .readInput fun content => (next content).bind f
  | .writeFile path content next, f => .writeFile path content fun written => (next written).bind f

instance : Monad Session where
  pure := .done
  bind := Session.bind

/-- A dialogue as a session. -/
def ofDialogue {α : Type} : Dialogue α → Session α
  | .done a => .done a
  | .ask request next => .ask request fun reply => ofDialogue (next reply)

/-! ### Worlds -/

/-- What a session finds outside. -/
structure World where
  /-- the servers that can be reached, as one -/
  server : Dialogue.Server
  /-- the files -/
  folder : Folder := { }
  /-- the input that has not been read -/
  input : List UInt8 := []

/-- Takes a session through a world. -/
def play {α : Type} : Session α → World → α × World
  | .done a, world => (a, world)
  | .ask request next, world =>
    let (reply, server) := world.server.answer request
    (next reply).play { world with server }
  | .readFile path next, world => (next (world.folder.read path)).play world
  | .findFile name next, world => (next (world.folder.find? name)).play world
  | .readInput next, world => (next world.input).play { world with input := [] }
  | .writeFile path content next, world =>
    let (written, folder) := world.folder.write path content
    (next written).play { world with folder }

end Session

end FlowScript
