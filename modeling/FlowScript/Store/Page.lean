import FlowScript.Json.Decoder
import FlowScript.Json.Printer
import FlowScript.Time.Instant
import FlowScript.Workflow.Encoding

/-!
# Pages of workflow lists

The store lists its workflows page by page. What is asked for is a choice of workflows
and a place to go on from; what comes is a page of summaries and the next place.
-/

namespace FlowScript

namespace Store

open Json

/-! ### What is asked for -/

/-- Which workflows to list, and how many. -/
structure ListOptions where
  /-- only those that are switched on, or off -/
  active : Option Bool := none
  /-- only those of a name -/
  name : Option String := none
  /-- how many at most -/
  limit : Option Nat := none
  /-- where to go on -/
  cursor : Option String := none
deriving DecidableEq

/-- The options that are set, as parameters. -/
def ListOptions.pairs (options : ListOptions) : List (String × String) :=
  [("active", options.active.map fun active => if active then "true" else "false"),
    ("name", options.name), ("limit", options.limit.map toString),
    ("cursor", options.cursor)].filterMap fun (key, value) => value.map fun text => (key, text)

/-! ### What comes -/

/-- A workflow in a list. -/
structure Summary where
  /-- the identifier -/
  id : String
  /-- the name -/
  name : String := ""
  /-- whether it is switched on -/
  active : Bool := false
  /-- when it was made -/
  createdAt : Option Instant := none
  /-- when it was last changed -/
  updatedAt : Option Instant := none
deriving DecidableEq

/-- A page of a list. -/
structure Page where
  /-- the workflows on the page -/
  data : List Summary := []
  /-- where to go on -/
  nextCursor : Option String := none
deriving DecidableEq

/-- Reads a point in time. -/
def instantDecoder : Decoder Instant :=
  .stringAs "an RFC 3339 formatted date and time string" fun text =>
    (Instant.parse text).mapError Instant.Fault.message

/-- Reads a summary. -/
def Summary.decoder : Decoder Summary :=
  .record "WorkflowSummary"
    [.mandatory "id" .text fun value summary => { summary with id := value },
      .withDefault "name" .text fun value summary => { summary with name := value },
      .withDefault "active" .flag fun value summary => { summary with active := value },
      .withDefault "createdAt" (.optional instantDecoder)
        fun value summary => { summary with createdAt := value },
      .withDefault "updatedAt" (.optional instantDecoder)
        fun value summary => { summary with updatedAt := value }]
    { id := "" }

/-- Reads a page. -/
def Page.decoder : Decoder Page :=
  .record "ListWorkflowsResult"
    [.withDefault "data" (.list Summary.decoder) fun value page => { page with data := value },
      .withDefault "nextCursor" (.optional .text)
        fun value page => { page with nextCursor := value }]
    { }

/-- Writes a point in time. -/
def instantValue (instant : Instant) : Value := .str instant.text

/-- Writes a summary. -/
def Summary.toValue (summary : Summary) : Value :=
  .obj ([("id", .str summary.id), ("name", .str summary.name),
      ("active", .bool summary.active)] ++
    Members.optional "createdAt" (summary.createdAt.map instantValue) ++
    Members.optional "updatedAt" (summary.updatedAt.map instantValue))

/-- Writes a page. -/
def Page.toValue (page : Page) : Value :=
  .obj (("data", .arr (page.data.map Summary.toValue)) ::
    Members.optional "nextCursor" (page.nextCursor.map .str))

end Store

end FlowScript
