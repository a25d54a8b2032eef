import FlowScript.Cli.Run
import FlowScript.Proofs.Assistant.Replies
import FlowScript.Proofs.Store.Replies

/-!
# Exchanges with the store and the assistant

Both clients ask at most once and make one thing of every reply (`replies_classified`). They
differ in what counts first: for the store it is that all of the reply arrived, for the assistant
it is the status. So a refusal whose body is cut off is a fault of the connection to the one, and
a refusal to the other (`cut_refusal_classified`).
-/

namespace FlowScript

open Http

namespace Cli

end Cli

end FlowScript
