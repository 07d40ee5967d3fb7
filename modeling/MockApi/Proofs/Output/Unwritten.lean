import MockApi.Proofs.Command.Ends
import MockApi.Proofs.Files.Tree
import MockApi.Proofs.Output.Run

/-! # Generations that write nothing

A generation writes nothing when the configuration or the document cannot be read, and when no
endpoint is selected. Then every file is as it was, unless the run is a clean one: this removes the
output folder as soon as the configuration is read, before it looks at the document.
-/

namespace MockApi

namespace Command

end Command

end MockApi
