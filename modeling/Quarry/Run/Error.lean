import Quarry.Buffer.Store
import Quarry.Download.Batch
import Quarry.Value.Arithmetic

/-!
The errors that end a run.
-/

namespace Quarry

inductive RunError where
  | download (error : DownloadError)
  | selector (source : String)
  | pattern (source : String)
  | operator (error : OperatorError)
  | store (error : StoreError)
  | width (error : WidthError)
deriving DecidableEq

def RunError.message : RunError → String
  | download error => error.message
  | selector source => s!"invalid selector '{source}'"
  | pattern source => s!"invalid regular expression '{source}'"
  | operator error => error.message
  | store error => error.message
  | width error => error.message

end Quarry
