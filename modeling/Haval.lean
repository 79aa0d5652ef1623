import Haval.Word
import Haval.Boolean
import Haval.State
import Haval.Passes
import Haval.Core
import Haval.Output
import Haval.Block
import Haval.Chain
