import InfJupInterface.Amm.FailedUpdate
import InfJupInterface.Amm.Construction
import InfJupInterface.Amm.SplLsts
import InfJupInterface.Amm.SwapTest
import InfJupInterface.Amm.View
import InfJupInterface.Inf1Std.Reference
import InfJupInterface.Amm.MissingSpl
import InfJupInterface.Amm.MissingAccount
