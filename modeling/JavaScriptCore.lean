import JavaScriptCore.Value
import JavaScriptCore.Machine
import JavaScriptCore.Lemmas.Encoding
import JavaScriptCore.DFG.GeneralizedRegister
import JavaScriptCore.DFG.ShuffledRegister
import JavaScriptCore.DFG.JITCompiler
import JavaScriptCore.DFG.OSRExit
import JavaScriptCore.WTF.Threading
import JavaScriptCore.WTF.PageBlock
import JavaScriptCore.WTF.ThreadIdentifiers
import JavaScriptCore.Theorems.Moves
import JavaScriptCore.Theorems.ReverseMaps
import JavaScriptCore.Theorems.Fill
import JavaScriptCore.Theorems.Walks
import JavaScriptCore.Theorems.GPRShuffle
import JavaScriptCore.Theorems.Links
import JavaScriptCore.Theorems.Spill
import JavaScriptCore.Theorems.Resolve
import JavaScriptCore.Theorems.Permutations
import JavaScriptCore.Theorems.Bridge
import JavaScriptCore.Theorems.RoundTrip
import JavaScriptCore.Theorems.Recovery
import JavaScriptCore.Theorems.SpeculationChecks
import JavaScriptCore.Theorems.Scratch
import JavaScriptCore.Theorems.Displaced
import JavaScriptCore.Theorems.Classify
import JavaScriptCore.Theorems.ExitSteps
import JavaScriptCore.Theorems.ExitValues
import JavaScriptCore.Theorems.LinkStores
import JavaScriptCore.Theorems.PinnedRegisters
import JavaScriptCore.Theorems.FastPaths
