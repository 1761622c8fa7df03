import PocCore.Machine.Bytes
import PocCore.Arithmetic.BaseUint
import PocCore.Arithmetic.Increment
import PocCore.Arithmetic.Bitwise
import PocCore.Consensus.Header
import PocCore.Consensus.Retarget
import PocCore.Consensus.RetargetBounds
import PocCore.Consensus.RunningAverage
import PocCore.Consensus.RetargetFaults
import PocCore.Consensus.RetargetMono
import PocCore.Consensus.RetargetSteady
import PocCore.Plot.Deadline
import PocCore.Plot.HashChain
import PocCore.Consensus.Verify
import PocCore.Consensus.AcceptedChain
import PocCore.Net.IcmpChecksum
import PocCore.Net.Pinger
import PocCore.Net.PingerRuns
import PocCore.Net.NetAddress
import PocCore.Net.Lookup
import PocCore.Net.AddrIdentity
import PocCore.Config.NetworkSelector
