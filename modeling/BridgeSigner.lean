import BridgeSigner.Foundation.Execution
import BridgeSigner.Foundation.SignOnce
import BridgeSigner.Foundation.Bytes
import BridgeSigner.Foundation.Abi
import BridgeSigner.Foundation.Text
import BridgeSigner.Foundation.Json
import BridgeSigner.Foundation.HostPort
import BridgeSigner.Consensus.Primary
import BridgeSigner.Server.ReplayGuard
import BridgeSigner.Server.Status
import BridgeSigner.Server.Checkpoint
import BridgeSigner.Server.CheckpointRepeat
import BridgeSigner.Server.CheckpointDraw
import BridgeSigner.Consensus.DialRun
import BridgeSigner.Consensus.FailBack
import BridgeSigner.Consensus.Rejection
import BridgeSigner.Server.Handlers
import BridgeSigner.Consensus.Tenure
import BridgeSigner.Server.GuardAdvance
import BridgeSigner.Server.ValidatorSet
import BridgeSigner.Server.Separation
import BridgeSigner.Signer.SigUtils
import BridgeSigner.Consensus.HandOver
import BridgeSigner.Config.Load
import BridgeSigner.Daemon.StateFiles
import BridgeSigner.Consensus.Hosts
import BridgeSigner.Daemon.Targets
import BridgeSigner.Metrics.ActiveNode
import BridgeSigner.Server.GuardFile
import BridgeSigner.Foundation.AbiCodec
import BridgeSigner.Server.Encodings
import BridgeSigner.Consensus.FilePV
import BridgeSigner.Signer.AtomicWrite
import BridgeSigner.Consensus.InitRace
import BridgeSigner.Server.PowerLossSafety
import BridgeSigner.Daemon.Shutdown
import BridgeSigner.Metrics.TargetConnected
import BridgeSigner.Signer.Keyring
import BridgeSigner.Consensus.ConnKey
import BridgeSigner.Consensus.Exchange
import BridgeSigner.Server.Released
import BridgeSigner.Daemon.DurableGuard
import BridgeSigner.Daemon.Export
