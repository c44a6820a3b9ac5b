import HueEntertainment.Runs
import HueEntertainment.Const
import HueEntertainment.PyValue
import HueEntertainment.HueStream
import HueEntertainment.LightCommand
import HueEntertainment.Entertainment
import HueEntertainment.EngineSteps
import HueEntertainment.EngineFrames
import HueEntertainment.DrainSteps
import HueEntertainment.EngineMoves
import HueEntertainment.EngineHistory
import HueEntertainment.PauseRelease
import HueEntertainment.Suppression
import HueEntertainment.DrainTask
import HueEntertainment.SnapshotLedger
import HueEntertainment.SavedStates
import HueEntertainment.EngineSlots
import HueEntertainment.ClassicCalls
import HueEntertainment.Picture
import HueEntertainment.SlotMerge
import HueEntertainment.Coalescing
import HueEntertainment.ApiAgreement
import HueEntertainment.WatchdogCoverage
import HueEntertainment.BegunRestore
import HueEntertainment.FrameCodec
import HueEntertainment.Addressing
import HueEntertainment.ColorModes
import HueEntertainment.SlotHistory
import HueEntertainment.SlotOrigin
import HueEntertainment.DrainWake
import HueEntertainment.SlotLedger
import HueEntertainment.Mailbox
import HueEntertainment.DtlsServer
import HueEntertainment.Listeners
import HueEntertainment.ReleasedRoom
import HueEntertainment.Unload
import HueEntertainment.FreshColor
import HueEntertainment.ClassicBody
import HueEntertainment.RoundRobin
import HueEntertainment.Pairing
import HueEntertainment.PairingDurability
import HueEntertainment.PairingDialog
import HueEntertainment.WatchdogClock
import HueEntertainment.SessionLoop
import HueEntertainment.SessionModel
import HueEntertainment.PauseTransparency
import HueEntertainment.ApiServer
import HueEntertainment.Strangers
import HueEntertainment.ClassicErrors
import HueEntertainment.Replies
import HueEntertainment.ApiSteps
import HueEntertainment.BridgeId
import HueEntertainment.EntrySetup
import HueEntertainment.PairingWizard
import HueEntertainment.WatchdogBounds
import HueEntertainment.HttpHost
import HueEntertainment.EntryUsers
import HueEntertainment.DtlsThread
import HueEntertainment.FrameOrder
import HueEntertainment.ServiceCalls
import HueEntertainment.Provenance
import HueEntertainment.OptionsFlow
import HueEntertainment.DeferredStart
import HueEntertainment.Clocks
import HueEntertainment.Pacing
import HueEntertainment.ClassicEnd
import HueEntertainment.StopEnd
import HueEntertainment.BridgeRest
