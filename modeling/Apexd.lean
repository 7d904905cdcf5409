import Apexd.Lib.Prog
import Apexd.Lib.Service
import Apexd.Lib.Par
import Apexd.Lib.Text
import Apexd.Lib.Wire
import Apexd.Types
import Apexd.SessionWire
import Apexd.Database
import Apexd.Lib.OrderedMap
import Apexd.Lib.Path
import Apexd.Lib.Stream
import Apexd.DatabaseOps
import Apexd.World
import Apexd.Kernel
import Apexd.Utils
import Apexd.Session
import Apexd.SessionDir
import Apexd.SessionTorn
import Apexd.Rollback
import Apexd.RollbackCrash
import Apexd.RollbackRace
import Apexd.Mount
import Apexd.Verify
import Apexd.ApexKey
import Apexd.ApexVerity
import Apexd.VerityTable
import Apexd.ImageRange
import Apexd.ShimImage
import Apexd.ShimHash
import Apexd.Hooks
import Apexd.Activate
import Apexd.Populate
import Apexd.Stage
import Apexd.Requests
import Apexd.Frame
import Apexd.BuiltinPath
import Apexd.StageAtomic
import Apexd.StageResult
import Apexd.SessionFrame
import Apexd.SessionStates
import Apexd.SessionChanges
import Apexd.RollbackMode
import Apexd.RollbackResume
import Apexd.Backup
import Apexd.PopulateResult
import Apexd.NewestVersion
import Apexd.SmoothMount
import Apexd.ScanLatest
import Apexd.MountPoint
import Apexd.Unstage
import Apexd.StageFrame
import Apexd.Unmount
import Apexd.DanglingMounts
import Apexd.MountMirror
import Apexd.PackageInfo
import Apexd.Devices
import Apexd.LoopRace
import Apexd.MountFailure
import Apexd.HookMounts
import Apexd.MountStack
import Apexd.Cleanup
import Apexd.VersionTable
import Apexd.VersionMounts
import Apexd.VersionLines
import Apexd.VersionRuns
import Apexd.RestartLatest
import Apexd.MountLedger
import Apexd.StartSettles
import Apexd.Binder
import Apexd.Install
import Apexd.Daemon
import Apexd.Installed
import Apexd.Serving
import Apexd.Reboots
import Apexd.HookProcess
