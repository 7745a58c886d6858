import GdoBlaq.Lts.Stamp
import GdoBlaq.RetryBudget
import GdoBlaq.RetryLaw
import GdoBlaq.Control.Firmware
import GdoBlaq.Control.Door
import GdoBlaq.Control.Requests
import GdoBlaq.Control.Settings
import GdoBlaq.Control.Automatic
import GdoBlaq.Control.Watchdog
import GdoBlaq.Lts.Machine
import GdoBlaq.Control.World
import GdoBlaq.Control.Effect
import GdoBlaq.Control.Cancellation
import GdoBlaq.Control.Setters
import GdoBlaq.Control.LegalRange
import GdoBlaq.Control.Restore
import GdoBlaq.Control.Pairing
import GdoBlaq.Control.OncePerWindow
import GdoBlaq.Control.Retries
import GdoBlaq.Control.UserSlot
import GdoBlaq.Control.AutoClose
import GdoBlaq.Control.OpenTimer
import GdoBlaq.Control.ScheduledClose
import GdoBlaq.Control.AutoCloseFlag
import GdoBlaq.Control.Transition
import GdoBlaq.Control.Target
import GdoBlaq.Lts.Channel
import GdoBlaq.HomeKit.Hub
import GdoBlaq.HomeKit.Delivery
import GdoBlaq.HomeKit.Shown
import GdoBlaq.HomeKit.DoorWrite
import GdoBlaq.HomeKit.Reoffer
import GdoBlaq.HomeKit.DroppedTarget
import GdoBlaq.Web.Confirm
import GdoBlaq.Web.Form
import GdoBlaq.Web.SettingsPages
import GdoBlaq.Web.BootSlot
import GdoBlaq.Web.Refusal
import GdoBlaq.Control.Rejected
import GdoBlaq.Control.Commands
import GdoBlaq.Control.Arbiter
import GdoBlaq.Control.HistoryCloses
import GdoBlaq.Control.HistoryDoor
import GdoBlaq.Control.Sync
import GdoBlaq.Control.Seeds
import GdoBlaq.Control.Durable
import GdoBlaq.Control.ShownCountdown
import GdoBlaq.Control.Beeper
import GdoBlaq.Control.ProtocolGate
import GdoBlaq.Schedule.Timeline
import GdoBlaq.Schedule.Gregorian
import GdoBlaq.Schedule.CivilDays
import GdoBlaq.Schedule.TimezoneScan
import GdoBlaq.Web.FormMemory
import GdoBlaq.Web.SaveSchedule
import GdoBlaq.Web.Provisioning
import GdoBlaq.HomeKit.Superseded
import GdoBlaq.HomeKit.NoJump
import GdoBlaq.HomeKit.Sessions
import GdoBlaq.Web.Restart
import GdoBlaq.Web.LocalHost
import GdoBlaq.Web.OwnPage
import GdoBlaq.Web.SettingsForms
import GdoBlaq.Web.JsonEscape
import GdoBlaq.Web.Status
import GdoBlaq.Web.SetupPage
