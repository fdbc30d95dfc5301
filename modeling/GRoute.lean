import GRoute.Curve25519.Correctness
import GRoute.Link.UserLink
import GRoute.Link.Vmess
import GRoute.Link.Shadowsocks
import GRoute.Link.Hysteria2
import GRoute.Link.Credentials
import GRoute.SubscriptionFetcher
import GRoute.ConfigBuilder.TestImport
import GRoute.ConfigBuilder.Sniffing
import GRoute.ConfigBuilder.WireguardFile
import GRoute.AutoSelector
import GRoute.Connect.Tor
import GRoute.Connect.Agree
import GRoute.ConfigStore.Integrity
import GRoute.ConfigStore.Selection
import GRoute.ConfigStore.Refresh
import GRoute.ConfigStore.Startup
import GRoute.ConfigStore.Storage
import GRoute.ConfigStore.Locked
import GRoute.ConfigStore.Duplicates
import GRoute.ConfigStore.Unchanged
import GRoute.ConfigShare.Actions
import GRoute.ConfigFile.Backup
import GRoute.VpnService.Agreement
import GRoute.VpnService.KillSwitch
import GRoute.VpnService.PerApp
import GRoute.VpnService.Setting
import GRoute.IkeController
import GRoute.UsageStore.Hours
import GRoute.UsageStore.Ranges
import GRoute.UsageStore.Direct
import GRoute.Polling
import GRoute.Connect.PinEdits
import GRoute.Connect.Commands
import GRoute.ManualConfig
import GRoute.LogsScreen
import GRoute.Quota
import GRoute.DebugRunner
import GRoute.SshManager
import GRoute.Curve25519.Exact
import GRoute.Curve25519.Inversion
import GRoute.FreeConfigs
import GRoute.Flags
import GRoute.UpdateChecker
import GRoute.SshShell
import GRoute.LocalShell
import GRoute.Curve25519.Group
import GRoute.AutoSelector.Rounds
import GRoute.Gozarcore
import GRoute.UsageStore.Texts
