import UbloxCellular.Driver.Discipline
import UbloxCellular.Gsm.Discipline
import UbloxCellular.Gsm.Receive
import UbloxCellular.Gsm.RecvBuffer
import UbloxCellular.Gsm.RecvEnds
import UbloxCellular.Gsm.Datagrams
import UbloxCellular.Gsm.PendingCount
import UbloxCellular.Gsm.SendAll
import UbloxCellular.Gsm.Activation
import UbloxCellular.Gsm.SocketOwners
import UbloxCellular.Gsm.SocketTable
import UbloxCellular.Gsm.Profile
import UbloxCellular.Gsm.Authentication
import UbloxCellular.Gsm.Sim
import UbloxCellular.Gsm.PinAttempts
import UbloxCellular.Gsm.Registration
import UbloxCellular.Gsm.Baud
import UbloxCellular.Gsm.ReadLine
import UbloxCellular.N2xx.Discipline
import UbloxCellular.N2xx.Pending
import UbloxCellular.N2xx.Datagram
import UbloxCellular.N2xx.HexCodec
import UbloxCellular.N2xx.Commands
import UbloxCellular.Driver.Conversions
import UbloxCellular.Interaction.Solo
import UbloxCellular.Gsm.Strings
import UbloxCellular.Gauge.Seal
import UbloxCellular.Gauge.Power
import UbloxCellular.Gauge.Range
import UbloxCellular.Gauge.Flags
import UbloxCellular.Gauge.Readings
import UbloxCellular.Gauge.Retry
import UbloxCellular.Gauge.Corruption
import UbloxCellular.Ppp.Connect
import UbloxCellular.Ppp.Link
import UbloxCellular.Ppp.Settings
import UbloxCellular.Ppp.Agreement
import UbloxCellular.Interaction.Part
import UbloxCellular.Gauge.Percentage
import UbloxCellular.Gsm.Endings
import UbloxCellular.Gsm.Supply
import UbloxCellular.Gsm.Identity
import UbloxCellular.App.System
import UbloxCellular.App.Session
import UbloxCellular.Gsm.Search
import UbloxCellular.Gauge.Sharing
import UbloxCellular.App.Supply
import UbloxCellular.App.Refresh
import UbloxCellular.App.Ending
import UbloxCellular.N2xx.Echo
import UbloxCellular.Ppp.Mode
import UbloxCellular.App.Level
import UbloxCellular.Gsm.Reports
import UbloxCellular.Gsm.UrcLines
import UbloxCellular.Gsm.Sharing
