import HuaweiY5.Bluetooth.HandshakeLaw
import HuaweiY5.Bluetooth.Provisioned
import HuaweiY5.Fm.Cancel
import HuaweiY5.Fm.Configuration
import HuaweiY5.Fm.Frequency
import HuaweiY5.Fm.OpenTuner
import HuaweiY5.Fm.Program
import HuaweiY5.Fm.RdsText
import HuaweiY5.Fm.SeekBand
import HuaweiY5.Fm.Switches
import HuaweiY5.Gem.DrawLine
import HuaweiY5.Gem.RingBuffer
import HuaweiY5.GpsHal.Resync
import HuaweiY5.GuiExt.DeathRace
import HuaweiY5.GuiExt.DumpTunnels
import HuaweiY5.GuiExt.Holders
import HuaweiY5.GuiExt.Leaks
import HuaweiY5.GuiExt.Service
import HuaweiY5.GuiExt.Shadow
import HuaweiY5.GuiExt.SlotKeys
import HuaweiY5.Lights.Leds
import HuaweiY5.Mnld.AtSamples
import HuaweiY5.Mnld.EpoMerge
import HuaweiY5.Mnld.NmeaRace
import HuaweiY5.Mnld.PingPangLog
import HuaweiY5.Mnld.PingPangShutdown
import HuaweiY5.Mnld.Qepo
import HuaweiY5.Mnld.ResetAck
import HuaweiY5.Msg.Hal2MnlBounds
import HuaweiY5.Msg.Mnl2Hal
import HuaweiY5.Msg.MnlAgps
import HuaweiY5.Nmea.Date
import HuaweiY5.Nmea.GsvSets
import HuaweiY5.Nmea.Satellites
import HuaweiY5.Ril.DataCall
import HuaweiY5.Ril.EccCategory
import HuaweiY5.Ril.EccXml
import HuaweiY5.Ril.RadioPower
import HuaweiY5.Sensors.BatchRecords
import HuaweiY5.Sensors.Enabled
import HuaweiY5.Sensors.FlushRace
import HuaweiY5.Wifi.EventLoop
import HuaweiY5.Wifi.NlEvent
import HuaweiY5.Wifi.Receiver
import HuaweiY5.Fm.SwScan
import HuaweiY5.Wifi.DriverCmd
