import DeviceControl.Library.Transducer
import DeviceControl.Library.Buffer
import DeviceControl.Control.Shared
import DeviceControl.Control.ResourceTable
import DeviceControl.Control.Device
import DeviceControl.Control.I2c
import DeviceControl.Control.Request
import DeviceControl.Control.Spi
import DeviceControl.Control.System
import DeviceControl.Control.Calls
import DeviceControl.Safety.Routing
import DeviceControl.I2c.Frame
import DeviceControl.I2c.History
import DeviceControl.I2c.Write
import DeviceControl.I2c.Read
import DeviceControl.Host.Support
import DeviceControl.I2c.Status
import DeviceControl.I2c.Payload
import DeviceControl.Spi.Frame
import DeviceControl.Spi.Write
import DeviceControl.Spi.Read
import DeviceControl.Spi.Status
import DeviceControl.Safety.Direction
import DeviceControl.Host.Command
import DeviceControl.Host.Independence
import DeviceControl.I2c.OverRead
import DeviceControl.Spi.Payload
import DeviceControl.Spi.Recovery
import DeviceControl.Spi.Served
import DeviceControl.Usb.Status
import DeviceControl.Xscope.Upload
import DeviceControl.Xscope.Residue
import DeviceControl.Control.Adapters
import DeviceControl.Host.Xscope
import DeviceControl.Xscope.RoundTrip
import DeviceControl.Xscope.HostRead
import DeviceControl.Host.ReadStatus
import DeviceControl.Library.Claims
import DeviceControl.Library.Loop
import DeviceControl.Control.Registration
import DeviceControl.Library.ClaimOrder
import DeviceControl.Control.FirstClaim
import DeviceControl.I2c.Length
import DeviceControl.Usb.Receive
import DeviceControl.Usb.Vendor
import DeviceControl.Usb.Payload
import DeviceControl.Host.Write
import DeviceControl.Host.WriteStatus
import DeviceControl.Host.Transfers
import DeviceControl.Host.ReadWriteBit
import DeviceControl.Host.Refusal
import DeviceControl.Usb.Transfer
import DeviceControl.Host.SpiBuilder
import DeviceControl.Host.NullPayload
import DeviceControl.Library.Interleaving
import DeviceControl.Library.Abort
import DeviceControl.Library.Delivery
import DeviceControl.Control.App
import DeviceControl.Session.Server
import DeviceControl.Session.Replay
import DeviceControl.Session.Commands
import DeviceControl.Session.Interleaved
import DeviceControl.Session.App
import DeviceControl.Session.Special
import DeviceControl.Usb.Endpoint0
import DeviceControl.Link.Host
import DeviceControl.Link.I2c
import DeviceControl.Link.Spi
import DeviceControl.Link.Usb
import DeviceControl.Link.Xscope
import DeviceControl.Link.Ideal
import DeviceControl.Link.Session
import DeviceControl.Link.Refused
import DeviceControl.Link.Mixed
import DeviceControl.Link.Endpoint0
import DeviceControl.Link.Example
import DeviceControl.Faults.Link
import DeviceControl.Faults.I2c
import DeviceControl.Faults.Usb
import DeviceControl.Faults.Session
