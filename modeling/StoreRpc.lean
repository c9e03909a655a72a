import StoreRpc.Main
import StoreRpc.Shape
import StoreRpc.Wire.Buffer
import StoreRpc.Proofs.Wire.Exact
import StoreRpc.Proofs.Property.RoundTrip
import StoreRpc.Proofs.Restriction.Grammar
import StoreRpc.Proofs.Restriction.Readable
import StoreRpc.Proofs.Network.Run
import StoreRpc.Proofs.Transport.InStep
import StoreRpc.Proofs.Network.Transcript
import StoreRpc.Proofs.Transport.Transcript
import StoreRpc.Proofs.Client.Transcript
import StoreRpc.Proofs.Client.Handshake
import StoreRpc.Proofs.Transport.Buffered
import StoreRpc.Proofs.Property.Delimited
import StoreRpc.Proofs.Message.Nesting
import StoreRpc.Proofs.Shape.Delimited
import StoreRpc.Proofs.Message.Grammar
import StoreRpc.Proofs.Request.Checks
import StoreRpc.Proofs.Wire.PrefixFree
import StoreRpc.Proofs.Request.Unambiguous
import StoreRpc.Proofs.Client.Reconnect
import StoreRpc.Proofs.Buffer.InBounds
import StoreRpc.Proofs.Buffer.Queue
import StoreRpc.Proofs.Transport.Frames
import StoreRpc.Proofs.Store.Tables
import StoreRpc.Proofs.Transport.Arrival
import StoreRpc.Proofs.Shape.Accurate
import StoreRpc.Proofs.Shape.Cost
import StoreRpc.Proofs.Store.DeviceSync
import StoreRpc.Proofs.Property.Reachable
import StoreRpc.Proofs.Store.Rows
import StoreRpc.Proofs.Store.Changes
import StoreRpc.Proofs.Store.ChangeKey
import StoreRpc.Proofs.Property.Layout
import StoreRpc.Proofs.Property.NameWire
import StoreRpc.Proofs.Filetime.Unix
import StoreRpc.Proofs.Guid.EntryId
import StoreRpc.Proofs.Property.TagText
import StoreRpc.Proofs.Guid.Text
import StoreRpc.Proofs.Property.Display
