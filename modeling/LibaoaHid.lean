import LibaoaHid.Hid.Usages
import LibaoaHid.Hid.DescriptorBuilder
import LibaoaHid.Api.Internal
import LibaoaHid.Profiles.SpecChecks
import LibaoaHid.Profiles.ControlSpecs
import LibaoaHid.Profiles.DigitizerSpecs
import LibaoaHid.Profiles.Serializer
import LibaoaHid.Profiles.Mutators
import LibaoaHid.Profiles.Completion
import LibaoaHid.Api.NodeState
import LibaoaHid.Api.Submit
import LibaoaHid.Api.System
import LibaoaHid.Foundation.Bits
import LibaoaHid.Profiles.StoredBits
import LibaoaHid.Hid.BuilderFacts
import LibaoaHid.Profiles.Accepted
import LibaoaHid.Profiles.Layouts
import LibaoaHid.Profiles.NullEncoding
import LibaoaHid.Profiles.SoundSpecs
import LibaoaHid.Profiles.Serialization
import LibaoaHid.Profiles.StateFits
import LibaoaHid.Profiles.SelectedValues
import LibaoaHid.Profiles.RawSpecs
import LibaoaHid.Profiles.Readings
import LibaoaHid.Profiles.CallSteps
import LibaoaHid.Profiles.CallBodies
import LibaoaHid.Profiles.FitsPreserved
import LibaoaHid.Api.NodeFits
import LibaoaHid.Api.SubmitFacts
import LibaoaHid.Api.Moves
import LibaoaHid.Api.Reachable
import LibaoaHid.Api.CallFrames
import LibaoaHid.Api.Motion
import LibaoaHid.Api.MouseDrain
import LibaoaHid.Profiles.Controls
import LibaoaHid.Api.Edges
import LibaoaHid.Foundation.Held
import LibaoaHid.Profiles.TouchReports
import LibaoaHid.Profiles.TwoPasses
import LibaoaHid.Api.TouchRuns
import LibaoaHid.Api.Neutral
import LibaoaHid.Api.Closing
import LibaoaHid.Api.Lifecycle
import LibaoaHid.Api.NotApplied
import LibaoaHid.Api.ReportLog
import LibaoaHid.Api.PenTools
import LibaoaHid.Api.PartialEdges
import LibaoaHid.Api.Frames
import LibaoaHid.Api.Delivery
import LibaoaHid.Api.LiveClose
import LibaoaHid.Api.DeviceClose
import LibaoaHid.Api.DeviceNeutral
import LibaoaHid.Api.FirstPackets
import LibaoaHid.Api.RawGate
import LibaoaHid.Api.RawSubmit
import LibaoaHid.Api.CompletionLog
import LibaoaHid.Api.Completions
import LibaoaHid.Foundation.ShortItems
import LibaoaHid.Foundation.ReportDescriptors
import LibaoaHid.Hid.RawParser
import LibaoaHid.Hid.ItemLoop
import LibaoaHid.Hid.ItemRoundTrips
import LibaoaHid.Hid.Items
import LibaoaHid.Hid.Emission
import LibaoaHid.Hid.Programs
import LibaoaHid.Hid.FieldSpans
import LibaoaHid.Hid.ProgramReadings
import LibaoaHid.Hid.ProgramRuns
import LibaoaHid.Hid.ProgramSpans
import LibaoaHid.Hid.ProgramParses
import LibaoaHid.Profiles.Programs
import LibaoaHid.Profiles.ValidPrograms
import LibaoaHid.Profiles.Blueprints
import LibaoaHid.Profiles.Descriptors
import LibaoaHid.Profiles.Spans
import LibaoaHid.Transport.Usb
import LibaoaHid.Transport.Device
import LibaoaHid.Transport.Pool
import LibaoaHid.Transport.PoolRuns
import LibaoaHid.Transport.PoolStarvation
import LibaoaHid.Transport.DeviceLoss
import LibaoaHid.Transport.Registration
import LibaoaHid.Transport.Ports
import LibaoaHid.Transport.PortClaims
import LibaoaHid.Transport.PortRuns
import LibaoaHid.Transport.Accessory
import LibaoaHid.Foundation.IndexRing
import LibaoaHid.Foundation.Counts
import LibaoaHid.Transport.Channel
import LibaoaHid.Transport.ChannelWrites
import LibaoaHid.Transport.ChannelSlots
import LibaoaHid.Transport.ChannelReads
import LibaoaHid.Hid.RawSound
import LibaoaHid.Api.NodeOpen
import LibaoaHid.Transport.Traffic
import LibaoaHid.Api.Lifetimes
import LibaoaHid.Api.Balance
import LibaoaHid.Api.HidIds
import LibaoaHid.Foundation.Places
import LibaoaHid.Api.Teardown
import LibaoaHid.Api.GraphTraffic
import LibaoaHid.Api.TeardownRuns
import LibaoaHid.Foundation.Mailbox
import LibaoaHid.Api.DeferredErrors
import LibaoaHid.Api.ContextDestroy
import LibaoaHid.Transport.Discovery
import LibaoaHid.Transport.BulkInterface
import LibaoaHid.Api.DeviceOptions
import LibaoaHid.Api.OptionRuns
import LibaoaHid.Api.AccessoryStart
