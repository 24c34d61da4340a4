import PcodePanel.Display.RowBuilder
import PcodePanel.Catalog.Script
import PcodePanel.Emulation.Dispatcher
import PcodePanel.Picture
import PcodePanel.Session.Operation
import PcodePanel.Style.Html
import PcodePanel.Proofs.Session.Live
import PcodePanel.Proofs.Session.Wakeup
import PcodePanel.Proofs.Session.Order
import PcodePanel.Proofs.Session.Routes
import PcodePanel.Proofs.Session.Late
import PcodePanel.Proofs.Session.Torn
import PcodePanel.Proofs.Session.Label
import PcodePanel.Proofs.Session.OneRequest
import PcodePanel.Proofs.Session.Generation
import PcodePanel.Proofs.Session.Barred
import PcodePanel.Proofs.Session.Inline
import PcodePanel.Proofs.Catalog.Nesting
import PcodePanel.Proofs.Session.Events
import PcodePanel.Proofs.Session.Guise
import PcodePanel.Proofs.Session.Levels
import PcodePanel.Proofs.Session.Logging
import PcodePanel.Proofs.Session.Protocol
import PcodePanel.Proofs.Session.Typed
import PcodePanel.Proofs.Session.Stepping
import PcodePanel.Proofs.Session.RoundTrip
import PcodePanel.Proofs.Session.Idempotent
import PcodePanel.Proofs.Session.Eviction
import PcodePanel.Proofs.Pcode.Labels
import PcodePanel.Proofs.Pcode.Signed
import PcodePanel.Display.Formatter
import PcodePanel.Proofs.Display.Following
import PcodePanel.Proofs.Unique.Naming
import PcodePanel.Proofs.Display.Temporaries
import PcodePanel.Proofs.Display.Unambiguous
import PcodePanel.Proofs.Memory.LastWrite
import PcodePanel.Proofs.Unique.Overlapping
import PcodePanel.Proofs.Unique.Shown
import PcodePanel.Proofs.Unique.Collecting
import PcodePanel.Proofs.Unique.Suiting
import PcodePanel.Proofs.DataType.Foreign
import PcodePanel.Proofs.DataType.Integer
import PcodePanel.Proofs.Schedule
import PcodePanel.Proofs.Style.Markup
import PcodePanel.Proofs.Display.Highlight
import PcodePanel.Proofs.Display.Positions
import PcodePanel.Proofs.Display.Refusing
import PcodePanel.Proofs.Display.Building
import PcodePanel.Proofs.Binary64.Exact
import PcodePanel.Proofs.Emulation.Draining
import PcodePanel.Proofs.Style.Colors
import PcodePanel.Proofs.Style.Sheet
import PcodePanel.Proofs.Picture.Drawing
import PcodePanel.Proofs.Picture.Fitting
import PcodePanel.Proofs.Picture.Header
import PcodePanel.Proofs.Picture.Presenting
