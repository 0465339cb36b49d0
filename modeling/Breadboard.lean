import Breadboard.Clocking.Hub
import Breadboard.Clocking.Interval
import Breadboard.Clocking.RedrawSlot
import Breadboard.Clocking.Ticker
import Breadboard.Console.Draw
import Breadboard.Console.EventLoop
import Breadboard.Console.Frame
import Breadboard.Console.FrameWatch
import Breadboard.Console.Key
import Breadboard.Console.Press
import Breadboard.Console.State
import Breadboard.Console.Tick
import Breadboard.Control.Bus
import Breadboard.Control.Line
import Breadboard.Control.LineRule
import Breadboard.Control.Matrix
import Breadboard.Control.Phase
import Breadboard.Control.Word
import Breadboard.Editing.Edit
import Breadboard.Editing.Editor
import Breadboard.Files.FileError
import Breadboard.Files.FileTree
import Breadboard.Files.Path
import Breadboard.Files.Session
import Breadboard.Instruction.AddressMode
import Breadboard.Instruction.Catalogue
import Breadboard.Instruction.Codec
import Breadboard.Instruction.Description
import Breadboard.Instruction.Eprom
import Breadboard.Instruction.Opcode
import Breadboard.Instruction.Shape
import Breadboard.Instruction.Stroke
import Breadboard.Instruction.Table
import Breadboard.Instruction.TableFile
import Breadboard.Json.Basic
import Breadboard.Json.Decode
import Breadboard.Json.Document
import Breadboard.Json.Token
import Breadboard.Log.Directive
import Breadboard.Log.Event
import Breadboard.Log.Filter
import Breadboard.Log.History
import Breadboard.Log.Origin
import Breadboard.Log.ValueTest
import Breadboard.Main
import Breadboard.Memory.Basic
import Breadboard.Memory.BreakPoints
import Breadboard.Memory.Cursor
import Breadboard.Memory.Listing
import Breadboard.Memory.RomFile
import Breadboard.Memory.Store
import Breadboard.Pattern.Basic
import Breadboard.Pattern.CharSet
import Breadboard.Pattern.Class
import Breadboard.Pattern.Escape
import Breadboard.Pattern.Machine
import Breadboard.Pattern.Mode
import Breadboard.Pattern.Reader
import Breadboard.Program.Arguments
import Breadboard.Program.Execute
import Breadboard.Program.Options
import Breadboard.Settings.Config
import Breadboard.Settings.ConfigFile
import Breadboard.Text.Alphanumeric
import Breadboard.Text.Blank
import Breadboard.Text.Decimal
import Breadboard.Text.Hex
import Breadboard.Text.Quoted
import Breadboard.Text.Unshown
import Breadboard.Text.Utf8
import Breadboard.Wire.Bench
import Breadboard.Wire.Demux
import Breadboard.Wire.HardwareEvent
import Breadboard.Wire.Link
import Breadboard.Wire.LinkError
import Breadboard.Wire.Request
import Breadboard.Wire.SimBoard
import Breadboard.Wire.Tag
import Breadboard.Proofs.Routing
import Breadboard.Proofs.BuiltinTable
import Breadboard.Proofs.LineEdit
import Breadboard.Proofs.RepeatedEdits
import Breadboard.Proofs.ConsoleRun
import Breadboard.Proofs.EditRun
import Breadboard.Proofs.EpromLayout
import Breadboard.Proofs.FileReadBack
import Breadboard.Proofs.InboundStream
import Breadboard.Proofs.JsonDocument
import Breadboard.Proofs.JsonEnding
import Breadboard.Proofs.JsonReaders
import Breadboard.Proofs.JsonTokens
import Breadboard.Proofs.LinkRun
import Breadboard.Proofs.StaleOpcode
import Breadboard.Proofs.SavedTable
import Breadboard.Proofs.LinkActs
import Breadboard.Proofs.Conversation
import Breadboard.Proofs.PresentPort
import Breadboard.Proofs.Outstanding
import Breadboard.Proofs.OwnReply
import Breadboard.Proofs.OutboundStream
import Breadboard.Proofs.TickOutcome
import Breadboard.Proofs.ConsoleShape
import Breadboard.Proofs.LiveCell
import Breadboard.Proofs.TableLoading
import Breadboard.Proofs.BenchRun
import Breadboard.Proofs.TickerRun
import Breadboard.Proofs.RedrawRun
import Breadboard.Proofs.ScreenGrid
import Breadboard.Proofs.PageOverlay
import Breadboard.Proofs.DashboardOverlay
import Breadboard.Proofs.IncrementalRedraw
import Breadboard.Proofs.Sight
import Breadboard.Proofs.VisibleChange
import Breadboard.Proofs.FrameHandover
import Breadboard.Proofs.PresetReset
import Breadboard.Proofs.PastTheEnd
import Breadboard.Proofs.TextPieces
import Breadboard.Proofs.ReadingBack
import Breadboard.Proofs.LineChanges
import Breadboard.Proofs.LineLevels
import Breadboard.Proofs.SourceStepping
import Breadboard.Proofs.EditEffect
import Breadboard.Proofs.HiddenSkeleton
import Breadboard.Proofs.EditedCells
import Breadboard.Proofs.MemoryRun
import Breadboard.Proofs.ListingWalk
import Breadboard.Proofs.HexText
import Breadboard.Proofs.DisassemblyWalk
import Breadboard.Proofs.BytePair
import Breadboard.Proofs.BreakPointSet
import Breadboard.Proofs.StrandedBreakPoints
import Breadboard.Proofs.LoadedBreakPoints
import Breadboard.Proofs.MemoryPage
import Breadboard.Proofs.OperatorEdits
import Breadboard.Proofs.JsonSpelling
import Breadboard.Proofs.OpcodeFormat
import Breadboard.Proofs.JsonText
import Breadboard.Proofs.ConfigOverlay
import Breadboard.Proofs.HistoryTail
import Breadboard.Proofs.HistoryPage
import Breadboard.Proofs.PathPieces
import Breadboard.Proofs.BreakPointPath
