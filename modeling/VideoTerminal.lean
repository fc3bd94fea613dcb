import VideoTerminal.Colour.Palette
import VideoTerminal.Colour.Rgb
import VideoTerminal.CommandLine.Options
import VideoTerminal.CommandLine.Replay
import VideoTerminal.Console
import VideoTerminal.Control.Command
import VideoTerminal.Control.Final
import VideoTerminal.Control.Function
import VideoTerminal.Control.Parameters
import VideoTerminal.Control.Reply
import VideoTerminal.Control.Sequence
import VideoTerminal.Export
import VideoTerminal.Export.Format
import VideoTerminal.Export.Plain
import VideoTerminal.Export.Styled
import VideoTerminal.Grid.LogicalLine
import VideoTerminal.Grid.Reflow
import VideoTerminal.Grid.Resize
import VideoTerminal.Grid.Ring
import VideoTerminal.Grid.Row
import VideoTerminal.Grid.ScreenBuffer
import VideoTerminal.Hold
import VideoTerminal.Keyboard.KeyEvent
import VideoTerminal.Keyboard.KeyPress
import VideoTerminal.Main
import VideoTerminal.Proofs.Agreement
import VideoTerminal.Proofs.Blinking
import VideoTerminal.Proofs.BlinkRun
import VideoTerminal.Proofs.BufferRun
import VideoTerminal.Proofs.CheckedEditing
import VideoTerminal.Proofs.CheckedGrid
import VideoTerminal.Proofs.CheckedMotion
import VideoTerminal.Proofs.CheckedReflow
import VideoTerminal.Proofs.CheckedRun
import VideoTerminal.Proofs.ChunkedSelection
import VideoTerminal.Proofs.Chunks
import VideoTerminal.Proofs.ColourNotation
import VideoTerminal.Proofs.ControlSequences
import VideoTerminal.Proofs.DamageMarks
import VideoTerminal.Proofs.Decoding
import VideoTerminal.Proofs.Delivery
import VideoTerminal.Proofs.Drawing
import VideoTerminal.Proofs.EmbeddedControls
import VideoTerminal.Proofs.ExportedOffsets
import VideoTerminal.Proofs.ExportedText
import VideoTerminal.Proofs.Exporting
import VideoTerminal.Proofs.FailedAttachment
import VideoTerminal.Proofs.Following
import VideoTerminal.Proofs.Frame
import VideoTerminal.Proofs.HeldCounts
import VideoTerminal.Proofs.HiddenResize
import VideoTerminal.Proofs.History
import VideoTerminal.Proofs.Holding
import VideoTerminal.Proofs.Hosting
import VideoTerminal.Proofs.Isolation
import VideoTerminal.Proofs.Layout
import VideoTerminal.Proofs.LogicalLines
import VideoTerminal.Proofs.MachineWords
import VideoTerminal.Proofs.Markup
import VideoTerminal.Proofs.MovedCells
import VideoTerminal.Proofs.MovingMarks
import VideoTerminal.Proofs.Neighbours
import VideoTerminal.Proofs.Numerals
import VideoTerminal.Proofs.OmittedCells
import VideoTerminal.Proofs.PlainText
import VideoTerminal.Proofs.Printable
import VideoTerminal.Proofs.PrivateSequences
import VideoTerminal.Proofs.Redrawing
import VideoTerminal.Proofs.Reflow
import VideoTerminal.Proofs.RenditionLists
import VideoTerminal.Proofs.RenditionSequence
import VideoTerminal.Proofs.RepeatedReflow
import VideoTerminal.Proofs.Replaying
import VideoTerminal.Proofs.Requests
import VideoTerminal.Proofs.Resetting
import VideoTerminal.Proofs.ResizedBlink
import VideoTerminal.Proofs.ResizedSession
import VideoTerminal.Proofs.Resizing
import VideoTerminal.Proofs.RewrappedLines
import VideoTerminal.Proofs.Ring
import VideoTerminal.Proofs.RowLists
import VideoTerminal.Proofs.Run
import VideoTerminal.Proofs.ScreenRows
import VideoTerminal.Proofs.ScreenShape
import VideoTerminal.Proofs.Scrollback
import VideoTerminal.Proofs.SelectionHold
import VideoTerminal.Proofs.SessionRun
import VideoTerminal.Proofs.Stamps
import VideoTerminal.Proofs.Steps
import VideoTerminal.Proofs.Tallies
import VideoTerminal.Proofs.Timers
import VideoTerminal.Proofs.WellFormed
import VideoTerminal.Proofs.WordProducts
import VideoTerminal.Proofs.Writing
import VideoTerminal.Rendition.Basic
import VideoTerminal.Rendition.Selection
import VideoTerminal.Selection
import VideoTerminal.Session.Attachment
import VideoTerminal.Session.Basic
import VideoTerminal.Session.Control
import VideoTerminal.Session.Interpretation
import VideoTerminal.Session.Selecting
import VideoTerminal.Settings.Basic
import VideoTerminal.Settings.Text
import VideoTerminal.Terminal.Basic
import VideoTerminal.Terminal.BlinkMarks
import VideoTerminal.Terminal.Damage
import VideoTerminal.Terminal.Erase
import VideoTerminal.Terminal.Motion
import VideoTerminal.Terminal.Position
import VideoTerminal.Terminal.Print
import VideoTerminal.Terminal.Scroll
import VideoTerminal.Terminal.Switch
import VideoTerminal.Text.Character
import VideoTerminal.Text.Numeral
import VideoTerminal.Text.Utf8
import VideoTerminal.Toml.Document
import VideoTerminal.Toml.Node
import VideoTerminal.Toml.Quoted
import VideoTerminal.Toml.Scalar
import VideoTerminal.Transport.ByteStream
import VideoTerminal.Transport.Channel
import VideoTerminal.Transport.Event
import VideoTerminal.Proofs.Figures
