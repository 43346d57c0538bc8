import Starfield.Animation.Animator
import Starfield.Animation.Clock
import Starfield.Animation.Headless
import Starfield.Animation.RunError
import Starfield.Animation.Scheduler
import Starfield.Animation.Session
import Starfield.Animation.Statistics
import Starfield.Color
import Starfield.Command.Arguments
import Starfield.Command.Directories
import Starfield.Command.Program
import Starfield.Command.Request
import Starfield.Command.TargetSize
import Starfield.Document.Gap
import Starfield.Document.Literal
import Starfield.Document.Printer
import Starfield.Document.Quoted
import Starfield.Document.Reader
import Starfield.Document.Token
import Starfield.Document.Value
import Starfield.Fault
import Starfield.Files.Error
import Starfield.Files.FileSystem
import Starfield.Files.Path
import Starfield.Files.Tree
import Starfield.Geometry.Point
import Starfield.Geometry.Viewport
import Starfield.Image.Bytes
import Starfield.Image.Png
import Starfield.Log.Filter
import Starfield.Log.Journal
import Starfield.Log.Notice
import Starfield.Log.Pattern
import Starfield.Main
import Starfield.Number.Binary
import Starfield.Number.Decimal
import Starfield.Number.Digit
import Starfield.Number.Layout
import Starfield.Number.Order
import Starfield.Number.Range
import Starfield.Number.Rounding
import Starfield.Number.Shortest
import Starfield.Particle.Field
import Starfield.Particle.Motion
import Starfield.Particle.Nebula
import Starfield.Particle.Population
import Starfield.Particle.Star
import Starfield.Picture.Frame
import Starfield.Picture.Painting
import Starfield.Random.ChaCha
import Starfield.Random.Generator
import Starfield.Random.Sampler
import Starfield.Resize.Debouncer
import Starfield.Resize.Event
import Starfield.Resize.Script
import Starfield.Settings.Basic
import Starfield.Settings.Codec
import Starfield.Settings.Error
import Starfield.Settings.Format
import Starfield.Settings.Overrides
import Starfield.Settings.Store
import Starfield.Settings.Validation
import Starfield.Surface.Basic
import Starfield.Surface.Pixel
import Starfield.Surface.Recording
import Starfield.Text.Alphanumeric
import Starfield.Text.Blank
import Starfield.Text.Identifier
import Starfield.Text.Printable
import Starfield.Text.Ranges
import Starfield.Text.Slice
import Starfield.Proofs.Animation.Accounting
import Starfield.Proofs.Animation.Burst
import Starfield.Proofs.Particle.HistoryIndependence
import Starfield.Proofs.Particle.InView
import Starfield.Proofs.Number.Truncation
import Starfield.Proofs.Particle.Requests
import Starfield.Proofs.Surface.Sound
import Starfield.Proofs.Surface.Clipping
import Starfield.Proofs.Picture.Repainting
import Starfield.Proofs.Animation.Shown
import Starfield.Proofs.Settings.Stored
import Starfield.Proofs.Resize.Debouncing
import Starfield.Proofs.Number.Finite
import Starfield.Proofs.Particle.Twinkling
import Starfield.Proofs.Number.Grid
import Starfield.Proofs.Number.Signed
import Starfield.Proofs.Particle.MarginBand
import Starfield.Proofs.Particle.NebulaBand
import Starfield.Proofs.Number.Root
import Starfield.Proofs.Surface.Coverage
import Starfield.Proofs.Picture.Culling
import Starfield.Proofs.Number.Scaling
import Starfield.Proofs.Surface.Shining
import Starfield.Proofs.Picture.Replay
import Starfield.Proofs.Number.Unit
import Starfield.Proofs.Surface.Compositing
import Starfield.Proofs.Particle.VisualSettings
import Starfield.Proofs.Animation.Captures
import Starfield.Proofs.Animation.Stopping
import Starfield.Proofs.Picture.DrawCalls
import Starfield.Proofs.Animation.Painted
import Starfield.Proofs.Files.Effects
import Starfield.Proofs.Files.Growth
import Starfield.Proofs.Files.Names
import Starfield.Proofs.Settings.Loading
import Starfield.Proofs.Command.Effects
import Starfield.Proofs.Command.SettingsFiles
import Starfield.Proofs.Animation.Faults
import Starfield.Proofs.Particle.Layers
import Starfield.Proofs.Image.ReadBack
import Starfield.Proofs.Surface.Boxes
import Starfield.Proofs.Surface.Unclipped
import Starfield.Proofs.Document.Lines
import Starfield.Proofs.Settings.Edited
import Starfield.Proofs.Settings.Partial
import Starfield.Proofs.Number.Equality
import Starfield.Proofs.Number.Zeros
import Starfield.Proofs.Settings.Requirements
import Starfield.Proofs.Settings.Reloading
import Starfield.Proofs.Color.Hue
import Starfield.Proofs.Color.Gamut
import Starfield.Proofs.Particle.BlobColors
import Starfield.Proofs.Particle.Standstill
import Starfield.Proofs.Particle.StandingTick
import Starfield.Proofs.Particle.Attributes
import Starfield.Proofs.Particle.Reported
import Starfield.Proofs.Resize.Drains
import Starfield.Proofs.Resize.Drag
import Starfield.Proofs.Animation.FrameRate
import Starfield.Proofs.Command.Sizes
import Starfield.Proofs.Particle.HiddenWraps
import Starfield.Proofs.Particle.Pacing
import Starfield.Proofs.Particle.Retraction
import Starfield.Proofs.Particle.Stalls
