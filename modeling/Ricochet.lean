import Ricochet.Color.Basic
import Ricochet.Color.Hex
import Ricochet.Command.Flags
import Ricochet.Command.Help
import Ricochet.Command.Outcome
import Ricochet.Command.Plan
import Ricochet.Decimal.Digits
import Ricochet.Decimal.Fixed
import Ricochet.Decimal.Reader
import Ricochet.Decimal.Shortest
import Ricochet.Demo.Balls
import Ricochet.Demo.Basic
import Ricochet.Demo.Counter
import Ricochet.Demo.Drawing
import Ricochet.Demo.Frame
import Ricochet.Field.Ball
import Ricochet.Field.Basic
import Ricochet.Field.Digest
import Ricochet.Field.Error
import Ricochet.Field.Sampling
import Ricochet.Files
import Ricochet.Geometry.Rect
import Ricochet.Geometry.Viewport
import Ricochet.Input
import Ricochet.Log
import Ricochet.Main
import Ricochet.Numeric.Binary64
import Ricochet.Numeric.IntLiteral
import Ricochet.Numeric.Rational
import Ricochet.Numeric.Scalar
import Ricochet.Numeric.Word
import Ricochet.Random.Lagged
import Ricochet.Random.Replay
import Ricochet.Random.SeedTable
import Ricochet.Random.Source
import Ricochet.Registry
import Ricochet.Run.Headless
import Ricochet.Run.Trace
import Ricochet.Screen.Basic
import Ricochet.Screen.Runs
import Ricochet.Screen.Shapes
import Ricochet.Settings.Basic
import Ricochet.Settings.Defaults
import Ricochet.Settings.Document
import Ricochet.Settings.Preset
import Ricochet.Settings.Search
import Ricochet.Settings.Seeded
import Ricochet.Terminal.Help
import Ricochet.Terminal.Key
import Ricochet.Terminal.Menu
import Ricochet.Terminal.Session
import Ricochet.Terminal.Style
import Ricochet.Terminal.Width
import Ricochet.Text.Base64
import Ricochet.Text.Distance
import Ricochet.Text.Grapheme.Cluster
import Ricochet.Text.Grapheme.Tables
import Ricochet.Text.LowerCase
import Ricochet.Text.Padding
import Ricochet.Text.Printable
import Ricochet.Text.Quoted
import Ricochet.Text.Utf8
import Ricochet.Time.Duration
import Ricochet.Yaml.Character
import Ricochet.Yaml.Cursor
import Ricochet.Yaml.Decode
import Ricochet.Yaml.Fault
import Ricochet.Yaml.Node
import Ricochet.Yaml.Timestamp
import Ricochet.Yaml.Token
import Ricochet.Yaml.Token.Scalar
import Ricochet.Yaml.Token.Scan
import Ricochet.Yaml.Token.Tag
import Ricochet.Yaml.Value
import Ricochet.Proofs.Containment
import Ricochet.Proofs.DemoHistory
import Ricochet.Proofs.HeadlessDemo
import Ricochet.Proofs.ScreenBuffer
import Ricochet.Proofs.ShapeCells
import Ricochet.Proofs.Picture
import Ricochet.Proofs.Overshoot
import Ricochet.Proofs.Independence
import Ricochet.Proofs.SessionRun
import Ricochet.Proofs.ExitDecision
import Ricochet.Proofs.Rounding
import Ricochet.Proofs.FloatArithmetic
import Ricochet.Proofs.FiniteFields
import Ricochet.Proofs.RunCalls
import Ricochet.Proofs.SettingsSearch
import Ricochet.Proofs.ScreenHistory
import Ricochet.Proofs.RegistryHistory
import Ricochet.Proofs.BouncingRun
import Ricochet.Proofs.SpeedScaling
import Ricochet.Proofs.SampledBounds
import Ricochet.Proofs.Validation
import Ricochet.Proofs.FirstMistake
import Ricochet.Proofs.FramePacing
import Ricochet.Proofs.StyledText
import Ricochet.Proofs.TextBytes
import Ricochet.Proofs.ColorNames
import Ricochet.Proofs.ColorRoundTrip
import Ricochet.Proofs.EllipseFill
import Ricochet.Proofs.FrameFitting
import Ricochet.Proofs.CellMapping
import Ricochet.Proofs.BorderKept
import Ricochet.Proofs.RunGrouping
import Ricochet.Proofs.ViewHeight
import Ricochet.Proofs.Symmetry
import Ricochet.Proofs.DigestSensitivity
import Ricochet.Proofs.FixedText
import Ricochet.Proofs.TraceLines
import Ricochet.Proofs.TraceRecord
import Ricochet.Proofs.MenuCursor
import Ricochet.Proofs.BoxOutline
