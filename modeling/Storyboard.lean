import Storyboard.AspectRatio
import Storyboard.Bucket
import Storyboard.Engine.Basic
import Storyboard.Engine.Client
import Storyboard.Engine.Config
import Storyboard.Engine.Error
import Storyboard.Engine.Paced
import Storyboard.Engine.Remote
import Storyboard.Engine.Scripted
import Storyboard.Engine.Tracker
import Storyboard.Event
import Storyboard.Job
import Storyboard.Json.Choice
import Storyboard.Json.Document
import Storyboard.Json.Fault
import Storyboard.Json.Malformed
import Storyboard.Json.Numeral
import Storyboard.Json.Reader
import Storyboard.Json.Record
import Storyboard.Json.Token
import Storyboard.Json.Value
import Storyboard.Net.Address
import Storyboard.Net.Header
import Storyboard.Net.MediaType
import Storyboard.Net.Status
import Storyboard.Number.Double
import Storyboard.Number.Shortest
import Storyboard.Output
import Storyboard.Plan
import Storyboard.Proofs.Engine.Answers
import Storyboard.Proofs.Engine.Independence
import Storyboard.Proofs.Engine.Playback
import Storyboard.Proofs.Engine.Reasons
import Storyboard.Proofs.Engine.Remote
import Storyboard.Proofs.Engine.Scripted
import Storyboard.Proofs.Engine.Waiting
import Storyboard.Proofs.Json.Building
import Storyboard.Proofs.Json.Decimals
import Storyboard.Proofs.Json.Doubles
import Storyboard.Proofs.Json.Members
import Storyboard.Proofs.Json.Numerals
import Storyboard.Proofs.Json.Reading
import Storyboard.Proofs.Json.Scanning
import Storyboard.Proofs.Number.Printed
import Storyboard.Proofs.Number.Proper
import Storyboard.Proofs.Number.Rounding
import Storyboard.Proofs.Number.Shortest
import Storyboard.Proofs.Outcome
import Storyboard.Proofs.Output.Ratio
import Storyboard.Proofs.Output.Resolving
import Storyboard.Proofs.Request.Admission
import Storyboard.Proofs.Request.Boundaries
import Storyboard.Proofs.Request.Canonical
import Storyboard.Proofs.Request.Cleaning
import Storyboard.Proofs.Request.Faults
import Storyboard.Proofs.Request.Lines
import Storyboard.Proofs.Request.Planning
import Storyboard.Proofs.Request.Resolving
import Storyboard.Proofs.Request.Windows
import Storyboard.Proofs.Service.Accounts
import Storyboard.Proofs.Service.Asking
import Storyboard.Proofs.Service.Buckets
import Storyboard.Proofs.Service.Counting
import Storyboard.Proofs.Service.Isolation
import Storyboard.Proofs.Service.Jobs
import Storyboard.Proofs.Service.Labels
import Storyboard.Proofs.Service.Layers
import Storyboard.Proofs.Service.Limits
import Storyboard.Proofs.Service.Overlap
import Storyboard.Proofs.Service.Paths
import Storyboard.Proofs.Service.Preview
import Storyboard.Proofs.Service.Redaction
import Storyboard.Proofs.Service.Stamps
import Storyboard.Proofs.Service.Tracking
import Storyboard.Proofs.Service.Trial
import Storyboard.Proofs.Service.TurnedAway
import Storyboard.Proofs.Service.Videos
import Storyboard.Proofs.Text.LetterCase
import Storyboard.Proofs.Text.Splitting
import Storyboard.Proofs.Text.Trimming
import Storyboard.Proofs.Text.Utf8
import Storyboard.Proofs.Time.Arithmetic
import Storyboard.Proofs.Time.Seconds
import Storyboard.Proofs.Time.Written
import Storyboard.Proofs.Timeline.Audio
import Storyboard.Proofs.Timeline.Clips
import Storyboard.Proofs.Timeline.Joining
import Storyboard.Proofs.Timeline.Margins
import Storyboard.Proofs.Timeline.Neighbours
import Storyboard.Proofs.Timeline.Obstacles
import Storyboard.Proofs.Timeline.Onset
import Storyboard.Proofs.Timeline.Placement
import Storyboard.Proofs.Timeline.Tiling
import Storyboard.Proofs.Url.Below
import Storyboard.Proofs.Url.Percent
import Storyboard.Proofs.Wire.Levels
import Storyboard.Proofs.Wire.Requests
import Storyboard.Proofs.Wire.Timelines
import Storyboard.Request
import Storyboard.Request.Cleaning
import Storyboard.Request.Rejection
import Storyboard.Request.Resolved
import Storyboard.Scene
import Storyboard.Service.Answer
import Storyboard.Service.Basic
import Storyboard.Service.Body
import Storyboard.Service.Config
import Storyboard.Service.Error
import Storyboard.Service.Limiter
import Storyboard.Service.Message
import Storyboard.Service.Metrics
import Storyboard.Service.Origins
import Storyboard.Service.Overlap
import Storyboard.Service.Remote
import Storyboard.Service.Route
import Storyboard.Service.Serving
import Storyboard.Style
import Storyboard.Text.Blank
import Storyboard.Text.Composition
import Storyboard.Text.Direction
import Storyboard.Text.Joining
import Storyboard.Text.Quoted
import Storyboard.Text.Shapeless
import Storyboard.Text.Table
import Storyboard.Text.Utf8
import Storyboard.Time.Calendar
import Storyboard.Time.Millis
import Storyboard.Time.Stamp
import Storyboard.Timeline
import Storyboard.Timeline.Audio
import Storyboard.Timeline.Inset
import Storyboard.Timeline.Layout
import Storyboard.Url.Basic
import Storyboard.Url.Error
import Storyboard.Url.Host
import Storyboard.Url.Idna
import Storyboard.Url.Idna.Mapping
import Storyboard.Url.Ipv4
import Storyboard.Url.Ipv6
import Storyboard.Url.Percent
import Storyboard.Url.Punycode
import Storyboard.Vocabulary
import Storyboard.Wire.Basic
import Storyboard.Wire.Output
import Storyboard.Wire.Plan
import Storyboard.Wire.Request
import Storyboard.Wire.Schema
import Storyboard.Wire.Timeline
