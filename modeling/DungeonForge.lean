import DungeonForge.Main
import DungeonForge.Session
import DungeonForge.Document.Sink
import DungeonForge.Json.Reader
import DungeonForge.Run.Simulation
import DungeonForge.Proofs.Json.Literal
import DungeonForge.Proofs.Json.Numeral
import DungeonForge.Proofs.Json.RoundTrip
import DungeonForge.Proofs.Json.Scan
import DungeonForge.Proofs.Json.Canonical
import DungeonForge.Proofs.Document.Decode
import DungeonForge.Proofs.Document.Violation
import DungeonForge.Proofs.Manifest.Build
import DungeonForge.Proofs.Rules.Reach
import DungeonForge.Proofs.Rules.Blocking
import DungeonForge.Proofs.Run.Disk
import DungeonForge.Proofs.Run.Settings
import DungeonForge.Proofs.Run.Course
import DungeonForge.Proofs.Run.Faithful
import DungeonForge.Proofs.Document.Sink
import DungeonForge.Proofs.Rules.Playable
import DungeonForge.Proofs.Rules.Report
import DungeonForge.Proofs.Run.Atomic
import DungeonForge.Proofs.Run.Log
import DungeonForge.Proofs.Run.Arguments
import DungeonForge.Proofs.Run.Strict
import DungeonForge.Proofs.Document.Squeeze
import DungeonForge.Proofs.Rules.Rename
import DungeonForge.Proofs.Rules.Reorder
import DungeonForge.Proofs.Manifest.Spelling
import DungeonForge.Proofs.Manifest.Defects
import DungeonForge.Proofs.Rules.Links
import DungeonForge.Proofs.Session
import DungeonForge.Proofs.Document.Lines
import DungeonForge.Proofs.Document.Revalidation
import DungeonForge.Proofs.Document.Truncation
import DungeonForge.Proofs.Rules.Isolation
import DungeonForge.Proofs.Rules.Duplicates
import DungeonForge.Proofs.Rules.Erasure
import DungeonForge.Proofs.Toml.Distinct
import DungeonForge.Proofs.Config.Environment
import DungeonForge.Proofs.Run.Layers
import DungeonForge.Proofs.Run.OutputVariable
