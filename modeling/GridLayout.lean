import GridLayout.Journal
import GridLayout.Main
import GridLayout.Persist.Basic
import GridLayout.Persist.Instances
import GridLayout.Proofs.Steps
import GridLayout.Proofs.Text.Numeral
import GridLayout.Proofs.Text.Fields
import GridLayout.Proofs.Binary64.Rounding
import GridLayout.Proofs.Binary64.Shortest
import GridLayout.Proofs.Binary64.Nearest
import GridLayout.Proofs.Length.Canonical
import GridLayout.Proofs.Length.Scanned
import GridLayout.Proofs.Length.Bytes
import GridLayout.Proofs.Length.Pixels
import GridLayout.Proofs.Track.Specification
import GridLayout.Proofs.Track.Grammar
import GridLayout.Proofs.Track.Generated
import GridLayout.Proofs.Track.Building
import GridLayout.Proofs.Placement.Building
import GridLayout.Proofs.TrackGroup.Members
import GridLayout.Proofs.Sizing.Extent
import GridLayout.Proofs.Sizing.Enlargement
import GridLayout.Proofs.Sizing.Equalization
import GridLayout.Proofs.TrackGroup.InPlace
import GridLayout.Proofs.Sizing.Shares
import GridLayout.Proofs.Sizing.Fairness
import GridLayout.Proofs.Sizing.Sources
import GridLayout.Proofs.Grid.Scan
import GridLayout.Proofs.Grid.Agreement
import GridLayout.Proofs.Grid.History
import GridLayout.Proofs.Bare.Tracks
import GridLayout.Proofs.Bare.Grids
import GridLayout.Proofs.Grid.Fits
import GridLayout.Proofs.Grid.Contents
import GridLayout.Proofs.Grid.Growth
import GridLayout.Proofs.Grid.Room
import GridLayout.Proofs.Grid.Arrangement
import GridLayout.Proofs.Grid.Spacer
import GridLayout.Proofs.Grid.Containment
import GridLayout.Proofs.Grid.Accounting
import GridLayout.Proofs.Grid.Checked
import GridLayout.Proofs.Grid.Refusal
import GridLayout.Proofs.Grid.Safety
import GridLayout.Proofs.Cache.Partition
import GridLayout.Proofs.Cache.Flagged
import GridLayout.Proofs.Cache.Counters
import GridLayout.Proofs.Cache.History
import GridLayout.Proofs.Grid.Registry
import GridLayout.Proofs.Grid.Reordering
import GridLayout.Proofs.Passes.Nested
import GridLayout.Proofs.Passes.Probe
import GridLayout.Proofs.Passes.Anomaly
import GridLayout.Proofs.Passes.Comparison
import GridLayout.Proofs.Passes.Sharing
import GridLayout.Proofs.Passes.Monotone
import GridLayout.Proofs.Border.Placements
import GridLayout.Proofs.Border.Grid
import GridLayout.Proofs.ButtonBar.Grid
import GridLayout.Proofs.Layout.History
import GridLayout.Proofs.Border.Tiling
import GridLayout.Proofs.ButtonBar.Row
import GridLayout.Proofs.Layout.Lengths
import GridLayout.Proofs.Layout.Builders
import GridLayout.Proofs.Layout.Soundness
import GridLayout.Proofs.Layout.Journal
import GridLayout.Proofs.Axes.Solver
import GridLayout.Proofs.Persist.Grid
import GridLayout.Proofs.Persist.Layout
import GridLayout.Proofs.Axes.History
import GridLayout.Proofs.Description.Prepared
import GridLayout.Proofs.Description.Reports
import GridLayout.Proofs.Description.Check
import GridLayout.Proofs.Description.Order
import GridLayout.Proofs.Description.Rows
