import SceneDraw.Main
import SceneDraw.Proofs.Basic
import SceneDraw.Proofs.DisplayList.Batch
import SceneDraw.Proofs.DisplayList.Trace
import SceneDraw.Proofs.DisplayList.Machine
import SceneDraw.Proofs.DisplayList.History
import SceneDraw.Proofs.DisplayList.Partition
import SceneDraw.Proofs.DisplayList.Linear
import SceneDraw.Proofs.DisplayList.Ahead
import SceneDraw.Proofs.Layout.Steps
import SceneDraw.Proofs.Layout.Nesting
import SceneDraw.Proofs.Layout.Branching
import SceneDraw.Proofs.Layout.Switch
import SceneDraw.Proofs.Layout.Inline
import SceneDraw.Proofs.Layout.Moments
import SceneDraw.Proofs.Layout.Joints
import SceneDraw.Proofs.Scene.Result
import SceneDraw.Proofs.Scene.Memo
import SceneDraw.Proofs.Scene.Isolation
import SceneDraw.Proofs.Scene.Strict
import SceneDraw.Proofs.Scene.Bounds
import SceneDraw.Proofs.Limit
import SceneDraw.Proofs.Scene.Locality
import SceneDraw.Proofs.DisplayList.Reach
import SceneDraw.Proofs.Scene.Layers
import SceneDraw.Proofs.Scene.Skipping
import SceneDraw.Proofs.Stepping
import SceneDraw.Proofs.Layout.Activation
import SceneDraw.Proofs.Layout.Cycle
import SceneDraw.Proofs.DisplayList.Activation
import SceneDraw.Proofs.DisplayList.Depth
import SceneDraw.Proofs.DisplayList.Lights
import SceneDraw.Proofs.Diagnosis
import SceneDraw.Proofs.Scene.Textures
import SceneDraw.Proofs.Layout.Null
import SceneDraw.Proofs.Text
import SceneDraw.Proofs.Source.Comment
import SceneDraw.Proofs.Source.Conditional
import SceneDraw.Proofs.Source.Declaration
import SceneDraw.Proofs.Scene.Indexing
import SceneDraw.Proofs.Layout.Samples
import SceneDraw.Proofs.Layout.Far
import SceneDraw.Proofs.Layout.Spelling
import SceneDraw.Proofs.DisplayList.Parts
import SceneDraw.Proofs.Source.Removal
import SceneDraw.Proofs.Source.Forest
import SceneDraw.Proofs.Call.Parentheses
import SceneDraw.Proofs.Call.Pieces
import SceneDraw.Proofs.Call.Line
import SceneDraw.Proofs.Source.Initializer
import SceneDraw.Proofs.Number.Numeral
import SceneDraw.Proofs.Render.Tables
import SceneDraw.Proofs.DisplayList.Constants
import SceneDraw.Proofs.Source.LineFeed
import SceneDraw.Proofs.Source.Definition
import SceneDraw.Proofs.Scene.Definitions
import SceneDraw.Proofs.DisplayList.Load
import SceneDraw.Proofs.Call.Reading
import SceneDraw.Proofs.DisplayList.TextureBlock
import SceneDraw.Proofs.Call.Positions
import SceneDraw.Proofs.Number.Literal
import SceneDraw.Proofs.DisplayList.Reference
import SceneDraw.Proofs.DisplayList.Columns
import SceneDraw.Proofs.DisplayList.Columns
