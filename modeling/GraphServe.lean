import GraphServe.Numeric.Binary
import GraphServe.Bytes
import GraphServe.Text.Utf8
import GraphServe.Tensor.Declared
import GraphServe.Tensor.Element
import GraphServe.Tensor.ByteSize
import GraphServe.Error
import GraphServe.Graph
import GraphServe.SizeFit
import GraphServe.Backend.ModelInfo
import GraphServe.Backend.Stats
import GraphServe.Device.Sample
import GraphServe.Device.Launch
import GraphServe.Context.Resolve
import GraphServe.Transfer
import GraphServe.Pool.Lease
import GraphServe.Numeric.Decimal
import GraphServe.Text.JsonReader
import GraphServe.Text.JsonString
import GraphServe.Setting.Basic
import GraphServe.Setting.Json
import GraphServe.Setting.KeyPath
import GraphServe.Setting.TomlTree
import GraphServe.Setting.Toml
import GraphServe.Setting.Yaml
import GraphServe.Setting.Environment
import GraphServe.Setting.Library
import GraphServe.Setting.Layered
import GraphServe.Config.Load
import GraphServe.Config.Strict
import GraphServe.Logging.Filter
import GraphServe.Logging.Install
import GraphServe.Boundary.Arguments
import GraphServe.Boundary.ModelText
import GraphServe.Boundary.Output
import GraphServe.Boundary.Session
import GraphServe.Text.Class
import GraphServe.Setting.Ini
import GraphServe.Setting.Json5
import GraphServe.Setting.Ron
import GraphServe.Proofs.Lists
import GraphServe.Proofs.Device.Arena
import GraphServe.Proofs.Device.Launch
import GraphServe.Proofs.Buffer
import GraphServe.Proofs.Registry
import GraphServe.Proofs.Context
import GraphServe.Proofs.Slot
import GraphServe.Proofs.Transfer
import GraphServe.Proofs.Backend.Serving
import GraphServe.Proofs.Backend.Inference
import GraphServe.Proofs.Backend.Lifetime
import GraphServe.Proofs.Backend.Reconfiguration
import GraphServe.Proofs.Fleet.Basic
import GraphServe.Proofs.Fleet.Atomicity
import GraphServe.Proofs.Fleet.Representation
import GraphServe.Proofs.Fleet.Books
import GraphServe.Proofs.Backend.Reference
import GraphServe.Proofs.Fleet.Refinement
import GraphServe.Proofs.Text.Utf8
import GraphServe.Proofs.EngineFile.Reading
import GraphServe.Proofs.EngineFile.Table
import GraphServe.Proofs.EngineFile.Canonical
import GraphServe.Proofs.EngineFile.Distinct
import GraphServe.Proofs.Context.Bindings
import GraphServe.Proofs.Context.Axes
import GraphServe.Proofs.Context.Shapes
import GraphServe.Proofs.Backend.Poisoning
import GraphServe.Proofs.Pool.Traffic
import GraphServe.Proofs.Device.Quiet
import GraphServe.Proofs.Device.Layout
import GraphServe.Proofs.Device.Ledger
import GraphServe.Proofs.Tenancy.Twins
import GraphServe.Proofs.Tenancy.Calls
import GraphServe.Proofs.Tenancy.Making
import GraphServe.Proofs.Tenancy.Footprints
import GraphServe.Proofs.Tenancy.Isolation
import GraphServe.Proofs.Backend.HighWater
import GraphServe.Proofs.Backend.Afresh
import GraphServe.Proofs.Tensor.Codec
import GraphServe.Proofs.Tensor.Size
import GraphServe.Proofs.Tensor.Exact
import GraphServe.Proofs.Setting.Paths
import GraphServe.Proofs.Setting.Placing
import GraphServe.Proofs.Setting.Variables
import GraphServe.Proofs.Setting.Laws
import GraphServe.Proofs.Setting.Layered
import GraphServe.Proofs.Config.Fields
import GraphServe.Proofs.Config.Layers
import GraphServe.Proofs.Context.Fitting
import GraphServe.Proofs.Context.Unification
import GraphServe.Proofs.Backend.Outputs
import GraphServe.Proofs.Backend.Description
import GraphServe.Proofs.Boundary.Results
import GraphServe.Proofs.Boundary.Texts
import GraphServe.Proofs.Boundary.Calls
import GraphServe.Proofs.Pool.Stages
import GraphServe.Proofs.Pool.Stock
import GraphServe.Proofs.Pool.Upkeep
import GraphServe.Proofs.EngineFile.Truncation
import GraphServe.Proofs.Device.Confinement
import GraphServe.Proofs.Backend.Rationing
import GraphServe.Proofs.Backend.Accounting
import GraphServe.Proofs.Boundary.Creation
import GraphServe.Proofs.Boundary.Messages
