import ScriptHost.Guest.Listing
import ScriptHost.Memory.Changes
import ScriptHost.Memory.Slice
import ScriptHost.Proofs.Config.Texts
import ScriptHost.Proofs.Confinement
import ScriptHost.Proofs.Memory.Access
import ScriptHost.Proofs.Memory.Bytes
import ScriptHost.Proofs.Memory.Confined
import ScriptHost.Proofs.Memory.Lawful
import ScriptHost.Proofs.Memory.Packed
import ScriptHost.Proofs.Memory.ReadBack
import ScriptHost.Proofs.Memory.Segments
import ScriptHost.Proofs.Memory.Slices
import ScriptHost.Proofs.Memory.Stands
import ScriptHost.Proofs.Memory.Store
import ScriptHost.Proofs.Memory.Vectors
import ScriptHost.Proofs.Registry
import ScriptHost.Proofs.Scene.Attribute
import ScriptHost.Proofs.Scene.Host
import ScriptHost.Proofs.Scene.Journal
import ScriptHost.Proofs.Scene.Merge
import ScriptHost.Proofs.Scene.Order
import ScriptHost.Proofs.Scene.Store
import ScriptHost.Proofs.Scene.Subscriptions
import ScriptHost.Proofs.SceneCall.AllOrNothing
import ScriptHost.Proofs.SceneCall.Animations
import ScriptHost.Proofs.SceneCall.Attributes
import ScriptHost.Proofs.SceneCall.ById
import ScriptHost.Proofs.SceneCall.Kinds
import ScriptHost.Proofs.SceneCall.Lenses
import ScriptHost.Proofs.SceneCall.Listing
import ScriptHost.Proofs.SceneCall.Reasons
import ScriptHost.Proofs.SceneCall.Strings
import ScriptHost.Proofs.SceneCall.Texts
import ScriptHost.Proofs.SceneCall.Verdict
import ScriptHost.Proofs.Script.Calls
import ScriptHost.Proofs.Script.Deeds
import ScriptHost.Proofs.Script.Delivery
import ScriptHost.Proofs.Script.Life
import ScriptHost.Proofs.Script.Loading
import ScriptHost.Proofs.Script.Stages
import ScriptHost.Proofs.Script.Unsupported
import ScriptHost.Proofs.System.Calls
import ScriptHost.Proofs.System.Environment
import ScriptHost.Proofs.System.Printing
import ScriptHost.Proofs.System.ProcessLists
import ScriptHost.Proofs.System.Strings
import ScriptHost.Proofs.Text.Encoding
import ScriptHost.Proofs.Text.Lossy
import ScriptHost.Proofs.Text.Newlines
import ScriptHost.Proofs.Wire.RoundTrip
import ScriptHost.Proofs.World.Animations
import ScriptHost.Proofs.World.ById
import ScriptHost.Proofs.World.Delivery
import ScriptHost.Proofs.World.Descriptors
import ScriptHost.Proofs.World.Edits
import ScriptHost.Proofs.World.Enumeration
import ScriptHost.Proofs.World.FanOut
import ScriptHost.Proofs.World.History
import ScriptHost.Proofs.World.Journal
import ScriptHost.Proofs.World.Kinds
import ScriptHost.Proofs.World.Loading
import ScriptHost.Proofs.World.Names
import ScriptHost.Scene.Gate
import ScriptHost.Script.SystemTree
import ScriptHost.World
