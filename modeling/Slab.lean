import Slab.Json.GridReader
import Slab.Main
import Slab.Proofs.Cutting
import Slab.Proofs.Running
import Slab.Proofs.Descent
import Slab.Proofs.Copies
import Slab.Proofs.Depth
import Slab.Proofs.Moves
import Slab.Proofs.SelfCall
import Slab.Proofs.Soundness
import Slab.Proofs.Image
import Slab.Proofs.Filling
import Slab.Proofs.Lookup
import Slab.Proofs.Drawing
import Slab.Proofs.Flat
import Slab.Proofs.Balance
import Slab.Proofs.Locality
import Slab.Proofs.Openers
import Slab.Proofs.Staying
import Slab.Proofs.Scoping
import Slab.Proofs.Values
import Slab.Proofs.Parts
import Slab.Proofs.Brackets
import Slab.Proofs.ReadBack
import Slab.Proofs.Accepted
import Slab.Proofs.RoundTrip
import Slab.Proofs.Breaks
import Slab.Proofs.Recasting
import Slab.Proofs.Shape
import Slab.Proofs.Growth
import Slab.Proofs.Expanded
import Slab.Proofs.Rounding
import Slab.Proofs.Splicing
import Slab.Proofs.Tally
import Slab.Proofs.Closing
import Slab.Proofs.Covering
import Slab.Proofs.Matching
import Slab.Proofs.Peak
import Slab.Proofs.Bodies
import Slab.Proofs.Appending
import Slab.Proofs.Conservation
import Slab.Proofs.Noise
import Slab.Proofs.Outlining
import Slab.Proofs.Painting
import Slab.Proofs.ColorText
import Slab.Proofs.Visiting
import Slab.Proofs.Flags
import Slab.Proofs.Storage
