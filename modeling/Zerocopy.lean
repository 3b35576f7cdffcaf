import Zerocopy.Layout
import Zerocopy.ByteSlice
import Zerocopy.Cast
import Zerocopy.Ref
import Zerocopy.RefLaws
import Zerocopy.FromBytes
import Zerocopy.FromBytesLaws
import Zerocopy.IntoBytes
import Zerocopy.FromZeros
import Zerocopy.Regions
import Zerocopy.TrailingElems
import Zerocopy.Slices
import Zerocopy.Validity
import Zerocopy.Compose
import Zerocopy.Impls
import Zerocopy.Values
import Zerocopy.Transmute
