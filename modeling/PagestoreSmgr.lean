import PagestoreSmgr.Types
import PagestoreSmgr.Codec
import PagestoreSmgr.State
import PagestoreSmgr.Ring
import PagestoreSmgr.Transport
import PagestoreSmgr.Pipeline
import PagestoreSmgr.Adaptor
import PagestoreSmgr.Keeps
import PagestoreSmgr.Invariant
import PagestoreSmgr.Compaction
import PagestoreSmgr.Retire
import PagestoreSmgr.Sound
import PagestoreSmgr.Connection
import PagestoreSmgr.Receive
import PagestoreSmgr.Register
import PagestoreSmgr.Request
import PagestoreSmgr.Operations
import PagestoreSmgr.Unreachable
import PagestoreSmgr.SharedState
import PagestoreSmgr.Genuine
import PagestoreSmgr.Served
import PagestoreSmgr.Flushed
import PagestoreSmgr.Reliable
import PagestoreSmgr.Liveness
import PagestoreSmgr.Batched
import PagestoreSmgr.ReadRequests
import PagestoreSmgr.Statics
import PagestoreSmgr.UnloggedBuild
import PagestoreSmgr.Interface
