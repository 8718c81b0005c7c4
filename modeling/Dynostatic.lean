import Dynostatic.Invariant
import Dynostatic.Heap
import Dynostatic.Safety
import Dynostatic.Oracle
import Dynostatic.Drain
import Dynostatic.Scrub
import Dynostatic.Clients
import Dynostatic.Stale
import Dynostatic.Order
import Dynostatic.FirstFit
import Dynostatic.Resize
import Dynostatic.Lookup
import Dynostatic.Writes
import Dynostatic.Exhaustion
import Dynostatic.Retention
import Dynostatic.Overlap
import Dynostatic.Transparency
import Dynostatic.Calloc
import Dynostatic.Bump
import Dynostatic.MarkAndStrip
import Dynostatic.Alignment
import Dynostatic.OutParameters
import Dynostatic.Machine
import Dynostatic.Observation
import Dynostatic.Fleet
import Dynostatic.MonteCarlo
import Dynostatic.ErrorCodes
import Dynostatic.Upgrade
import Dynostatic.Relocation
import Dynostatic.Stack
import Dynostatic.Pool
import Dynostatic.Completeness
import Dynostatic.Sizing
import Dynostatic.Lifecycle
import Dynostatic.Retvals
import Dynostatic.Work
import Dynostatic.Handles
