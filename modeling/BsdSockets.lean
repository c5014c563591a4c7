import BsdSockets.DomainFamily
import BsdSockets.Echoing
import BsdSockets.LocalPeer
import BsdSockets.Ownership
import BsdSockets.SelectSets
import BsdSockets.Shutdown
import BsdSockets.Stopping
