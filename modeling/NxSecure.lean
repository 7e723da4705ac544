import NxSecure.Basic
import NxSecure.Crypto
import NxSecure.Session
import NxSecure.Code
import NxSecure.KeyExchange
import NxSecure.KeyExchange.Calls
import NxSecure.KeyExchange.Cleanup
import NxSecure.KeyExchange.Reads
import NxSecure.KeyExchange.Scratch
import NxSecure.KeyExchange.KeyMaterial
import NxSecure.KeyExchange.Padding
import NxSecure.KeyExchange.Termination
import NxSecure.KeyExchange.Oblivious
import NxSecure.KeyExchange.Prefix
import NxSecure.KeyExchange.Frame
import NxSecure.KeyExchange.SharedState
import NxSecure.KeyExchange.PreMasterArray
import NxSecure.KeyExchange.Ephemeral
import NxSecure.SessionReceive
import NxSecure.SessionReceive.Outcomes
