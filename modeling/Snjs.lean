import Snjs.Sync.Manager
import Snjs.Sync.Invariant
import Snjs.Sync.Serial
import Snjs.Sync.PreSyncSave
import Snjs.Sync.Response
import Snjs.KeyRecovery.Service
import Snjs.KeyRecovery.RootKey
import Snjs.KeyRecovery.Queue
import Snjs.KeyRecovery.Promises
import Snjs.KeyRecovery.Undecryptables
import Snjs.KeyRecovery.Recovery
import Snjs.KeyRecovery.Retry
import Snjs.KeyRecovery.Ignored
import Snjs.Migrations.Service
import Snjs.Sync.LoadDatabase
import Snjs.Models.Privileges
import Snjs.Models.Item
import Snjs.Models.Mutator
import Snjs.Models.References
import Snjs.Models.Writes
import Snjs.Models.NoteFilter
import Snjs.Sync.Integrity
import Snjs.Session.SignIn
import Snjs.Sync.SignOut
import Snjs.Sync.Tokens
import Snjs.Session.Manager
import Snjs.Migrations.BaseMigration
import Snjs.Payloads.Generator
import Snjs.Sync.SpawnOrder
import Snjs.Models.Query
import Snjs.Sync.InitialSync
import Snjs.Sync.NeverSynced
import Snjs.Payloads.RemoteRejected
