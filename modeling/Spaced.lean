import Spaced.Rpc.Error
import Spaced.Rpc.Send
import Spaced.Rpc.Broadcast
import Spaced.Rpc.Hex
import Spaced.Rpc.Json
import Spaced.Rpc.FetchBlock
import Spaced.Fetcher.Batch
import Spaced.Fetcher.Supervisor
import Spaced.Fetcher.Emission
import Spaced.Fetcher.Buffer
import Spaced.Wallet.Restore
import Spaced.Wallet.BatchTx
import Spaced.Wallet.Outputs
import Spaced.Wallet.Requests
import Spaced.Wallet.Handlers
import Spaced.Wallet.FeeRate
import Spaced.Wallet.Sync
import Spaced.System.Model
import Spaced.System.Feed
import Spaced.System.Restart
