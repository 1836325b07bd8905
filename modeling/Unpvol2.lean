import Unpvol2.Lib.C
import Unpvol2.Lib.Stdio
import Unpvol2.Lib.Machine
import Unpvol2.Lib.Threads
import Unpvol2.Lib.Pool
import Unpvol2.Lib.Fifo
import Unpvol2.Lib.Atomic
import Unpvol2.Lib.BoundedQueue
import Unpvol2.Lib.File
import Unpvol2.Lib.History
import Unpvol2.Lib.Mutex
import Unpvol2.Lib.Named
import Unpvol2.Lib.Pipe
import Unpvol2.Lib.PriorityQueue
import Unpvol2.Lib.RingBuffer
import Unpvol2.Lib.Semaphore
import Unpvol2.Lib.SharedLock
import Unpvol2.Lib.Tickets
import Unpvol2.Rwlock.Model
import Unpvol2.Rwlock.Step
import Unpvol2.Rwlock.Accounting
import Unpvol2.Rwlock.Bracket
import Unpvol2.Rwlock.Caller
import Unpvol2.Rwlock.Cancel
import Unpvol2.Rwlock.Destroy
import Unpvol2.Rwlock.Lifecycle
import Unpvol2.Rwlock.Limit
import Unpvol2.Rwlock.Linear
import Unpvol2.Rwlock.Preference
import Unpvol2.Rwlock.Wakeup
import Unpvol2.Rwlock.Wrappers
import Unpvol2.Test1.Model
import Unpvol2.Test1.Link
import Unpvol2.Test1.Clean
import Unpvol2.Test1.Refines
import Unpvol2.Prodcons3.Model
import Unpvol2.Prodcons3.Tokens
import Unpvol2.Prodcons3.Shutdown
import Unpvol2.Prodcons4.Fifo
import Unpvol2.Prodcons4.Model
import Unpvol2.Prodcons4.Tokens
import Unpvol2.Prodcons4.Shutdown
import Unpvol2.Prodcons6.Model
import Unpvol2.Prodcons6.Step
import Unpvol2.Prodcons6.Stored
import Unpvol2.Prodcons6.Wakeup
import Unpvol2.Mycat2.Model
import Unpvol2.Mycat2.Copy
import Unpvol2.Mycat2.Fill
import Unpvol2.Mycat2.Laws
import Unpvol2.Mycat2.Results
import Unpvol2.Mq.Queue
import Unpvol2.Mq.Notifysig1
import Unpvol2.Mq.Notifysig2
import Unpvol2.Mq.Notifysig3
import Unpvol2.Mq.Notifysig4
import Unpvol2.Mq.Notifysig5
import Unpvol2.Mq.Notifythread1
import Unpvol2.Mq.Receiver
import Unpvol2.Mq.Startup
import Unpvol2.Mq.Tools
import Unpvol2.Ring.Model
import Unpvol2.Ring.Tokens
import Unpvol2.Ring.Grants
import Unpvol2.Ring.Delivery
import Unpvol2.Ring.Overflows
import Unpvol2.Ring.Reports
import Unpvol2.Ring.Slots
import Unpvol2.Snc.Codec
import Unpvol2.Snc.Step
import Unpvol2.Snc.Answers
import Unpvol2.Snc.Children
import Unpvol2.Snc.Client
import Unpvol2.Snc.Exchange
import Unpvol2.Snc.Kept
import Unpvol2.Snc.Loop
import Unpvol2.Snc.Once
import Unpvol2.Snc.Oneshot
import Unpvol2.Snc.Pathnames
import Unpvol2.Snc.Requests
import Unpvol2.Snc.Serverfork
import Unpvol2.Snc.Servern
import Unpvol2.Snc.Stale
import Unpvol2.Lockmain.Model
import Unpvol2.Lockmain.Killed
import Unpvol2.Lockmain.Numbers
import Unpvol2.Lockmain.Rewrite
import Unpvol2.Lockmain.Unlocked
import Unpvol2.Incr.Model
import Unpvol2.Prodcons1.Model
import Unpvol2.Prodcons2.Model
import Unpvol2.Rwlockc.Model
import Unpvol2.Testcancel.Model
import Unpvol2.Transfer.Model
import Unpvol2.Incr.Step
import Unpvol2.Prodcons1.Step
import Unpvol2.Prodcons2.Step
import Unpvol2.Rwlockc.Step
import Unpvol2.Transfer.Step
import Unpvol2.Incr.Counted
import Unpvol2.Incr.Verdict
import Unpvol2.Prodcons1.Kept
import Unpvol2.Prodcons1.Names
import Unpvol2.Prodcons1.Runs
import Unpvol2.Prodcons2.Ends
import Unpvol2.Prodcons2.Filled
import Unpvol2.Prodcons2.Printed
import Unpvol2.Rwlockc.Clean
import Unpvol2.Rwlockc.Kept
import Unpvol2.Shm.Client1
import Unpvol2.Shm.Incr
import Unpvol2.Shm.Tools
import Unpvol2.Testcancel.Outcomes
import Unpvol2.Transfer.Carried
import Unpvol2.Transfer.Pathname
import Unpvol2.Transfer.Progress
import Unpvol2.Transfer.Sfifo
import Unpvol2.Transfer.Spipe
