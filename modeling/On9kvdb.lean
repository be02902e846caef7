import On9kvdb.Log.Append
import On9kvdb.Log.Damage
import On9kvdb.Reader.Session
import On9kvdb.Reuse.Methods
import On9kvdb.Start.Crashes
import On9kvdb.Commit.Runs
import On9kvdb.Snapshot.Answers
import On9kvdb.Snapshot.Isolation
import On9kvdb.Token.Runs
import On9kvdb.Token.FailedSet
import On9kvdb.Capacity.Merge
import On9kvdb.Format.EntryDecode
import On9kvdb.Arena.Overlay
import On9kvdb.Arena.History
import On9kvdb.Io.Arrays
import On9kvdb.Accept.Image
import On9kvdb.Accept.Lookup
import On9kvdb.Start.Budget
import On9kvdb.Format.KeyBuffer
import On9kvdb.Arena.Sort
import On9kvdb.Durable.Burst
import On9kvdb.Lib.Guarded
import On9kvdb.Durable.Reads
import On9kvdb.Replay.Parse
import On9kvdb.Replay.Scan
import On9kvdb.Steady.Survival
import On9kvdb.Meaning.Reached
