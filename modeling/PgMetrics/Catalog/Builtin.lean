import PgMetrics.Catalog.Basic

namespace PgMetrics.Catalog

def bound (comparison : Comparison) (major minor : UInt64) : Bound :=
  ⟨comparison, .release major minor 0⟩

def below (major minor : UInt64) : Bound := bound .lt major minor

def since (major minor : UInt64) : Bound := bound .ge major minor

def after (major minor : UInt64) : Bound := bound .gt major minor

def column (name : String) (role : Role) (description : String) : Column :=
  { name, role, description }

/-- A column of some versions only. -/
def gated (name : String) (role : Role) (description : String) (bounds : List Bound) : Column :=
  { name, role, description, versions := some ⟨bounds⟩ }

/-- The columns of `pg_stat_bgwriter`. -/
def backgroundWriterColumns : List Column :=
  [ column "checkpoints_timed" .counter
      "Number of scheduled checkpoints that have been performed",
    column "checkpoints_req" .counter "Number of requested checkpoints that have been performed",
    column "checkpoint_write_time" .counter
      ("Total amount of time that has been spent in the portion of checkpoint processing where " ++
       "files are written to disk, in milliseconds"),
    column "checkpoint_sync_time" .counter
      ("Total amount of time that has been spent in the portion of checkpoint processing where " ++
       "files are synchronized to disk, in milliseconds"),
    column "buffers_checkpoint" .counter "Number of buffers written during checkpoints",
    column "buffers_clean" .counter "Number of buffers written by the background writer",
    column "maxwritten_clean" .counter
      ("Number of times the background writer stopped a cleaning scan because it had written too " ++
       "many buffers"),
    column "buffers_backend" .counter "Number of buffers written directly by a backend",
    column "buffers_backend_fsync" .counter
      ("Number of times a backend had to execute its own fsync call (normally the background " ++
       "writer handles those even when the backend does its own write)"),
    column "buffers_alloc" .counter "Number of buffers allocated",
    column "stats_reset" .counter "Time at which these statistics were last reset" ]

/-- The columns of `pg_stat_database`. -/
def databaseColumns : List Column :=
  [ column "datid" .label "OID of a database",
    column "datname" .label "Name of this database",
    column "numbackends" .gauge
      ("Number of backends currently connected to this database. This is the only column in this " ++
       "view that returns a value reflecting current state; all other columns return the " ++
       "accumulated values since the last reset."),
    column "xact_commit" .counter
      "Number of transactions in this database that have been committed",
    column "xact_rollback" .counter
      "Number of transactions in this database that have been rolled back",
    column "blks_read" .counter "Number of disk blocks read in this database",
    column "blks_hit" .counter
      ("Number of times disk blocks were found already in the buffer cache, so that a read was " ++
       "not necessary (this only includes hits in the PostgreSQL buffer cache, not the operating " ++
       "system's file system cache)"),
    column "tup_returned" .counter "Number of rows returned by queries in this database",
    column "tup_fetched" .counter "Number of rows fetched by queries in this database",
    column "tup_inserted" .counter "Number of rows inserted by queries in this database",
    column "tup_updated" .counter "Number of rows updated by queries in this database",
    column "tup_deleted" .counter "Number of rows deleted by queries in this database",
    column "conflicts" .counter
      ("Number of queries canceled due to conflicts with recovery in this database. (Conflicts " ++
       "occur only on standby servers; see pg_stat_database_conflicts for details.)"),
    column "temp_files" .counter
      ("Number of temporary files created by queries in this database. All temporary files are " ++
       "counted, regardless of why the temporary file was created (e.g., sorting or hashing), and " ++
       "regardless of the log_temp_files setting."),
    column "temp_bytes" .counter
      ("Total amount of data written to temporary files by queries in this database. All " ++
       "temporary files are counted, regardless of why the temporary file was created, and " ++
       "regardless of the log_temp_files setting."),
    column "deadlocks" .counter "Number of deadlocks detected in this database",
    column "blk_read_time" .counter
      "Time spent reading data file blocks by backends in this database, in milliseconds",
    column "blk_write_time" .counter
      "Time spent writing data file blocks by backends in this database, in milliseconds",
    column "stats_reset" .counter "Time at which these statistics were last reset" ]

/-- The columns of `pg_stat_database_conflicts`. -/
def databaseConflictsColumns : List Column :=
  [ column "datid" .label "OID of a database",
    column "datname" .label "Name of this database",
    column "confl_tablespace" .counter
      "Number of queries in this database that have been canceled due to dropped tablespaces",
    column "confl_lock" .counter
      "Number of queries in this database that have been canceled due to lock timeouts",
    column "confl_snapshot" .counter
      "Number of queries in this database that have been canceled due to old snapshots",
    column "confl_bufferpin" .counter
      "Number of queries in this database that have been canceled due to pinned buffers",
    column "confl_deadlock" .counter
      "Number of queries in this database that have been canceled due to deadlocks" ]

/-- The columns of `pg_locks`. -/
def locksColumns : List Column :=
  [ column "datname" .label "Name of this database",
    column "mode" .label "Type of Lock",
    column "count" .gauge "Number of locks" ]

/-- The columns of `pg_stat_replication`. -/
def replicationColumns : List Column :=
  [ gated "procpid" .discard "Process ID of a WAL sender process" [below 9 2],
    gated "pid" .discard "Process ID of a WAL sender process" [since 9 2],
    column "usesysid" .discard "OID of the user logged into this WAL sender process",
    column "usename" .discard "Name of the user logged into this WAL sender process",
    column "application_name" .label
      "Name of the application that is connected to this WAL sender",
    column "client_addr" .label
      ("IP address of the client connected to this WAL sender. If this field is null, it " ++
       "indicates that the client is connected via a Unix socket on the server machine."),
    column "client_hostname" .discard
      ("Host name of the connected client, as reported by a reverse DNS lookup of client_addr. " ++
       "This field will only be non-null for IP connections, and only when log_hostname is " ++
       "enabled."),
    column "client_port" .discard
      ("TCP port number that the client is using for communication with this WAL sender, or -1 if " ++
       "a Unix socket is used"),
    column "backend_start" .discard
      "Time when this process was started, i.e., when the client connected to this WAL sender",
    column "backend_xmin" .discard "The current backend's xmin horizon.",
    column "state" .label "Current WAL sender state",
    gated "sent_location" .discard
      "Last transaction log position sent on this connection"
      [below 10 0],
    gated "write_location" .discard
      "Last transaction log position written to disk by this standby server"
      [below 10 0],
    gated "flush_location" .discard
      "Last transaction log position flushed to disk by this standby server"
      [below 10 0],
    gated "replay_location" .discard
      "Last transaction log position replayed into the database on this standby server"
      [below 10 0],
    gated "sent_lsn" .discard
      "Last transaction log position sent on this connection"
      [since 10 0],
    gated "write_lsn" .discard
      "Last transaction log position written to disk by this standby server"
      [since 10 0],
    gated "flush_lsn" .discard
      "Last transaction log position flushed to disk by this standby server"
      [since 10 0],
    gated "replay_lsn" .discard
      "Last transaction log position replayed into the database on this standby server"
      [since 10 0],
    column "sync_priority" .discard
      "Priority of this standby server for being chosen as the synchronous standby",
    column "sync_state" .discard "Synchronous state of this standby server",
    gated "slot_name" .label
      "A unique, cluster-wide identifier for the replication slot"
      [since 9 2],
    column "plugin" .discard
      ("The base name of the shared object containing the output plugin this logical slot is " ++
       "using, or null for physical slots"),
    column "slot_type" .discard "The slot type - physical or logical",
    column "datoid" .discard
      ("The OID of the database this slot is associated with, or null. Only logical slots have an " ++
       "associated database"),
    column "database" .discard
      ("The name of the database this slot is associated with, or null. Only logical slots have " ++
       "an associated database"),
    column "active" .discard "True if this slot is currently actively being used",
    column "active_pid" .discard "Process ID of a WAL sender process",
    column "xmin" .discard
      ("The oldest transaction that this slot needs the database to retain. VACUUM cannot remove " ++
       "tuples deleted by any later transaction"),
    column "catalog_xmin" .discard
      ("The oldest transaction affecting the system catalogs that this slot needs the database to " ++
       "retain. VACUUM cannot remove catalog tuples deleted by any later transaction"),
    column "restart_lsn" .discard
      ("The address (LSN) of oldest WAL which still might be required by the consumer of this " ++
       "slot and thus won't be automatically removed during checkpoints"),
    column "pg_current_xlog_location" .discard "pg_current_xlog_location",
    gated "pg_current_wal_lsn" .discard "pg_current_xlog_location" [since 10 0],
    gated "pg_xlog_location_diff" .gauge
      "Lag in bytes between master and slave"
      [since 9 2, below 10 0],
    gated "pg_wal_lsn_diff" .gauge "Lag in bytes between master and slave" [since 10 0],
    column "confirmed_flush_lsn" .discard
      "LSN position a consumer of a slot has confirmed flushing the data received",
    gated "write_lag" .discard
      ("Time elapsed between flushing recent WAL locally and receiving notification that this " ++
       "standby server has written it (but not yet flushed it or applied it). This can be used to " ++
       "gauge the delay that synchronous_commit level remote_write incurred while committing if " ++
       "this server was configured as a synchronous standby.")
      [since 10 0],
    gated "flush_lag" .discard
      ("Time elapsed between flushing recent WAL locally and receiving notification that this " ++
       "standby server has written and flushed it (but not yet applied it). This can be used to " ++
       "gauge the delay that synchronous_commit level remote_flush incurred while committing if " ++
       "this server was configured as a synchronous standby.")
      [since 10 0],
    gated "replay_lag" .discard
      ("Time elapsed between flushing recent WAL locally and receiving notification that this " ++
       "standby server has written, flushed and applied it. This can be used to gauge the delay " ++
       "that synchronous_commit level remote_apply incurred while committing if this server was " ++
       "configured as a synchronous standby.")
      [since 10 0] ]

/-- The columns of `pg_stat_activity`. -/
def activityColumns : List Column :=
  [ column "datname" .label "Name of this database",
    gated "state" .label "connection state" [since 9 2],
    column "count" .gauge "number of connections in this state",
    column "max_tx_duration" .gauge
      "max duration in seconds any active transaction has been running" ]

/-- Counts the locks of every mode in every database, none included. -/
def locksQuery : String :=
  "SELECT pg_database.datname, tmp.mode, COALESCE(count, 0) AS count\n" ++
  "FROM\n    " ++
  "(\n      " ++
  "VALUES ('accesssharelock'),\n             " ++
  "('rowsharelock'),\n             " ++
  "('rowexclusivelock'),\n             " ++
  "('shareupdateexclusivelock'),\n             " ++
  "('sharelock'),\n             " ++
  "('sharerowexclusivelock'),\n             " ++
  "('exclusivelock'),\n             " ++
  "('accessexclusivelock')\n    " ++
  ") AS tmp(mode) CROSS JOIN pg_database\n" ++
  "LEFT JOIN\n    " ++
  "(SELECT database, lower(mode) AS mode, count(*) AS count\n     " ++
  "FROM pg_locks WHERE database IS NOT NULL\n     " ++
  "GROUP BY database, lower(mode)\n    " ++
  ") AS tmp2\n" ++
  "ON tmp.mode = tmp2.mode AND pg_database.oid = tmp2.database ORDER BY 1"

/-- The lag of replicas since the log positions became `lsn` values. -/
def replicationQuery10 : String :=
  "SELECT *,\n    " ++
  "(CASE pg_is_in_recovery() WHEN 't' THEN NULL ELSE pg_current_wal_lsn() END) AS " ++
  "pg_current_wal_lsn,\n    " ++
  "(CASE pg_is_in_recovery() WHEN 't' THEN NULL ELSE pg_wal_lsn_diff(pg_current_wal_lsn(), " ++
  "replay_lsn)::float END) AS pg_wal_lsn_diff\n" ++
  "FROM pg_stat_replication"

/-- The lag of replicas by log locations. -/
def replicationQuery92 : String :=
  "SELECT *,\n    " ++
  "(CASE pg_is_in_recovery() WHEN 't' THEN NULL ELSE pg_current_xlog_location() END) AS " ++
  "pg_current_xlog_location,\n    " ++
  "(CASE pg_is_in_recovery() WHEN 't' THEN NULL ELSE " ++
  "pg_xlog_location_diff(pg_current_xlog_location(), replay_location)::float END) AS " ++
  "pg_xlog_location_diff\n" ++
  "FROM pg_stat_replication"

/-- Servers before 9.2 cannot compute a lag. -/
def replicationQuery91 : String :=
  "SELECT *,\n    " ++
  "(CASE pg_is_in_recovery() WHEN 't' THEN NULL ELSE pg_current_xlog_location() END) AS " ++
  "pg_current_xlog_location\n" ++
  "FROM pg_stat_replication"

/-- Counts the connections of every database in every state, none included. -/
def activityQuery92 : String :=
  "SELECT\n    " ++
  "pg_database.datname,\n    " ++
  "tmp.state,\n    " ++
  "COALESCE(count, 0) AS count,\n    " ++
  "COALESCE(max_tx_duration, 0) AS max_tx_duration\n" ++
  "FROM\n    " ++
  "(\n      " ++
  "VALUES ('active'),\n             " ++
  "('idle'),\n             " ++
  "('idle in transaction'),\n             " ++
  "('idle in transaction (aborted)'),\n             " ++
  "('fastpath function call'),\n             " ++
  "('disabled')\n    " ++
  ") AS tmp(state) CROSS JOIN pg_database\n" ++
  "LEFT JOIN\n    " ++
  "(\n      " ++
  "SELECT\n          " ++
  "datname,\n          " ++
  "state,\n          " ++
  "count(*) AS count,\n          " ++
  "MAX(EXTRACT(EPOCH FROM now() - xact_start))::float AS max_tx_duration\n      " ++
  "FROM pg_stat_activity GROUP BY datname, state\n    " ++
  ") AS tmp2\n" ++
  "ON tmp.state = tmp2.state AND pg_database.datname = tmp2.datname"

/-- Servers before 9.2 do not tell a state. -/
def activityQuery91 : String :=
  "SELECT\n    " ++
  "datname,\n    " ++
  "'unknown' AS state,\n    " ++
  "COALESCE(count(*), 0) AS count,\n    " ++
  "COALESCE(MAX(EXTRACT(EPOCH FROM now() - xact_start))::float, 0) AS max_tx_duration\n" ++
  "FROM pg_stat_activity GROUP BY datname"

def builtin : Catalog :=
  ({} : Catalog)
    |>.withView "pg_stat_bgwriter" backgroundWriterColumns
    |>.withView "pg_stat_database" databaseColumns
    |>.withView "pg_stat_database_conflicts" databaseConflictsColumns
    |>.withView "pg_locks" locksColumns
    |>.withView "pg_stat_replication" replicationColumns
    |>.withView "pg_stat_activity" activityColumns
    |>.withOverrides "pg_locks" [⟨⟨[after 0 0]⟩, locksQuery⟩]
    |>.withOverrides "pg_stat_replication"
      [⟨⟨[since 10 0]⟩, replicationQuery10⟩, ⟨⟨[since 9 2, below 10 0]⟩, replicationQuery92⟩,
        ⟨⟨[below 9 2]⟩, replicationQuery91⟩]
    |>.withOverrides "pg_stat_activity"
      [⟨⟨[since 9 2]⟩, activityQuery92⟩, ⟨⟨[below 9 2]⟩, activityQuery91⟩]

end PgMetrics.Catalog
