/-
# Connection pools

A pool holds a limited number of connections to one server. Whoever talks to the server takes a
connection for as long as the server has not answered, and waits if all connections are taken. A
closed pool lets nobody wait: it refuses at once.
-/

import SqlAssist.Config

namespace SqlAssist

/-- The rules of a pool. -/
structure ConnectionPool where
  /-- The most connections that are open at one time. -/
  limit : Nat := 10
  closed : Bool := false
  deriving DecidableEq, Repr

namespace ConnectionPool

/-- The pool that a session opens for itself. -/
def ofConfig (config : Config) : ConnectionPool where
  limit := config.maxConnections

/-- Whether one more connection has to be waited for while some are taken. -/
def isBusy (pool : ConnectionPool) (taken : Nat) : Bool :=
  !pool.closed && pool.limit ≤ taken

end ConnectionPool

end SqlAssist
