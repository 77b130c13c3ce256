import SqlWire.Duration
import SqlWire.Settings.SocketAddress

/-! # Options of a server -/

namespace SqlWire

structure ServerConfig where
  databasePath : String
  listenAddress : SocketAddress := SocketAddress.loopback
  /-- The password that every client must give, if there is one. -/
  password : Option String := none
  /-- How long a session waits for a locked database. -/
  busyTimeout : Duration := Duration.ofMillis 5000
  deriving DecidableEq, Repr

end SqlWire
