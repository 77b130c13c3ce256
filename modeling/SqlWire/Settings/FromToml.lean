import SqlWire.Settings.ConnectOptions
import SqlWire.Settings.ServerConfig
import SqlWire.Toml.Document

/-! # Options in TOML documents

The options of a connection refuse a key that they do not know; those of the server do not
look at it. What a known key holds must have the type of the option.
-/

namespace SqlWire

namespace Toml

def Item.text? : Item → Option String
  | text s => some s
  | _ => none

def Item.boolean? : Item → Option Bool
  | boolean b => some b
  | _ => none

def Item.natural? (limit : Nat) : Item → Option Nat
  | integer n => if 0 ≤ n ∧ n ≤ limit then some n.toNat else none
  | _ => none

end Toml

open Decimal (word64Max)

def ConnectOptions.setItem? (o : ConnectOptions) (key : String) (item : Toml.Item) :
    Option ConnectOptions := do
  match key with
  | "host" => return { o with host := ← item.text? }
  | "port" => return { o with port := UInt16.ofNat (← item.natural? 65535) }
  | "user" => return { o with user := ← item.text? }
  | "password" => return { o with password := some (← item.text?) }
  | "database" => return { o with database := some (← item.text?) }
  | "application_name" => return { o with applicationName := some (← item.text?) }
  | "connect_timeout" =>
    return { o with connectTimeout := Duration.ofSeconds (← item.natural? word64Max) }
  | "statement_timeout" =>
    return { o with statementTimeout := timeoutOfMillis (← item.natural? word64Max) }
  | "autocommit" => return { o with autocommit := ← item.boolean? }
  | _ => none

def ConnectOptions.ofToml? (document : String) : Option ConnectOptions := do
  (← Toml.parse? document).foldlM (fun o (key, item) => o.setItem? key item) {}

def ServerConfig.setItem? (c : ServerConfig) (key : String) (item : Toml.Item) :
    Option ServerConfig := do
  match key with
  | "listen_addr" => return { c with listenAddress := ← SocketAddress.parse? (← item.text?) }
  | "database_path" => return { c with databasePath := ← item.text? }
  | "password" => return { c with password := some (← item.text?) }
  | "busy_timeout_ms" =>
    return { c with busyTimeout := Duration.ofMillis (← item.natural? word64Max) }
  | _ => return c

/-- The options of a server that a document spells; the path of the database must be among
them. -/
def ServerConfig.ofToml? (document : String) : Option ServerConfig := do
  let entries ← Toml.parse? document
  let path ← (← entries.get? "database_path").text?
  entries.foldlM (fun c (key, item) => c.setItem? key item) { databasePath := path }

end SqlWire
