import Dispatch.Console.Value
import Dispatch.Json.Record
import Dispatch.Net.Socket

/-!
# Options of the server

## Main definitions

* `ServerOptions`: how the server is to run.
* `ServerOptions.read`: the options that a command line gives.
-/

namespace Dispatch

/-- **How the server is to run.** -/
structure ServerOptions where
  /-- The address to listen on. -/
  listen : SocketAddress
  /-- Where the database is. -/
  databaseUrl : Option String
  /-- All records are kept in memory, whether or not there is a database. -/
  inMemory : Bool
  /-- The beginning of the addresses in commit statuses. -/
  publicUrl : String
  /-- The address of the code host. -/
  githubApi : Url
  /-- After how many seconds a request to the code host is given up. -/
  githubTimeout : UInt64
  /-- How many notifications can wait. -/
  statusBuffer : UInt64
  /-- The log is written in JSON. -/
  logJson : Bool

namespace ServerOptions

open Console

/-- The command line of the server. -/
def grammar : Command where
  name := "ferry-server"
  about := "ferry CI scheduler"
  parameters := [
    (Parameter.option "listen" "Address to listen on").orVariable "FERRY_LISTEN"
      |>.orElse "0.0.0.0:3000" |>.reads SocketAddress.parse?,
    (Parameter.option "database-url" "PostgreSQL connection string").orVariable "DATABASE_URL",
    (Parameter.switch "in-memory" ("Keep all state in memory instead of PostgreSQL; takes " ++
      "precedence over `--database-url`")).orVariable "FERRY_IN_MEMORY",
    (Parameter.option "public-url" "Base URL used in commit status links").orVariable
      "FERRY_PUBLIC_URL" |>.orElse "http://localhost:3000",
    (Parameter.option "github-api" "GitHub REST API endpoint").orVariable "FERRY_GITHUB_API"
      |>.orElse "https://api.github.com" |>.reads url?,
    (Parameter.option "github-timeout" "Seconds before a code-host request is abandoned").orVariable
      "FERRY_GITHUB_TIMEOUT" |>.orElse "30" |>.reads uint64?,
    (Parameter.option "status-buffer" ("Status notifications held before new ones are " ++
      "dropped")).orVariable "FERRY_STATUS_BUFFER" |>.orElse "1024" |>.reads uint64?,
    (Parameter.switch "log-json" "Log as JSON").orVariable "FERRY_LOG_JSON"]
  subcommands := []

/-- The options in what the command has been given. -/
def ofLevel? (l : Level) : Option ServerOptions := do
  return {
    listen := ← l.get? "listen" SocketAddress.parse?
    databaseUrl := l.value? "database-url"
    inMemory := l.isOn "in-memory"
    publicUrl := ← l.value? "public-url"
    githubApi := ← l.get? "github-api" url?
    githubTimeout := ← l.get? "github-timeout" uint64?
    statusBuffer := ← l.get? "status-buffer" uint64?
    logJson := l.isOn "log-json" }

/-- The **options** that the words of a command line give. -/
def read (environment : String → Option String) (words : List String) :
    Except Ending ServerOptions := do
  match (← Console.read environment grammar words).head?.bind ofLevel? with
  | some options => return options
  | none => throw .misuse

/-- The options as a record. -/
def toJson (o : ServerOptions) : Json :=
  .object [("listen", .text o.listen.text), ("database_url", .ofOption .text o.databaseUrl),
    ("in_memory", .bool o.inMemory), ("public_url", .text o.publicUrl),
    ("github_api", .text o.githubApi.text), ("github_timeout", .int o.githubTimeout.toNat),
    ("status_buffer", .int o.statusBuffer.toNat), ("log_json", .bool o.logJson)]

end ServerOptions

end Dispatch
