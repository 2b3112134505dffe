import TunnelProxy.Service.Setup

/-!
# Command line

`server` and `client` set up a tunnel server or a front-end by its configuration file, or by the
default settings without one, and print what was set up.  A failure is printed with its cause, and
the exit code is 1.
-/

namespace TunnelProxy
namespace CommandLine

/-- Which half of the tunnel is set up, and by which configuration file. -/
inductive Command where
  /-- The tunnel server. -/
  | server (file : Option String)
  /-- The front-end. -/
  | client (file : Option String)
  deriving DecidableEq, Inhabited

/-- The configuration file among the arguments. -/
def file? : List String → Option (Option String)
  | [] => some none
  | ["-c", file] => some (some file)
  | ["--config", file] => some (some file)
  | _ => none

/-- The command in the arguments. -/
def command? : List String → Option Command
  | "server" :: arguments => (file? arguments).map .server
  | "client" :: arguments => (file? arguments).map .client
  | _ => none

/-- How to call the program. -/
def usage : String := "Usage: tunnelproxy <server|client> [-c FILE]"

/-- The text of a failure with what was being done. -/
def failure (doing : String) (cause : ServiceError) : String :=
  s!"Error: {doing}\n\nCaused by:\n    {cause.message}"

/-- Set up a tunnel server. -/
def server (config : ServerConfig) (files : Config.Files) : Except String String :=
  match config.setup files with
  | .ok setup => .ok (setup.describe config)
  | .error cause => .error (failure "tunnel server" cause)

/-- Set up a front-end. -/
def client (config : ClientConfig) (files : Config.Files) : Except String String :=
  match config.setup files with
  | .ok setup => .ok (setup.describe config)
  | .error cause => .error (failure "socks front-end" cause)

/-- The contents of a file. -/
def readFile (name : String) : IO (Except IoError String) := do
  try
    return .ok (← IO.FS.readFile name)
  catch cause =>
    match cause with
    | .noFileOrDirectory .. => return .error Config.missingFile
    | .permissionDenied .. => return .error ⟨.permissionDenied, "Permission denied (os error 13)"⟩
    | other => return .error ⟨.other, toString other⟩

/-- The settings in a file, or the default settings without one. -/
def settings {α : Type} (load : Config.Files → String → Except ServiceError α) (initial : α)
    (kind : String) : Option String → IO (Except String α)
  | none => return .ok initial
  | some name => do
      let contents ← readFile name
      return (load (fun _ => contents) name).mapError (failure s!"{kind} config: {name}")

/-- The rules which a configuration names. -/
def rulesFile (name : Option String) : IO Config.Files := do
  match name with
  | none => return fun _ => .error Config.missingFile
  | some name =>
      let contents ← readFile name
      return fun _ => contents

/-- Carry out a command. -/
def run : Command → IO (Except String String)
  | .server file => do
      match ← settings ServerConfig.load {} "server" file with
      | .error text => return .error text
      | .ok config => return server config (← rulesFile config.rules)
  | .client file => do
      match ← settings ClientConfig.load {} "client" file with
      | .error text => return .error text
      | .ok config => return client config (← rulesFile config.rules)

end CommandLine
end TunnelProxy

open TunnelProxy in
/-- Set up a service by the arguments of the command line. -/
def main (arguments : List String) : IO UInt32 := do
  match CommandLine.command? arguments with
  | none =>
      IO.eprintln CommandLine.usage
      return 2
  | some command =>
      match ← CommandLine.run command with
      | .ok text =>
          IO.println text
          return 0
      | .error text =>
          IO.eprintln text
          return 1
