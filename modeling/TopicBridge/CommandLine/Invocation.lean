import TopicBridge.CommandLine.Arguments
import TopicBridge.Config.File
import TopicBridge.Product
import TopicBridge.Report

/-! # Invocations

What a command line leads to. Most of them end at once, with a status and an output; one that asks
for nothing special starts the server.
-/

namespace TopicBridge

/-- What a command line leads to. -/
inductive Invocation
  /-- The program ends. -/
  | ended (status : Nat) (output : String)
  /-- The command line is explained, in words that are not settled here. -/
  | explained
  /-- The command line is refused. -/
  | refused (cause : Halt)
  /-- The configuration cannot be used. -/
  | unusable (fault : ConfigFault)
  /-- The server is started. -/
  | started (c : Config)
  deriving DecidableEq, Repr

namespace Invocation

/-- The status that the program ends with, unless the server is started. -/
def status? : Invocation → Option Nat
  | ended status _ => some status
  | explained => some 0
  | refused _ => some 2
  | unusable _ => some 1
  | started _ => none

/-- What is written. -/
def output : Invocation → String
  | ended _ output => output
  | _ => ""

/-- Carries options out for a configuration. -/
def ofConfig (o : Options) (c : Config) : Invocation :=
  if o.validate then ended 0 ((Report.ofConfig c).validation o.outputFormat)
  else if o.dryRun then ended 0 ((Report.ofConfig c).dryRun o.outputFormat)
  else started c

/-- Carries options out; the configuration is in one of the files. -/
def ofOptions (file : String → Option (List UInt8)) (o : Options) : Invocation :=
  match (Config.ofFile (file o.config)).bind o.override with
  | .ok c => ofConfig o c
  | .error fault => unusable fault

/-- What the command line leads to under an environment and with files. -/
def ofArguments (args : List String) (environment : List (String × String))
    (file : String → Option (List UInt8)) : Invocation :=
  match Options.read args environment with
  | .ok o => ofOptions file o
  | .error .help => explained
  | .error .version => ended 0 (Product.name ++ " " ++ Product.version ++ "\n")
  | .error halt => refused halt

end Invocation

end TopicBridge
