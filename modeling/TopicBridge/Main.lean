import TopicBridge.CommandLine.Invocation

/-! # The program

The command line of the bridge. There is no network here, so a server that is asked for cannot
listen.
-/

namespace TopicBridge

/-- The variables of the environment that say something about a setting. -/
def settingVariables : IO (List (String × String)) := do
  let found ← (Setting.all.filterMap Setting.environmentName?).mapM fun name => do
    return (← IO.getEnv name).map fun value => (name, value)
  return found.filterMap id

/-- The content of a file, if it can be read. -/
def contentOf (path : String) : IO (Option (List UInt8)) := do
  try
    return some (← IO.FS.readBinFile path).toList
  catch _ =>
    return none

/-- The arguments that there are, one a line. -/
def usage : String :=
  "Usage: " ++ Product.name ++ " [OPTIONS]\n" ++
    String.join (Setting.all.map fun x =>
      "  --" ++ x.name ++ (if x.takesValue then " <VALUE>\n" else "\n"))

/-- What is told about an invocation beside its output. -/
def remark : Invocation → String
  | .refused _ => "The command line is not understood.\n" ++ usage
  | .unusable fault => "Error: " ++ fault.message?.getD "The configuration cannot be read." ++ "\n"
  | .started c =>
    "Error: Cannot listen at " ++ c.server.bindAddress ++ ":" ++ toString c.server.port ++ "\n"
  | _ => ""

/-- Carries out the command line. -/
def run (args : List String) : IO UInt32 := do
  let environment ← settingVariables
  let path := (Options.read args environment).toOption.getD .standard |>.config
  let content ← contentOf path
  let invocation := Invocation.ofArguments args environment fun _ => content
  IO.print (if invocation = .explained then usage else invocation.output)
  IO.eprint (remark invocation)
  return UInt32.ofNat (invocation.status?.getD 1)

end TopicBridge

/-- The program. -/
def main (args : List String) : IO UInt32 := TopicBridge.run args
