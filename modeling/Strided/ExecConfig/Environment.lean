import Strided.ExecConfig

/-! Settings taken from environment variables. -/

set_option autoImplicit false

namespace Strided.ExecConfig

/-- The settings of a machine with the given number of workers and the given directory for caches,
before anything overrides them. -/
def ofMachine (workers : Nat) (cacheHome : Option String) : ExecConfig where
  numThreads := workers
  kernelCacheDir := cacheHome.map (· ++ "/spacetensor/ptx")

/-- A number of workers fits a machine word. -/
def maxThreads : Nat := 18446744073709551615

/-- A switch is on for a few words in any mixture of cases, and off for all others. -/
def readSwitch (text : String) : Bool :=
  ["1", "true", "on", "yes"].contains (text.map Char.toLower)

/-- A directory; nothing, `off` and `0` turn the cache off. -/
def readCacheDir (text : String) : Option String :=
  if ["", "off", "0"].contains text then none else some text

def readThreads (text : String) : Except Error Nat :=
  Error.ofForeign ("SPACETENSOR_NUM_THREADS=" ++ text)
    ((Text.readNat maxThreads (Text.trimBlanks text.toList)).mapError .unreadableInteger)

/-- Override settings by the variables that are set, and validate the outcome. -/
def override (base : ExecConfig) (lookup : String → Option String) :
    Except Error ExecConfig := do
  let switch (name : String) (otherwise : Bool) := ((lookup name).map readSwitch).getD otherwise
  let workers ← match lookup "SPACETENSOR_NUM_THREADS" with
    | some text => readThreads text
    | none => pure base.numThreads
  let settings := { base with
    numThreads := workers
    forceLinear := switch "SPACETENSOR_FORCE_LINEAR" base.forceLinear
    syncAfterLaunch := switch "SPACETENSOR_SYNC_LAUNCH" base.syncAfterLaunch
    fastMath := switch "SPACETENSOR_FAST_MATH" base.fastMath
    kernelCacheDir := match lookup "SPACETENSOR_KERNEL_CACHE" with
      | some text => readCacheDir text
      | none => base.kernelCacheDir }
  settings.validate
  return settings

end Strided.ExecConfig
