import TraceOverhead.Cpu.Listing
import TraceOverhead.Host
/-!
Switching CPUs on and off. The kernel lists the CPUs that are online and those that are offline in
two files, and every CPU that can be switched has a file of its own.
-/

namespace TraceOverhead.Hotplug

def systemRoot : String := "/sys/devices/system/cpu"

def readSet (root name : String) : Attempt host CpuSet := do
  let text ← Host.readText (Path.join root name)
  (CpuListing.parse text : Except Error CpuSet)

def online (root : String) : Attempt host CpuSet := readSet root "online"

def offline (root : String) : Attempt host CpuSet := readSet root "offline"

def onlineCount (root : String) : Attempt host Nat := do return (← online root).size

def switchPath (root : String) (cpu : Nat) : String :=
  Path.join (Path.join root ("cpu" ++ Number.decimal cpu)) "online"

def switch (root : String) (on : Bool) (cpu : Nat) : Attempt host Unit :=
  Host.writeText (switchPath root cpu) (if on then "1" else "0")

/-- Switches CPUs in the order given until one fails. -/
def switchAll (root : String) (on : Bool) : List Nat → Attempt host Unit
  | [] => pure ()
  | cpu :: cpus => do
    switch root on cpu
    switchAll root on cpus

/-- Leaves just the given CPUs online: first the others are switched off, then, going by the list
as it is by then, the missing ones on. -/
def setOnline (root : String) (cpus : CpuSet) : Attempt host Unit := do
  switchAll root false (CpuSet.diff (← online root) cpus)
  switchAll root true (CpuSet.inter (← offline root) cpus)

/-- Leaves just the given CPUs offline. -/
def setOffline (root : String) (cpus : CpuSet) : Attempt host Unit := do
  switchAll root false (CpuSet.inter (← online root) cpus)
  switchAll root true (CpuSet.diff (← offline root) cpus)

def confirmCount (root : String) (count : Nat) : Attempt host Unit := do
  let reached ← onlineCount root
  if reached = count then Host.info (Number.decimal count ++ " CPUs online")
  else throw (.cpu (.notReached reached count))

/-- Switches off the highest CPUs or switches on the lowest ones until `count` are online. What
cannot be reached fails before any CPU is switched. -/
def setCount (root : String) (count : Nat) : Attempt host Unit := do
  let online ← online root
  let offline ← offline root
  if online.size + offline.size < count then throw (.cpu (.tooMany count offline.size))
  else if count = 0 then throw (.cpu .tooFew)
  else if count = online.size then pure ()
  else
    if count < online.size then
      switchAll root false (online.toList.reverse.take (online.size - count))
    else
      switchAll root true (offline.toList.take (count - online.size))
    confirmCount root count

/-- Brings back the CPUs that were online before. A failure is only logged. -/
def restore (root : String) (saved : CpuSet) : Dialogue host Unit := do
  match ← (setOnline root saved).outcome with
  | .ok () => pure ()
  | .error failure =>
    Host.warn ("failed to restore online CPUs " ++ saved.describe ++ ": " ++ failure.message)

end TraceOverhead.Hotplug
