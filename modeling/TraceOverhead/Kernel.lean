import TraceOverhead.Host
/-!
The benchmark in the kernel: two modules, one with a loop and one with the tracepoint that the loop
passes, and a directory of files through which the loop is run and timed. The modules that were
inserted for it are kept track of, so that they and no others are removed again.
-/

namespace TraceOverhead

structure KernelModule where
  path : String
  /-- Where the system lists the modules that are loaded. -/
  root : String
  deriving DecidableEq, Repr

namespace KernelModule

def systemRoot : String := "/sys/module"

def name (module : KernelModule) : String := Path.fileStem module.path

def isLoaded (module : KernelModule) : Dialogue host Bool :=
  Host.ask (.pathExists (Path.join module.root module.name))

/-- Says whether the module had to be inserted. -/
def load (module : KernelModule) : Attempt host Bool := do
  if ← module.isLoaded then return false
  discard (Host.output "insmod" [module.path])
  Host.info ("loaded " ++ module.name)
  return true

def unload (module : KernelModule) : Attempt host Unit := do
  if ← module.isLoaded then
    discard (Host.output "rmmod" [module.name])
    Host.info ("unloaded " ++ module.name)

end KernelModule

structure KernelBench where
  main : KernelModule
  probe : KernelModule
  /-- The directory with the files `count`, `time` and `events`. -/
  sysfs : String
  deriving DecidableEq, Repr

/-- The modules that were inserted and not yet taken up for removal, the last one first. -/
abbrev Inserted := List KernelModule

namespace KernelBench

def systemSysfs : String := "/sys/kernel/lttng_benchmark"

def inDirectory (directory : String) : KernelBench :=
  { main := ⟨Path.join directory "lttng_benchmark.ko", KernelModule.systemRoot⟩
    probe := ⟨Path.join directory "lttng_benchmark_probe.ko", KernelModule.systemRoot⟩
    sysfs := systemSysfs }

def loadAll : List KernelModule → Inserted → Dialogue host (Inserted × Except Error Unit)
  | [], inserted => pure (inserted, .ok ())
  | module :: modules, inserted => do
    match ← module.load.outcome with
    | .error failure => pure (inserted, .error failure)
    | .ok true => loadAll modules (module :: inserted)
    | .ok false => loadAll modules inserted

/-- Microseconds as a text of the kernel, in seconds. -/
def readTime (text : String) : Except Error Float :=
  match Number.readFloat (Text.trim text) with
  | .ok microseconds => .ok (microseconds / 1e6)
  | .error fault => .error (.io (.badTime text fault))

/-- Runs the loop `count` times on every CPU and reads how long it took. -/
def runLoop (bench : KernelBench) (count : UInt64) : Attempt host Float := do
  Host.writeText (Path.join bench.sysfs "count") (Number.decimal count.toNat)
  let text ← Host.readText (Path.join bench.sysfs "time")
  (readTime text : Except Error Float)

def benchmark (bench : KernelBench) (count : UInt64) (inserted : Inserted) :
    Dialogue host (Inserted × Except Error Float) := do
  match ← loadAll [bench.main, bench.probe] inserted with
  | (inserted, .error failure) => pure (inserted, .error failure)
  | (inserted, .ok ()) => do
    let time ← (bench.runLoop count).outcome
    pure (inserted, time)

def lines (text : String) : List String :=
  (Text.pieces '\n' text.toList).map String.ofList

/-- The tracepoints of the loop, a line each; blanks at the end of a line do not count. -/
def events (bench : KernelBench) : Attempt host (List String) := do
  let text ← Host.readText (Path.join bench.sysfs "events")
  return ((lines text).map Text.trimEnd).filter fun line => !line.isEmpty

/-- Removes the inserted modules, the last one first, until one fails. A module that was taken up is
not taken up again, whether its removal succeeded or not. -/
def unload : Inserted → Dialogue host (Inserted × Except Error Unit)
  | [] => pure ([], .ok ())
  | module :: inserted => do
    match ← module.unload.outcome with
    | .error failure => pure (inserted, .error failure)
    | .ok () => unload inserted

/-- Removes what can be removed when the benchmark is no longer needed. -/
def release (inserted : Inserted) : Dialogue host Inserted := do
  match ← unload inserted with
  | (inserted, .ok ()) => pure inserted
  | (inserted, .error failure) => do
    Host.warn ("failed to unload kernel modules: " ++ failure.message)
    pure inserted

end KernelBench
end TraceOverhead
