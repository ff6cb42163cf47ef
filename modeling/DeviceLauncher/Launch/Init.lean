import DeviceLauncher.Install.File
import DeviceLauncher.Launch.Context
import DeviceLauncher.Log.Setup

/-!
# The steps of `init`

`init` installs the program that runs, makes the configuration directory, and copies the manifests
into it. What is there already is replaced. A program that runs from where it would be installed
is left as it is.
-/

namespace DeviceLauncher.Launch

/-- Whether two paths lead to the same place. -/
def samePlace (fs : FileSystem) (cwd : Inode) (p q : Path) : Except Failure Bool := do
  let p ← (fs.canonical cwd p).mapError Log.ofUnresolved
  let q ← (fs.canonical cwd q).mapError Log.ofUnresolved
  return p = q

/-- Whether the program that runs is already where it would be installed. -/
def isInstalled (fs : FileSystem) (cwd : Inode) (source target : Path) : Except Failure Bool := do
  let found ← (fs.look cwd target.toString).mapError fun e => .os e (.path target.toString)
  if found.isSome then samePlace fs cwd source target else return false

/-- Installs the program that runs. A lone script could not run once it is installed. -/
def installBinary : Step where
  id := "10_install_binary"
  run context := do
    let argv := (← get).argv
    let source ← setting context fun c e => c.executable e argv
    let target ← setting context Config.installedBinary
    if source.suffix = ".py" then throw (.scriptOnly source.toString)
    let m ← get
    if ← Action.ofExcept (isInstalled m.files m.cwd source target) then
      Action.report (.alreadyInstalled target.toString)
      return .code 0
    Install.installFile source.toString target.toString context.dryRun
    Action.report (.installed target.toString)
    return .code 0

/-- Makes the configuration directory. -/
def configDirectory : Step where
  id := "20_config_dir"
  run context := do
    let directory ← setting context Config.configDirectory
    Install.ensureDirectory directory.toString context.dryRun
    return .code 0

/-- Copies files one after the other. A failure leaves the earlier copies in place. -/
def copyAll (dryRun : Bool) : List Manifest → Action Unit
  | [] => return ()
  | m :: rest => do
    Install.installFile m.source.toString m.target.toString dryRun
    copyAll dryRun rest

/-- Copies the manifests. All entries are checked before the first copy. -/
def copyManifests : Step where
  id := "30_copy_manifests"
  run context := do
    let manifests ← setting context Config.manifests
    copyAll context.dryRun manifests
    let directory ← setting context Config.configDirectory
    Action.report (.manifestsInstalled directory.toString manifests.length)
    return .code 0

/-- The steps of `init`. -/
def initSteps : List Step := [installBinary, configDirectory, copyManifests]

end DeviceLauncher.Launch
