import PipeShell.Programs.Launch

/-!
# The installed system

The file tree that every world starts from: the usual directories, the devices, and the programs.
-/

namespace PipeShell

namespace Programs

def directories : List Place :=
  [["dev"], ["etc"], ["home"], ["lib"], ["opt"], ["proc"], ["root"], ["run"], ["sbin"],
    ["srv"], ["sys"], ["tmp"], ["usr"], ["usr", "bin"], ["usr", "lib"], ["usr", "local"],
    ["usr", "local", "bin"], ["usr", "sbin"], ["usr", "share"], ["var"], ["var", "log"],
    ["var", "tmp"]]

def installedEntries : List (Place × Node) :=
  directories.map (·, .directory) ++
    [(["bin"], .link "usr/bin"), (["dev", "null"], .device .null),
      (["dev", "full"], .device .full)] ++
    names.map fun name => (["usr", "bin", name], .program name)

def installed : FileTree := ⟨installedEntries⟩

end Programs

/-- The installed programs are those that a shell can start. -/
instance : Launching := ⟨Programs.launch⟩

def World.installed (directory : Place) : World :=
  { files := (Programs.installed.putParents directory).put directory .directory
    process := { directory } }

end PipeShell
