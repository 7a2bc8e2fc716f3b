/-
The files that commands find: the usual places of a system and what a
script writes beside them.

A path is followed step by step from the root or from a working
directory; a link stands for the place that it names.  Every file
belongs to the user who runs the commands.

* `Files.find_write`: what is written is found.
-/
import RemoteOps.Dict

namespace RemoteOps

/-- What is at a place. -/
inductive FileNode where
  | directory
  | device
  /-- A file that can be run. -/
  | program
  | text (content : String)
  /-- Another name of a place. -/
  | link (target : String)
deriving DecidableEq, Repr, Inhabited

/-- The files, by the names of their places. -/
abbrev Files := Dict FileNode

/-- Where a path leads. -/
inductive Place where
  | found (path : String) (node : FileNode)
  /-- There is nothing there, but a file could be made. -/
  | absent (path : String)
  | nowhere
deriving DecidableEq, Repr, Inhabited

namespace Files

/-! ### Paths -/

/-- The steps of a path. -/
def steps (path : String) : List String :=
  (path.toList.splitOn '/').map String.ofList

/-- The name of a place, from the steps that lead there, the last
first. -/
def pathOf (back : List String) : String :=
  if back.isEmpty then "/"
  else back.foldl (fun path step => "/" ++ step ++ path) ""

/-- Whether a step stays where it is. -/
def isStill (step : String) : Bool := step = "" || step = "."

/-- Follows steps from a place. A link at the very end is followed only
if that is wanted. -/
def walk (files : Files) (follow : Bool) :
    Nat → List String → List String → Place
  | 0, _, _ => .nowhere
  | _, back, [] => .found (pathOf back) .directory
  | fuel + 1, back, step :: rest =>
    if isStill step then walk files follow fuel back rest
    else if step = ".." then walk files follow fuel back.tail rest
    else
      let path := pathOf (step :: back)
      match files.find? path with
      | none => if rest.isEmpty then .absent path else .nowhere
      | some .directory => walk files follow fuel (step :: back) rest
      | some (.link target) =>
        if rest.isEmpty && !follow then .found path (.link target)
        else walk files follow fuel [] (steps target ++ rest)
      | some node =>
        if rest.isEmpty then .found path node else .nowhere

/-- Where a path leads from a working directory. -/
def locate (files : Files) (working : String) (follow : Bool)
    (path : String) : Place :=
  if path = "" then .nowhere
  else
    let start := if path.startsWith "/" then [] else steps working
    let all := start ++ steps path
    walk files follow (16 * all.length + 256) [] all

/-- What is at the end of a path. -/
def node? (files : Files) (working path : String) : Option FileNode :=
  match files.locate working true path with
  | .found _ node => some node
  | _ => none

/-! ### Questions -/

/-- Places that keep their files from being taken away by others. -/
def isSticky (path : String) : Bool :=
  ["/tmp", "/var/tmp", "/dev/shm", "/run/lock"].contains path

/-- What a sign says about the file at the end of a path. -/
def says? (files : Files) (working : String) (sign : Char)
    (path : String) : Bool :=
  if sign = 'h' || sign = 'L' then
    match files.locate working false path with
    | .found _ (.link _) => true
    | _ => false
  else
    match files.locate working true path with
    | .found place node =>
      match sign with
      | 'e' | 'r' | 'w' | 'O' | 'G' => true
      | 'f' => match node with | .program | .text _ => true | _ => false
      | 'd' => node = .directory
      | 'c' => node = .device
      | 'x' => node = .directory || node = .program
      | 's' => node ≠ .device && node ≠ .text ""
      | 'k' => isSticky place
      | _ => false
    | _ => false

/-- Whether two paths lead to the same file. -/
def same (files : Files) (working x y : String) : Bool :=
  match files.locate working true x, files.locate working true y with
  | .found p _, .found q _ => p = q
  | _, _ => false

/-! ### Programs -/

/-- The last step of a place. -/
def baseName (path : String) : String := (steps path).getLastD ""

/-- The places that a search path names. -/
def searchPlaces (searchPath name : String) : List String :=
  (searchPath.toList.splitOn ':').map fun place =>
    if place.isEmpty then name else String.ofList place ++ "/" ++ name

/-- Whether the file at the end of a path can be run. -/
def isProgram (files : Files) (working path : String) : Bool :=
  files.node? working path = some .program

/-- The path of a command: a name without a slash is looked for. -/
def search? (files : Files) (working searchPath name : String) :
    Option String :=
  if name.toList.contains '/' then some name
  else if name = "" then none
  else (searchPlaces searchPath name).find? (files.isProgram working)

/-! ### Writing -/

/-- Puts a text at a place. -/
def write (files : Files) (path content : String) : Files :=
  files.insert path (.text content)

/-! ### The usual places -/

/-- The usual directories. -/
def directories : List String :=
  ["/boot", "/dev", "/dev/pts", "/dev/shm", "/etc", "/home", "/media",
    "/mnt", "/opt", "/proc", "/proc/self", "/proc/self/fd", "/proc/1",
    "/root", "/run", "/run/lock", "/srv", "/sys", "/tmp", "/usr",
    "/usr/bin", "/usr/games", "/usr/include", "/usr/lib", "/usr/lib64",
    "/usr/local", "/usr/local/bin", "/usr/local/lib",
    "/usr/local/sbin", "/usr/local/share", "/usr/sbin", "/usr/share",
    "/usr/src", "/var", "/var/cache", "/var/lib", "/var/log",
    "/var/spool", "/var/tmp"]

/-- The usual devices. -/
def devices : List String :=
  ["/dev/full", "/dev/null", "/dev/ptmx", "/dev/random", "/dev/tty",
    "/dev/urandom", "/dev/zero"]

/-- The usual links. -/
def links : List (String × String) :=
  [("/bin", "/usr/bin"), ("/sbin", "/usr/sbin"), ("/lib", "/usr/lib"),
    ("/lib64", "/usr/lib64"), ("/var/run", "/run"),
    ("/var/lock", "/run/lock"), ("/usr/bin/sh", "/usr/bin/dash"),
    ("/dev/fd", "/proc/self/fd")]

/-- The usual programs. -/
def programs : List String :=
  ["[", "arch", "awk", "base32", "base64", "basename", "bash", "cat",
    "chgrp", "chmod", "chown", "cksum", "cmp", "comm", "cp", "cut",
    "dash", "date", "dd", "df", "diff", "dir", "dirname", "du", "echo",
    "egrep", "env", "expand", "expr", "factor", "false", "fgrep", "find",
    "fmt", "fold", "getopt", "grep", "groups", "gunzip", "gzip", "head",
    "hostid", "hostname", "id", "install", "join", "kill", "ln",
    "logger", "login", "logname", "ls", "md5sum", "mkdir", "mkfifo",
    "mknod", "mktemp", "more", "mount", "mv", "nice", "nl", "nohup",
    "nproc", "numfmt", "od", "paste", "pathchk", "perl", "pinky", "pr",
    "printenv", "printf", "ptx", "pwd", "readlink", "realpath", "rev",
    "rm", "rmdir", "sed", "seq", "setsid", "sha1sum", "sha256sum",
    "sha512sum", "shred", "shuf", "sleep", "sort", "split", "stat",
    "stdbuf", "stty", "su", "sum", "sync", "tac", "tail", "tar", "tee",
    "tempfile", "test", "timeout", "touch", "tr", "true", "truncate",
    "tsort", "tty", "umount", "uname", "unexpand", "uniq", "unlink",
    "users", "vdir", "wc", "which", "who", "whoami", "xargs", "yes"]

/-- Usual files that hold something. -/
def texts : List String :=
  ["/etc/bash.bashrc", "/etc/debian_version", "/etc/fstab",
    "/etc/host.conf", "/etc/hostname", "/etc/issue", "/etc/ld.so.conf",
    "/etc/nsswitch.conf", "/etc/os-release", "/etc/profile",
    "/etc/resolv.conf", "/etc/shells", "/proc/cpuinfo", "/proc/meminfo",
    "/proc/mounts", "/proc/uptime", "/proc/version"]

/-- Usual files of which every line starts with a name of its own. -/
def tables : List (String × String) :=
  [("/etc/group", "root:x:0:\n"), ("/etc/hosts", "127.0.0.1 localhost\n"),
    ("/etc/passwd", "root:x:0:0:root:/root:/bin/bash\n"),
    ("/etc/shadow", "root:*:0:0:99999:7:::\n")]

/-- The files of a system at the start. -/
def usual : Files :=
  let files : Files := directories.foldl (·.insert · .directory) .empty
  let files := devices.foldl (·.insert · .device) files
  let files := programs.foldl
    (fun files p => files.insert ("/usr/bin/" ++ p) .program) files
  let files := texts.foldl (·.insert · (.text "\n")) files
  let files := tables.foldl
    (fun files t => files.insert t.1 (.text t.2)) files
  links.foldl (fun files l => files.insert l.1 (.link l.2)) files

theorem find_write (files : Files) (path content : String) :
    (files.write path content).find? path = some (.text content) := by
  simp [write]

end Files

end RemoteOps
