import Cadence.Host.Machine

namespace Cadence

namespace Host

/-!
# The installed system

The files of a freshly installed machine: the usual directories, devices and
programs, a few tables, and what a process starts with.
-/

/-- A file of the installed system. -/
inductive Installed
  | directory (mode : Nat)
  | regular (lines : List String)
  | link (target : String)
  | device (device : Device)
  | program (name : String)
  | descriptors

namespace Installed

/-- The time of the installation. -/
def time : Nat := 1745000000 * Nat.pow 10 9

/-- The mode of an installed file. -/
def mode : Installed → Nat
  | .directory mode => mode
  | .regular _ => 0o644
  | .link _ => 0o777
  | .device _ => 0o666
  | .program _ => 0o755
  | .descriptors => 0o500

/-- The content of an installed file in a directory. -/
def content (installed : Installed) (parent : Nat) : Content :=
  match installed with
  | .directory _ => .directory [] parent
  | .regular lines => .regular (lines.flatMap fun line => line.toList ++ ['\n'])
  | .link target => .link target.toList
  | .device kind => .device kind
  | .program name => .program name
  | .descriptors => .descriptors parent

/-- The files with one more installed at a path, whose directory must be there. -/
def addTo (files : Files) (path : String) (installed : Installed) : Files :=
  match files.locate 0 path.toList false with
  | .ok ⟨parent, name, .vacancy⟩ =>
      (files.make parent name (installed.content parent) installed.mode time).2
  | _ => files

end Installed

/-- The directories of an installed system. -/
def installedDirectories : List String :=
  ["/boot", "/dev", "/etc", "/home", "/media", "/mnt", "/opt", "/proc", "/run", "/srv", "/sys",
    "/usr", "/var", "/work", "/dev/pts", "/etc/alternatives", "/etc/apt", "/etc/cron.d",
    "/etc/cron.daily", "/etc/default", "/etc/init.d", "/etc/pam.d", "/etc/profile.d",
    "/etc/security", "/etc/skel", "/etc/ssl", "/proc/sys", "/run/lock", "/usr/bin",
    "/usr/games", "/usr/include", "/usr/lib", "/usr/lib64", "/usr/libexec", "/usr/local",
    "/usr/sbin", "/usr/share", "/usr/src", "/usr/local/bin", "/usr/local/etc",
    "/usr/local/games", "/usr/local/include", "/usr/local/lib", "/usr/local/sbin",
    "/usr/local/share", "/usr/local/src", "/usr/share/doc", "/usr/share/man",
    "/usr/share/misc", "/usr/lib/x86_64-linux-gnu", "/var/backups", "/var/cache", "/var/lib",
    "/var/local", "/var/log", "/var/mail", "/var/opt", "/var/spool"]

/-- The links of an installed system. -/
def installedLinks : List (String × String) :=
  [("/bin", "usr/bin"), ("/lib", "usr/lib"), ("/lib64", "usr/lib64"), ("/sbin", "usr/sbin"),
    ("/var/run", "/run"), ("/var/lock", "/run/lock"), ("/dev/fd", "/proc/self/fd"),
    ("/dev/stdin", "/proc/self/fd/0"), ("/dev/stdout", "/proc/self/fd/1"),
    ("/dev/stderr", "/proc/self/fd/2"), ("/usr/bin/sh", "dash"), ("/usr/bin/rbash", "bash"),
    ("/usr/bin/awk", "/etc/alternatives/awk"), ("/etc/alternatives/awk", "/usr/bin/mawk")]

/-- The devices of an installed system. -/
def installedDevices : List (String × Device) :=
  [("/dev/null", .null), ("/dev/zero", .zero), ("/dev/full", .full), ("/dev/random", .random),
    ("/dev/urandom", .random), ("/dev/tty", .terminal)]

/-- The programs in `/usr/bin`. -/
def installedPrograms : List String :=
  ["[", "apt", "apt-get", "arch", "b2sum", "base32", "base64", "basename", "bash", "cat",
    "chgrp", "chmod", "chown", "cksum", "clear", "cmp", "comm", "cp", "csplit", "cut", "dash",
    "date", "dd", "df", "diff", "dir", "dirname", "dmesg", "dpkg", "du", "echo", "egrep", "env",
    "expand", "expr", "factor", "false", "fgrep", "find", "flock", "fmt", "fold", "free",
    "getconf", "getent", "getopt", "grep", "groups", "gunzip", "gzip", "head", "hostid",
    "hostname", "id", "install", "ionice", "join", "kill", "link", "ln", "locale", "logger",
    "logname", "ls", "mawk", "md5sum", "mkdir", "mkfifo", "mknod", "mktemp", "more", "mount",
    "mv", "nice", "nl", "nohup", "nproc", "numfmt", "od", "paste", "pathchk", "perl", "pgrep",
    "pkill", "pr", "printenv", "printf", "ps", "ptx", "pwd", "readlink", "realpath", "renice",
    "rev", "rm", "rmdir", "sed", "seq", "setsid", "sha1sum", "sha224sum", "sha256sum",
    "sha384sum", "sha512sum", "shred", "shuf", "sleep", "sort", "split", "stat", "stdbuf",
    "stty", "su", "sum", "sync", "tac", "tail", "tar", "tee", "test", "timeout", "top", "touch",
    "tr", "true", "truncate", "tsort", "tty", "umount", "uname", "unexpand", "uniq", "unlink",
    "uptime", "vdir", "wc", "which", "who", "whoami", "xargs", "yes"]

/-- The programs in `/usr/sbin`. -/
def installedServicePrograms : List String :=
  ["chroot", "ldconfig", "nologin", "service", "useradd"]

/-- The tables of an installed system, with their lines. -/
def installedTables : List (String × List String) :=
  [("/etc/passwd",
      ["root:x:0:0:root:/root:/bin/bash",
        "daemon:x:1:1:daemon:/usr/sbin:/usr/sbin/nologin",
        "bin:x:2:2:bin:/bin:/usr/sbin/nologin",
        "sys:x:3:3:sys:/dev:/usr/sbin/nologin",
        "sync:x:4:65534:sync:/bin:/bin/sync",
        "games:x:5:60:games:/usr/games:/usr/sbin/nologin",
        "man:x:6:12:man:/var/cache/man:/usr/sbin/nologin",
        "lp:x:7:7:lp:/var/spool/lpd:/usr/sbin/nologin",
        "mail:x:8:8:mail:/var/mail:/usr/sbin/nologin",
        "news:x:9:9:news:/var/spool/news:/usr/sbin/nologin",
        "uucp:x:10:10:uucp:/var/spool/uucp:/usr/sbin/nologin",
        "proxy:x:13:13:proxy:/bin:/usr/sbin/nologin",
        "www-data:x:33:33:www-data:/var/www:/usr/sbin/nologin",
        "backup:x:34:34:backup:/var/backups:/usr/sbin/nologin",
        "list:x:38:38:Mailing List Manager:/var/list:/usr/sbin/nologin",
        "irc:x:39:39:ircd:/run/ircd:/usr/sbin/nologin",
        "_apt:x:42:65534::/nonexistent:/usr/sbin/nologin",
        "nobody:x:65534:65534:nobody:/nonexistent:/usr/sbin/nologin"]),
    ("/etc/group",
      ["root:x:0:", "daemon:x:1:", "bin:x:2:", "sys:x:3:", "adm:x:4:", "tty:x:5:", "disk:x:6:",
        "lp:x:7:", "mail:x:8:", "news:x:9:", "uucp:x:10:", "man:x:12:", "proxy:x:13:",
        "kmem:x:15:", "dialout:x:20:", "fax:x:21:", "voice:x:22:", "cdrom:x:24:", "floppy:x:25:",
        "tape:x:26:", "sudo:x:27:", "audio:x:29:", "dip:x:30:", "www-data:x:33:", "backup:x:34:",
        "operator:x:37:", "list:x:38:", "irc:x:39:", "src:x:40:", "shadow:x:42:", "utmp:x:43:",
        "video:x:44:", "sasl:x:45:", "plugdev:x:46:", "staff:x:50:", "games:x:60:",
        "users:x:100:", "nogroup:x:65534:"]),
    ("/etc/hosts", ["127.0.0.1 localhost"]),
    ("/etc/hostname", ["host"]),
    ("/etc/shells", ["# /etc/shells: valid login shells", "/bin/sh", "/usr/bin/sh", "/bin/bash"]),
    ("/etc/os-release", ["ID=linux"]),
    ("/etc/profile", []),
    ("/etc/fstab", []),
    ("/etc/resolv.conf", []),
    ("/etc/nsswitch.conf", []),
    ("/etc/environment", []),
    ("/etc/debian_version", ["trixie/sid"]),
    ("/etc/issue", []),
    ("/etc/shadow", []),
    ("/etc/ld.so.conf", []),
    ("/proc/cpuinfo", []),
    ("/proc/meminfo", []),
    ("/proc/mounts", []),
    ("/proc/stat", []),
    ("/proc/uptime", []),
    ("/proc/version", []),
    ("/proc/loadavg", [])]

/-- The number of the process that is run. -/
def leader : Nat := 1200

/-- The directory of what is told about the process that is run. -/
def leaderDirectory : String := "/proc/" ++ toString leader

/-- The empty tree. -/
def bareFiles : Files :=
  ⟨#[⟨.directory [] 0, 0o755, Installed.time⟩]⟩

/-- The files of an installed system. -/
def installedFiles : Files :=
  let everything : List (String × Installed) :=
    installedDirectories.map (fun path => (path, .directory 0o755)) ++
      [("/root", .directory 0o700), ("/tmp", .directory 0o1777), ("/dev/shm", .directory 0o1777),
        ("/var/tmp", .directory 0o1777), (leaderDirectory, .directory 0o555),
        (leaderDirectory ++ "/fd", .descriptors), (leaderDirectory ++ "/status", .regular []),
        (leaderDirectory ++ "/mounts", .regular []), ("/proc/self", .link (toString leader))] ++
      installedDevices.map (fun entry => (entry.1, .device entry.2)) ++
      installedPrograms.map (fun name => ("/usr/bin/" ++ name, .program name)) ++
      installedServicePrograms.map (fun name => ("/usr/sbin/" ++ name, .program name)) ++
      installedTables.map (fun entry => (entry.1, .regular entry.2)) ++
      installedLinks.map (fun entry => (entry.1, .link entry.2))
  everything.foldl (fun files entry => entry.2.addTo files entry.1) bareFiles

/-- The directory in which a process starts that is given none. -/
def startingDirectory : List Char := "/work".toList

/-- What a process is allowed. -/
def startingLimits : List (Resource × Limit) :=
  [(.stackSize, ⟨some (8192 * 1024), none⟩), (.coreSize, ⟨some 0, none⟩),
    (.lockedMemory, ⟨some (8192 * 1024), some (8192 * 1024)⟩),
    (.processes, ⟨some 128620, some 128620⟩), (.openFiles, ⟨some 20000, some 20000⟩),
    (.realTimePriority, ⟨some 0, some 0⟩)]

/-- The names and values that a program is given besides its arguments. -/
abbrev Surroundings := List (List Char × List Char)

/-- What a process is given when it starts. -/
def startingSurroundings : Surroundings :=
  [("PATH".toList, "/usr/local/sbin:/usr/local/bin:/usr/sbin:/usr/bin:/sbin:/bin".toList),
    ("HOME".toList, "/root".toList)]

/-- The time at which a process starts. -/
def startingTime : Nat := 1748779200 * Nat.pow 10 9

/-- The number of the process that has started it. -/
def starter : Nat := 1100

namespace Machine

/-- An installed machine whose only process starts in a directory.  It reads nothing, and what it
writes is lost. -/
def boot (directory : Nat) (process : Process) : Machine :=
  let nullNode : Nat :=
    match installedFiles.locate 0 "/dev/null".toList true with
    | .ok ⟨_, _, .node index⟩ => index
    | _ => 0
  { clock := startingTime
    entries :=
      [{ number := leader
         parent := starter
         group := leader
         activity := .ready process
         time := startingTime
         directory := directory
         descriptors := [(0, ⟨0, false⟩), (1, ⟨1, false⟩), (2, ⟨2, false⟩)]
         mask := 0o022
         limits := startingLimits }]
    files := installedFiles
    openFiles :=
      [(0, { channel := .device .null nullNode, reading := true, writing := false }),
        (1, { channel := .device .null nullNode, reading := false, writing := true }),
        (2, { channel := .device .null nullNode, reading := false, writing := true })]
    nextFile := 3
    nextProcess := leader + 1
    strangers := [1, starter] }

/-- The ending of the leader, if it ends within so many steps. -/
def run : Nat → Machine → Option Ending
  | 0, _ => none
  | steps + 1, machine =>
      match machine.ending? leader with
      | some ending => some ending
      | none =>
          match machine.due? with
          | none => none
          | some (time, entry) => (machine.advance time entry).run steps

end Machine

end Host

end Cadence
