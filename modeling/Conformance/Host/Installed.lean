import Conformance.Disk

/-!
# What is installed

The file tree of a host before anything is done on it: its directories, devices and programs. Names
of the programs are in one directory, which other names lead to as well.
-/

namespace Conformance.Installed

open FileTree (file program device link directory)

/-- A directory with these entries. -/
def folder (entries : List (String × FileTree)) : FileTree := .directory entries

def empty : FileTree := .directory []

/-- The names of the programs. -/
def programs : List String := [
  "[", "basename", "cat", "chmod", "cmp", "comm", "cp", "cut", "dash", "dirname", "echo", "egrep",
  "env", "false", "fgrep", "find", "fold", "grep", "head", "hostname", "id", "kill", "link", "ln",
  "ls", "mkdir", "mkfifo", "mktemp", "mv", "nice", "nl", "nohup", "paste", "printenv", "printf",
  "pwd", "readlink", "realpath", "rev", "rm", "rmdir", "sed", "seq", "setsid", "sleep", "sort",
  "stat", "stdbuf", "tac", "tail", "tee", "test", "timeout", "touch", "tr", "true", "truncate",
  "uname", "uniq", "unlink", "wc", "which", "whoami", "xargs", "yes"]

/-- The directory of the programs. -/
def programFolder : FileTree :=
  folder (("sh", .link ⟨"dash"⟩) :: programs.map fun name => (name, .program name))

/-- The directory of the devices. -/
def deviceFolder : FileTree := folder [
  ("null", .device .null), ("zero", .device .zero), ("full", .device .full),
  ("tty", .device .terminal), ("stdin", .device (.descriptor 0)),
  ("stdout", .device (.descriptor 1)), ("stderr", .device (.descriptor 2)),
  ("fd", folder ((List.range 10).map fun n => (toString n, .device (.descriptor n)))),
  ("shm", empty)]

/-- The files of the system that hold text. -/
def texts : List String := [
  "root:x:0:0:root:/root:/bin/bash\n" ++
  "daemon:x:1:1:daemon:/usr/sbin:/usr/sbin/nologin\n" ++
  "nobody:x:65534:65534:nobody:/nonexistent:/usr/sbin/nologin\n",
  "root:x:0:\ndaemon:x:1:\nnogroup:x:65534:\n",
  "127.0.0.1\tlocalhost\n",
  "localhost\n"]

/-- The name of the directory that sessions take place in, and the names that lead to it. -/
def workplace : List String := ["tmp", "work"]

/-- The whole tree. -/
def tree : FileTree := folder [
  ("bin", .link ⟨"usr/bin"⟩), ("boot", empty), ("dev", deviceFolder),
  ("etc", folder [
    ("passwd", .file 0), ("group", .file 1), ("hosts", .file 2), ("hostname", .file 3)]),
  ("home", empty), ("lib", .link ⟨"usr/lib"⟩), ("lib64", .link ⟨"usr/lib64"⟩),
  ("media", empty), ("mnt", empty), ("opt", empty),
  ("proc", folder [("self", folder [("fd", .link ⟨"/dev/fd"⟩)])]),
  ("root", empty), ("run", empty), ("sbin", .link ⟨"usr/sbin"⟩), ("srv", empty), ("sys", empty),
  ("tmp", folder [("work", empty)]),
  ("usr", folder [
    ("bin", programFolder), ("games", empty), ("include", empty), ("lib", empty),
    ("lib64", empty), ("libexec", empty),
    ("local", folder [
      ("bin", empty), ("etc", empty), ("games", empty), ("include", empty), ("lib", empty),
      ("sbin", empty), ("share", empty), ("src", empty)]),
    ("sbin", empty), ("share", empty), ("src", empty)]),
  ("var", folder [
    ("cache", empty), ("lib", empty), ("log", empty), ("mail", empty), ("spool", empty),
    ("tmp", empty)])]

/-- The disk of a host before anything is done on it. -/
def disk : Disk where
  root := tree
  files := (texts.map fun text => ({ bytes := text.toUTF8 } : File)).toArray
  working := workplace

end Conformance.Installed
