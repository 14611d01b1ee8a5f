/-
The files that a host has, as far as runs name them. None of them holds a module, so those that can be read are left empty.
-/
import ScriptHost.Script.File

namespace ScriptHost.FileTree

/-- the same entry at each of the paths in a text, with blanks and line ends between them -/
def entriesAt (entry : FileEntry) (paths : String) : List (List String × FileEntry) :=
  ((paths.split Char.isWhitespace).toList.filter (!·.isEmpty)).map fun path => (components path.copy, entry)

def directories : List (List String × FileEntry) := entriesAt .directory
  "boot dev etc home media mnt opt proc proc/1 proc/1/fd proc/sys root run srv sys tmp tmp/session usr usr/bin
  usr/include usr/lib usr/lib64 usr/local usr/local/bin usr/sbin usr/share var var/lib var/log var/tmp"

def files : List (List String × FileEntry) := entriesAt (.file (.ok []))
  "dev/full dev/null dev/random dev/urandom dev/zero etc/fstab etc/group etc/hostname etc/hosts etc/passwd etc/profile
  etc/resolv.conf etc/shadow proc/1/cmdline proc/1/environ proc/1/maps proc/1/stat proc/1/status proc/cmdline proc/cpuinfo
  proc/meminfo proc/mounts proc/stat proc/uptime proc/version usr/bin/bash usr/bin/cat usr/bin/dash usr/bin/echo
  usr/bin/env usr/bin/false usr/bin/ls usr/bin/true usr/lib/os-release"

/-- the number of the process itself is 1 -/
def links : List (List String × FileEntry) :=
  [("bin", "usr/bin"), ("dev/fd", "/proc/self/fd"), ("etc/mtab", "/proc/mounts"), ("etc/os-release", "../usr/lib/os-release"),
    ("lib", "usr/lib"), ("lib64", "usr/lib64"), ("proc/self", "1"), ("proc/1/cwd", "/tmp/session"),
    ("proc/1/exe", "/usr/bin/env"), ("proc/1/root", "/"), ("sbin", "usr/sbin"), ("usr/bin/sh", "dash"),
    ("var/run", "/run")].map fun (place, target) => (components place, .link target)

/-- what can be opened and not read: a terminal that is not there, and a memory where nothing is mapped -/
def unreadable : List (List String × FileEntry) :=
  entriesAt (.file (.error .noDevice)) "dev/tty" ++ entriesAt (.file (.error .inputOutput)) "proc/1/mem"

def system : FileTree where
  entries := directories ++ files ++ links ++ unreadable
  workingDirectory := ["tmp", "session"]
  unlimited := [["proc"], ["sys"]]

end ScriptHost.FileTree
