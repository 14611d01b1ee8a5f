/-
The system interface. Eight of its functions do something; the others are declared with their signatures, so that a
guest which imports them can be linked, and are not supported. Of these all but `proc_exit` answer an error number.
-/
import ScriptHost.System.Word

namespace ScriptHost

/-- the namespace from which guests import system calls -/
def systemNamespace : String := "wasi_snapshot_preview1"

/-- the system calls that do something -/
inductive SystemFunction where
  | args
  | argsSizes
  | environ
  | environSizes
  | clockResolution
  | clockTime
  | write
  | random
deriving DecidableEq, Repr

namespace SystemFunction

def all : List SystemFunction :=
  [args, argsSizes, environ, environSizes, clockResolution, clockTime, write, random]

/-- the name under which a guest imports a system call -/
def name : SystemFunction → String
  | args => "args_get"
  | argsSizes => "args_sizes_get"
  | environ => "environ_get"
  | environSizes => "environ_sizes_get"
  | clockResolution => "clock_res_get"
  | clockTime => "clock_time_get"
  | write => "fd_write"
  | random => "random_get"

def ofName? (name : String) : Option SystemFunction := all.find? (·.name == name)

def params : SystemFunction → List WordType
  | args | argsSizes | environ | environSizes | clockResolution | random => [.i32, .i32]
  | clockTime => [.i32, .i64, .i32]
  | write => [.i32, .i32, .i32, .i32]

end SystemFunction

/-- a system call that is declared and not supported -/
structure UnsupportedFunction where
  name : String
  params : List WordType
deriving DecidableEq, Repr

namespace UnsupportedFunction

open WordType

/-- the system calls that are declared and not supported -/
def all : List UnsupportedFunction := [
  ⟨"fd_advise", [i32, i64, i64, i32]⟩,
  ⟨"fd_allocate", [i32, i64, i64]⟩,
  ⟨"fd_close", [i32]⟩,
  ⟨"fd_datasync", [i32]⟩,
  ⟨"fd_fdstat_get", [i32, i32]⟩,
  ⟨"fd_fdstat_set_flags", [i32, i32]⟩,
  ⟨"fd_fdstat_set_rights", [i32, i64, i64]⟩,
  ⟨"fd_filestat_get", [i32, i32]⟩,
  ⟨"fd_filestat_set_size", [i32, i64]⟩,
  ⟨"fd_filestat_set_times", [i32, i64, i64, i32]⟩,
  ⟨"fd_pread", [i32, i32, i32, i64, i32]⟩,
  ⟨"fd_prestat_get", [i32, i32]⟩,
  ⟨"fd_prestat_dir_name", [i32, i32, i32]⟩,
  ⟨"fd_pwrite", [i32, i32, i32, i64, i32]⟩,
  ⟨"fd_read", [i32, i32, i32, i32]⟩,
  ⟨"fd_readdir", [i32, i32, i32, i64, i32]⟩,
  ⟨"fd_renumber", [i32, i32]⟩,
  ⟨"fd_seek", [i32, i64, i32, i32]⟩,
  ⟨"fd_sync", [i32]⟩,
  ⟨"fd_tell", [i32, i32]⟩,
  ⟨"path_create_directory", [i32, i32, i32]⟩,
  ⟨"path_filestat_get", [i32, i32, i32, i32, i32]⟩,
  ⟨"path_filestat_set_times", [i32, i32, i32, i32, i64, i64, i32]⟩,
  ⟨"path_link", [i32, i32, i32, i32, i32, i32, i32]⟩,
  ⟨"path_open", [i32, i32, i32, i32, i32, i64, i64, i32, i32]⟩,
  ⟨"path_readlink", [i32, i32, i32, i32, i32, i32]⟩,
  ⟨"path_remove_directory", [i32, i32, i32]⟩,
  ⟨"path_rename", [i32, i32, i32, i32, i32, i32]⟩,
  ⟨"path_symlink", [i32, i32, i32, i32, i32]⟩,
  ⟨"path_unlink_file", [i32, i32, i32]⟩,
  ⟨"poll_oneoff", [i32, i32, i32, i32]⟩,
  ⟨"proc_exit", [i32]⟩,
  ⟨"proc_raise", [i32]⟩,
  ⟨"sched_yield", []⟩,
  ⟨"sock_accept", [i32, i32, i32]⟩,
  ⟨"sock_recv", [i32, i32, i32, i32, i32, i32]⟩,
  ⟨"sock_send", [i32, i32, i32, i32, i32]⟩,
  ⟨"sock_shutdown", [i32, i32]⟩]

def ofName? (name : String) : Option UnsupportedFunction := all.find? (·.name == name)

/-- is a system call one that does not return, and so answers nothing? -/
def hasNoResult (name : String) : Bool := name == "proc_exit"

end UnsupportedFunction

end ScriptHost
