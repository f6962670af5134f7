import Updater.Shell.State
import Updater.Shell.Tools.Cat
import Updater.Shell.Tools.Echo
import Updater.Shell.Tools.Printf
import Updater.Shell.Tools.Mkdir
import Updater.Shell.Tools.Rm
import Updater.Shell.Tools.Touch
import Updater.Shell.Tools.Sleep
/-!
The machine's own programs in `/bin`, other than the shell: `mkdir`, `cat`, `rm`, `echo`,
`true`, `false`, `sleep`, `touch` and `printf`, and the files and users every machine has.

Each program runs as a process of its own on the descriptors it inherits, under the name it was
started by, which its messages carry, and answers a status. `true` and `false` only answer `0`
and `1`, whatever they are asked; like `echo` and `printf`, they understand `--help` only as
their sole argument.
-/

namespace Updater.Shell

def systemPrograms : List String :=
  ["sh", "mkdir", "cat", "rm", "echo", "true", "false", "sleep", "touch", "printf"]

def systemDirs : List String :=
  ["/boot", "/dev", "/etc", "/home", "/lib", "/media", "/mnt", "/opt", "/proc", "/root", "/run",
   "/sbin", "/srv", "/sys", "/tmp", "/usr", "/usr/bin", "/usr/lib", "/usr/local",
   "/usr/local/bin", "/usr/sbin", "/var"]

def passwdText : String :=
  "root:x:0:0:root:/root:/bin/bash\n" ++
  "daemon:x:1:1:daemon:/usr/sbin:/usr/sbin/nologin\n" ++
  "bin:x:2:2:bin:/bin:/usr/sbin/nologin\n" ++
  "sys:x:3:3:sys:/dev:/usr/sbin/nologin\n" ++
  "sync:x:4:65534:sync:/bin:/bin/sync\n" ++
  "games:x:5:60:games:/usr/games:/usr/sbin/nologin\n" ++
  "man:x:6:12:man:/var/cache/man:/usr/sbin/nologin\n" ++
  "lp:x:7:7:lp:/var/spool/lpd:/usr/sbin/nologin\n" ++
  "mail:x:8:8:mail:/var/mail:/usr/sbin/nologin\n" ++
  "news:x:9:9:news:/var/spool/news:/usr/sbin/nologin\n" ++
  "uucp:x:10:10:uucp:/var/spool/uucp:/usr/sbin/nologin\n" ++
  "proxy:x:13:13:proxy:/bin:/usr/sbin/nologin\n" ++
  "www-data:x:33:33:www-data:/var/www:/usr/sbin/nologin\n" ++
  "backup:x:34:34:backup:/var/backups:/usr/sbin/nologin\n" ++
  "list:x:38:38:Mailing List Manager:/var/list:/usr/sbin/nologin\n" ++
  "irc:x:39:39:ircd:/run/ircd:/usr/sbin/nologin\n" ++
  "_apt:x:42:65534::/nonexistent:/usr/sbin/nologin\n" ++
  "nobody:x:65534:65534:nobody:/nonexistent:/usr/sbin/nologin\n"

def systemFiles : List (String × String × Nat) :=
  [("/etc/passwd", passwdText, 0o644), ("/dev/null", "", 0o666)]

def withSystem (fs : FileSystem) : FileSystem :=
  let fs := systemPrograms.foldl (fun fs t => fs.place "/" ("/bin/" ++ t) (some "") 0o755) fs
  let fs := systemDirs.foldl (fun fs d => fs.place "/" d none 0o755) fs
  systemFiles.foldl (fun fs (p, c, m) => fs.place "/" p (some c) m) fs

def userHomes : List (String × String) :=
  (passwdText.splitOn "\n").filterMap fun l =>
    match l.splitOn ":" with
    | name :: _ :: _ :: _ :: _ :: home :: _ => some (name, home)
    | _ => none

def runSystemProgram (program name : String) (args : List String) : Sh Nat :=
  match program with
  | "cat" => runCat name args
  | "mkdir" => runMkdir name args
  | "touch" => runTouch name args
  | "rm" => runRm name args
  | "sleep" => runSleep name args
  | "echo" => runEcho name args
  | "printf" => runPrintf name args
  | "false" => do
    if args == ["--help"] then say 1 (helpText "false" name)
    return 1
  | _ => do
    if args == ["--help"] then say 1 (helpText "true" name)
    return 0

end Updater.Shell
