/-!
The help the machine's programs print when asked with `--help`: how to call them and what their
options do. The text names the program as it was started.
-/

namespace Updater.Shell

def helpText (tool name : String) : String :=
  match tool with
  | "cat" =>
    "Usage: " ++ name ++ " [OPTION]... [FILE]...\n" ++
    "Concatenate FILE(s) to standard output.\n" ++
    "\n" ++
    "With no FILE, or when FILE is -, read standard input.\n" ++
    "\n" ++
    "  -A, --show-all           equivalent to -vET\n" ++
    "  -b, --number-nonblank    number nonempty output lines, overrides -n\n" ++
    "  -e                       equivalent to -vE\n" ++
    "  -E, --show-ends          display $ at end of each line\n" ++
    "  -n, --number             number all output lines\n" ++
    "  -s, --squeeze-blank      suppress repeated empty output lines\n" ++
    "  -t                       equivalent to -vT\n" ++
    "  -T, --show-tabs          display TAB characters as ^I\n" ++
    "  -u                       (ignored)\n" ++
    "  -v, --show-nonprinting   use ^ and M- notation, except for LFD and TAB\n" ++
    "      --help        display this help and exit\n" ++
    "      --version     output version information and exit\n" ++
    "\n" ++
    "Examples:\n" ++
    "  " ++ name ++ " f - g  Output f's contents, then standard input, then g's contents.\n" ++
    "  " ++ name ++ "        Copy standard input to standard output.\n" ++
    "\n"
  | "echo" =>
    "Usage: " ++ name ++ " [SHORT-OPTION]... [STRING]...\n" ++
    "  or:  " ++ name ++ " LONG-OPTION\n" ++
    "Echo the STRING(s) to standard output.\n" ++
    "\n" ++
    "  -n             do not output the trailing newline\n" ++
    "  -e             enable interpretation of backslash escapes\n" ++
    "  -E             disable interpretation of backslash escapes (default)\n" ++
    "      --help        display this help and exit\n" ++
    "      --version     output version information and exit\n" ++
    "\n" ++
    "If -e is in effect, the following sequences are recognized:\n" ++
    "\n" ++
    "  \\\\      backslash\n" ++
    "  \\a      alert (BEL)\n" ++
    "  \\b      backspace\n" ++
    "  \\c      produce no further output\n" ++
    "  \\e      escape\n" ++
    "  \\f      form feed\n" ++
    "  \\n      new line\n" ++
    "  \\r      carriage return\n" ++
    "  \\t      horizontal tab\n" ++
    "  \\v      vertical tab\n" ++
    "  \\0NNN   byte with octal value NNN (1 to 3 digits)\n" ++
    "  \\xHH    byte with hexadecimal value HH (1 to 2 digits)\n" ++
    "\n" ++
    "NOTE: your shell may have its own version of echo, which usually supersedes\n" ++
    "the version described here.  Please refer to your shell's documentation\n" ++
    "for details about the options it supports.\n" ++
    "\n" ++
    "NOTE: printf(1) is a preferred alternative,\n" ++
    "which does not have issues outputting option-like strings.\n" ++
    "\n"
  | "printf" =>
    "Usage: " ++ name ++ " FORMAT [ARGUMENT]...\n" ++
    "  or:  " ++ name ++ " OPTION\n" ++
    "Print ARGUMENT(s) according to FORMAT, or execute according to OPTION:\n" ++
    "\n" ++
    "      --help        display this help and exit\n" ++
    "      --version     output version information and exit\n" ++
    "\n" ++
    "FORMAT controls the output as in C printf.  Interpreted sequences are:\n" ++
    "\n" ++
    "  \\\"      double quote\n" ++
    "  \\\\      backslash\n" ++
    "  \\a      alert (BEL)\n" ++
    "  \\b      backspace\n" ++
    "  \\c      produce no further output\n" ++
    "  \\e      escape\n" ++
    "  \\f      form feed\n" ++
    "  \\n      new line\n" ++
    "  \\r      carriage return\n" ++
    "  \\t      horizontal tab\n" ++
    "  \\v      vertical tab\n" ++
    "  \\NNN    byte with octal value NNN (1 to 3 digits)\n" ++
    "  \\xHH    byte with hexadecimal value HH (1 to 2 digits)\n" ++
    "  \\uHHHH  Unicode (ISO/IEC 10646) character with hex value HHHH (4 digits)\n" ++
    "  \\UHHHHHHHH  Unicode character with hex value HHHHHHHH (8 digits)\n" ++
    "  %%      a single %\n" ++
    "  %b      ARGUMENT as a string with '\\' escapes interpreted,\n" ++
    "          except that octal escapes are of the form \\0 or \\0NNN\n" ++
    "  %q      ARGUMENT is printed in a format that can be reused as shell input,\n" ++
    "          escaping non-printable characters with the proposed POSIX $'' syntax.\n" ++
    "\n" ++
    "and all C format specifications ending with one of diouxXfeEgGcs, with\n" ++
    "ARGUMENTs converted to proper type first.  Variable widths are handled.\n" ++
    "\n" ++
    "NOTE: your shell may have its own version of printf, which usually supersedes\n" ++
    "the version described here.  Please refer to your shell's documentation\n" ++
    "for details about the options it supports.\n" ++
    "\n"
  | "mkdir" =>
    "Usage: " ++ name ++ " [OPTION]... DIRECTORY...\n" ++
    "Create the DIRECTORY(ies), if they do not already exist.\n" ++
    "\n" ++
    "Mandatory arguments to long options are mandatory for short options too.\n" ++
    "  -m, --mode=MODE   set file mode (as in chmod), not a=rwx - umask\n" ++
    "  -p, --parents     no error if existing, make parent directories as needed,\n" ++
    "                    with their file modes unaffected by any -m option.\n" ++
    "  -v, --verbose     print a message for each created directory\n" ++
    "  -Z                   set SELinux security context of each created directory\n" ++
    "                         to the default type\n" ++
    "      --context[=CTX]  like -Z, or if CTX is specified then set the SELinux\n" ++
    "                         or SMACK security context to CTX\n" ++
    "      --help        display this help and exit\n" ++
    "      --version     output version information and exit\n" ++
    "\n"
  | "rm" =>
    "Usage: " ++ name ++ " [OPTION]... [FILE]...\n" ++
    "Remove (unlink) the FILE(s).\n" ++
    "\n" ++
    "  -f, --force           ignore nonexistent files and arguments, never prompt\n" ++
    "  -i                    prompt before every removal\n" ++
    "  -I                    prompt once before removing more than three files, or\n" ++
    "                          when removing recursively; less intrusive than -i,\n" ++
    "                          while still giving protection against most mistakes\n" ++
    "      --interactive[=WHEN]  prompt according to WHEN: never, once (-I), or\n" ++
    "                          always (-i); without WHEN, prompt always\n" ++
    "      --one-file-system  when removing a hierarchy recursively, skip any\n" ++
    "                          directory that is on a file system different from\n" ++
    "                          that of the corresponding command line argument\n" ++
    "      --no-preserve-root  do not treat '/' specially\n" ++
    "      --preserve-root[=all]  do not remove '/' (default);\n" ++
    "                              with 'all', reject any command line argument\n" ++
    "                              on a separate device from its parent\n" ++
    "  -r, -R, --recursive   remove directories and their contents recursively\n" ++
    "  -d, --dir             remove empty directories\n" ++
    "  -v, --verbose         explain what is being done\n" ++
    "      --help        display this help and exit\n" ++
    "      --version     output version information and exit\n" ++
    "\n" ++
    "By default, rm does not remove directories.  Use the --recursive (-r or -R)\n" ++
    "option to remove each listed directory, too, along with all of its contents.\n" ++
    "\n" ++
    "To remove a file whose name starts with a '-', for example '-foo',\n" ++
    "use one of these commands:\n" ++
    "  " ++ name ++ " -- -foo\n" ++
    "\n" ++
    "  " ++ name ++ " ./-foo\n" ++
    "\n" ++
    "Note that if you use rm to remove a file, it might be possible to recover\n" ++
    "some of its contents, given sufficient expertise and/or time.  For greater\n" ++
    "assurance that the contents are truly unrecoverable, consider using shred(1).\n" ++
    "\n"
  | "touch" =>
    "Usage: " ++ name ++ " [OPTION]... FILE...\n" ++
    "Update the access and modification times of each FILE to the current time.\n" ++
    "\n" ++
    "A FILE argument that does not exist is created empty, unless -c or -h\n" ++
    "is supplied.\n" ++
    "\n" ++
    "A FILE argument string of - is handled specially and causes touch to\n" ++
    "change the times of the file associated with standard output.\n" ++
    "\n" ++
    "Mandatory arguments to long options are mandatory for short options too.\n" ++
    "  -a                     change only the access time\n" ++
    "  -c, --no-create        do not create any files\n" ++
    "  -d, --date=STRING      parse STRING and use it instead of current time\n" ++
    "  -f                     (ignored)\n" ++
    "  -h, --no-dereference   affect each symbolic link instead of any referenced\n" ++
    "                         file (useful only on systems that can change the\n" ++
    "                         timestamps of a symlink)\n" ++
    "  -m                     change only the modification time\n" ++
    "  -r, --reference=FILE   use this file's times instead of current time\n" ++
    "  -t STAMP               use [[CC]YY]MMDDhhmm[.ss] instead of current time\n" ++
    "      --time=WORD        change the specified time:\n" ++
    "                           WORD is access, atime, or use: equivalent to -a\n" ++
    "                           WORD is modify or mtime: equivalent to -m\n" ++
    "      --help        display this help and exit\n" ++
    "      --version     output version information and exit\n" ++
    "\n" ++
    "Note that the -d and -t options accept different time-date formats.\n" ++
    "\n"
  | "sleep" =>
    "Usage: " ++ name ++ " NUMBER[SUFFIX]...\n" ++
    "  or:  " ++ name ++ " OPTION\n" ++
    "Pause for NUMBER seconds.  SUFFIX may be 's' for seconds (the default),\n" ++
    "'m' for minutes, 'h' for hours or 'd' for days.  NUMBER need not be an\n" ++
    "integer.  Given two or more arguments, pause for the amount of time\n" ++
    "specified by the sum of their values.\n" ++
    "\n" ++
    "      --help        display this help and exit\n" ++
    "      --version     output version information and exit\n" ++
    "\n"
  | "true" =>
    "Usage: " ++ name ++ " [ignored command line arguments]\n" ++
    "  or:  " ++ name ++ " OPTION\n" ++
    "Exit with a status code indicating success.\n" ++
    "\n" ++
    "      --help        display this help and exit\n" ++
    "      --version     output version information and exit\n" ++
    "\n" ++
    "NOTE: your shell may have its own version of true, which usually supersedes\n" ++
    "the version described here.  Please refer to your shell's documentation\n" ++
    "for details about the options it supports.\n" ++
    "\n"
  | "false" =>
    "Usage: " ++ name ++ " [ignored command line arguments]\n" ++
    "  or:  " ++ name ++ " OPTION\n" ++
    "Exit with a status code indicating failure.\n" ++
    "\n" ++
    "      --help        display this help and exit\n" ++
    "      --version     output version information and exit\n" ++
    "\n" ++
    "NOTE: your shell may have its own version of false, which usually supersedes\n" ++
    "the version described here.  Please refer to your shell's documentation\n" ++
    "for details about the options it supports.\n" ++
    "\n"
  | _ => ""

end Updater.Shell
