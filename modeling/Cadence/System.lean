import Cadence.Shell.Start
import Cadence.Tool.Difference
import Cadence.Tool.Expr
import Cadence.Tool.Facts
import Cadence.Tool.Grep
import Cadence.Tool.Listing
import Cadence.Tool.Sed

namespace Cadence

namespace System

open Host

/-!
# The programs of an installed system

A process becomes a program by the path of a file.  A file that is a script is
given to its interpreter, which its first line names; without such a line it is a
shell.  Shells and tools may start programs, so the parts are bound by a depth,
which no script comes near.
-/

/-- The tools by their names. -/
def tools : List (String × Tool.Procedure) :=
  [("arch", Tool.tell "x86_64"), ("basename", Tool.basename), ("cat", Tool.cat),
    ("chgrp", Tool.chown), ("chmod", Tool.chmod), ("chown", Tool.chown), ("cmp", Tool.cmp),
    ("comm", Tool.comm), ("cp", Tool.cp), ("cut", Tool.cut), ("date", Tool.date),
    ("dd", Tool.dd), ("diff", Tool.diff), ("dirname", Tool.dirname), ("echo", Tool.echo),
    ("egrep", Tool.grep true false), ("env", Tool.env), ("expr", Tool.expr),
    ("false", Tool.endWith 1), ("fgrep", Tool.grep false true), ("find", Tool.find),
    ("fold", Tool.fold), ("getconf", Tool.getconf), ("grep", Tool.grep false false),
    ("groups", Tool.tellAnyway "root"), ("head", Tool.head), ("hostid", Tool.tell "00000000"),
    ("hostname", Tool.tellAnyway "host"), ("id", Tool.id), ("link", Tool.link), ("ln", Tool.ln),
    ("logname", Tool.deny 1 "no login name"), ("ls", Tool.ls), ("mkdir", Tool.mkdir),
    ("mkfifo", Tool.mkfifo), ("mktemp", Tool.mktemp), ("mv", Tool.mv), ("nice", Tool.nice),
    ("nl", Tool.nl), ("nohup", Tool.nohup), ("nproc", Tool.tellAnyway "4"), ("od", Tool.od),
    ("paste", Tool.paste), ("printenv", Tool.printenv), ("readlink", Tool.readlink),
    ("realpath", Tool.realpath), ("rev", Tool.rev), ("rm", Tool.rm), ("rmdir", Tool.rmdir),
    ("sed", Tool.sed), ("seq", Tool.seq), ("setsid", Tool.setsid), ("sleep", Tool.sleep),
    ("sort", Tool.sort), ("stat", Tool.stat), ("stdbuf", Tool.stdbuf),
    ("sync", Tool.endWith 0), ("tac", Tool.tac), ("tail", Tool.tail), ("tee", Tool.tee),
    ("timeout", Tool.timeout), ("touch", Tool.touch), ("tr", Tool.tr), ("true", Tool.endWith 0),
    ("truncate", Tool.truncate), ("tty", Tool.tty), ("uname", Tool.uname),
    ("uniq", Tool.uniq), ("unlink", Tool.unlink), ("wc", Tool.wc),
    ("whoami", Tool.tell "root"), ("xargs", Tool.xargs), ("yes", Tool.yes)]

/-- The tools that are done by a shell, with what it does for them. -/
def scripts : List (String × String) :=
  [("[", "[ \"$@\""), ("kill", "kill \"$@\" || exit 1"), ("printf", "printf \"$@\" || exit 1"),
    ("pwd", "pwd -P"), ("test", "test \"$@\""),
    ("which", "[ $# -gt 0 ] || exit 1\nset -f\nIFS=:\nstatus=0\nfor name\ndo found=1\n" ++
      "case $name in */*) places=.;; *) places=$PATH;; esac\nfor place in $places\n" ++
      "do case $name in */*) path=$name;; *) path=$place/$name;; esac\n" ++
      "if [ -f \"$path\" ] && [ -x \"$path\" ]; then echo \"$path\"; found=0; break; fi; done\n" ++
      "[ $found = 0 ] || status=1\ndone\nexit $status")]

/-- How a script is to be run: by the interpreter that it names, with an argument, or by a shell;
none if it is no text. -/
def interpreter? (script : List Char) : Option (List (List Char)) :=
  let line := script.takeWhile (· ≠ '\n')
  match line with
  | '#' :: '!' :: rest =>
      let isBlank (c : Char) : Bool := c = ' ' || c = '\t'
      let trimmed := ((rest.dropWhile isBlank).reverse.dropWhile isBlank).reverse
      let path := trimmed.takeWhile fun c => !isBlank c
      let argument := (trimmed.drop path.length).dropWhile isBlank
      some (if argument.isEmpty then [path] else [path, argument])
  | line => if line.contains (Char.ofNat 0) then none else some ["/bin/sh".toList]

mutual

/-- Does a task, at most so deeply. -/
def evaluate : Nat → Shell.Evaluator
  | 0, _ => fun store stop _ => stop .exit store
  | depth + 1, task => Shell.Running.perform ⟨evaluate depth, launch depth⟩ task

/-- Becomes a program, at most so deeply. -/
def launch : Nat → Launch
  | 0, _ => fun next => next .again
  | depth + 1, invocation => fun next =>
      if invocation.isTooLong then
        .ask (.permitted invocation.path 1) fun answer =>
          match answer with
          | .error errno => next errno
          | .ok () => next .tooManyArguments
      else
        .ask (.execute invocation.path) fun answer =>
          match answer with
          | .error errno => next errno
          | .ok (.program name) =>
              if name = "dash" || name = "bash" then
                Shell.Running.start (evaluate depth) invocation.arguments invocation.surroundings
              else
                match scripts.lookup name, tools.lookup name with
                | some text, _ =>
                    Shell.Running.start (evaluate depth)
                      (['s', 'h'] :: ['-', 'c'] :: text.toList :: invocation.arguments)
                      invocation.surroundings
                | none, none => .exit 1
                | none, some tool =>
                    let given : Tool.Given :=
                      { name := invocation.arguments.headD []
                        arguments := invocation.arguments.drop 1
                        surroundings := invocation.surroundings
                        launch := launch depth }
                    tool given .exit
          | .ok (.script text) =>
              match interpreter? text with
              | none => next .execFormat
              | some words =>
                  launch depth
                    { invocation with
                      path := words.headD []
                      arguments := words ++ invocation.path :: invocation.arguments.drop 1 }
                    next

end

/-- No script goes deeper. -/
def deepest : Nat := Nat.pow 2 60

/-- The arguments of a shell that is started with a text. -/
def shellArguments (text : List Char) : List (List Char) :=
  [['s', 'h'], ['-', 'c'], text]

/-- The process of a shell that is started with a text; none if the text is too long for that. -/
def shell? (text : List Char) : Option Process :=
  if Invocation.isTooLong ⟨"/bin/sh".toList, shellArguments text, startingSurroundings⟩ then
    none
  else
    some (Shell.Running.start (evaluate deepest) (shellArguments text) startingSurroundings)

end System

end Cadence
