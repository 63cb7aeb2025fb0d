import LineShell.Engine
import LineShell.Manual
import LineShell.Registry

/-!
# The built-in commands

The ten commands of the shell. Only `cd` changes the file system and only `clear` asks for the
screen to be cleared. A command that cannot do its work explains why in its output; only `grep`
replies with an error, when the engine that searches for it refuses the pattern.
-/

namespace LineShell.Builtin

/-! ### Help -/

/-- List all commands, or show the help of one. -/
def help (c : Call) : Reply :=
  match c.arguments with
  | [] => c.answer (.success (listing c.pages))
  | name :: _ =>
    match findPage? c.pages name with
    | some page => c.answer (.success page.help)
    | none => c.answer (.success ("No such command: " ++ name))

def man (c : Call) : Reply :=
  match c.arguments with
  | [] => c.answer (.success "What manual page do you want?")
  | name :: _ =>
    match findPage? c.pages name with
    | some page => c.answer (.success page.manual)
    | none => c.answer (.success ("No manual entry for " ++ name))

/-! ### Screen, text and time -/

def clear (c : Call) : Reply := { c.answer .silent with clears := 1 }

/-- Print the arguments with spaces between them, and a newline unless `-n` is among them. -/
def echo (c : Call) : Reply :=
  let text := String.intercalate " " (c.arguments.filter (· ≠ "-n"))
  c.answer (.success (if c.hasFlag "-n" then text else text ++ "\n"))

def date (c : Call) : Reply := c.answer (.success c.now.text)

/-! ### Files -/

def pwd (c : Call) : Reply := c.answer (.success c.files.cwd.toString)

def longRow (name : String) (node : Node) : String :=
  node.kind.letter.toString ++ "rwxr-xr-x  dev  dev  " ++
    Text.padLeft 5 (toString node.size) ++ "  " ++ name

/-- List a directory, or name a file; `-l` gives a row to each child. -/
def ls (c : Call) : Reply :=
  let target := c.arguments.find? (· ≠ "-l")
  match c.files.locate target with
  | .error _ =>
    c.answer (.failure
      ("ls: cannot access '" ++ target.getD "" ++ "': No such file or directory"))
  | .ok (.file _, full) => c.answer (.success (target.getD full.toString))
  | .ok (.directory children, _) =>
    c.answer (.success
      (if c.hasFlag "-l" then
        String.intercalate "\n" (children.map fun x => longRow x.1 x.2)
      else String.intercalate "  " (children.map fun x => x.1)))

/-- Move to a directory; without one, or with an empty one, move home. -/
def cd (c : Call) : Reply :=
  let target := (c.arguments.head?.filter (· ≠ "")).getD FileSystem.home
  match c.files.changeDirectory target with
  | .ok files => { c.answer .silent with files }
  | .error _ => c.answer (.failure ("cd: no such directory: " ++ target))

def cat (c : Call) : Reply :=
  match c.arguments with
  | [] => c.answer (.failure "cat: missing file operand")
  | file :: _ =>
    match c.files.read (some file) with
    | .ok content => c.answer (.success content)
    | .error _ => c.answer (.failure ("cat: " ++ file ++ ": No such file"))

def matchingLines (test : String → Bool) (content : String) : String :=
  String.intercalate "\n" ((Text.pieces '\n' content).filter test)

variable [Engine]

/-- Print the lines of a file that match a pattern; `-i` ignores the case of letters. Arguments
that begin with a hyphen are no operands. The file is looked up before the pattern is read. -/
def grep (c : Call) : Reply :=
  match c.arguments.filter fun a => !Text.begins "-" a with
  | text :: file :: _ =>
    match c.files.read (some file) with
    | .error _ => c.answer (.failure ("grep: " ++ file ++ ": No such file"))
    | .ok content =>
      match Engine.compile (c.hasFlag "-i") text with
      | .error reason => c.refuse (.badPattern reason)
      | .ok test => c.answer (.success (matchingLines test content))
  | _ => c.answer (.failure "usage: grep [-i] <pattern> <file>")

/-! ### The table -/

/-- A command whose handler is done when it returns. -/
def command (name summary usage : String) (switches : List Switch) (parameters : List Parameter)
    (run : Call → Reply) : Command :=
  ⟨⟨name, summary, some usage, switches, parameters⟩, ⟨.immediate, run⟩⟩

def commands : List Command :=
  [ command "help" "Show help for commands" "help [command]" [] [⟨"command", .optional⟩] help,
    command "clear" "Clear the screen" "clear" [] [] clear,
    command "echo" "Print arguments" "echo [args...]" [⟨"-n", "no trailing newline"⟩]
      [⟨"text", .variadic⟩] echo,
    command "date" "Print current date & time" "date" [] [] date,
    command "pwd" "Print working directory" "pwd" [] [] pwd,
    command "ls" "List directory contents" "ls [path]" [⟨"-l", "long format"⟩]
      [⟨"path", .optional⟩] ls,
    command "cd" "Change directory" "cd [path]" [] [⟨"path", .optional⟩] cd,
    command "cat" "Concatenate and print files" "cat <file>" [] [⟨"file", .required⟩] cat,
    command "grep" "Search for PATTERN in files (demo)" "grep <pattern> <file>"
      [⟨"-i", "ignore case"⟩] [⟨"pattern", .required⟩, ⟨"file", .required⟩] grep,
    command "man" "Show detailed help (demo)" "man <command>" [] [⟨"command", .required⟩] man ]

/-- What makes the built-in commands a registry. -/
theorem nodup_names : (commands.map fun c => c.name).Nodup := by
  simp [commands, command]

def registry : Registry := ⟨commands, nodup_names⟩

end LineShell.Builtin
