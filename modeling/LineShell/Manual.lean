import LineShell.Command
import LineShell.Text.Layout

/-!
# Help texts

Three renderings of the pages of commands: the listing of all of them, the short help of one, and
its manual page. A manual page is a list of sections with an empty line between them; help and
manual show the same synopsis and the same lines for the switches.
-/

namespace LineShell

/-! ### Shared parts -/

def Page.switchLines (p : Page) : List String :=
  p.switches.map fun s => "  " ++ Text.padRight 6 s.flag ++ " " ++ s.description

/-- A heading and the switches below it, if the command declares any. -/
def Page.switchBlock (p : Page) (heading : String) : List String :=
  if p.switches.isEmpty then []
  else [heading ++ "\n" ++ String.intercalate "\n" p.switchLines]

def findPage? (pages : List Page) (name : String) : Option Page :=
  pages.find? fun p => p.name == name

/-! ### Listing and help -/

def listing (pages : List Page) : String :=
  "Available commands:\n" ++
    String.intercalate "\n" (pages.map fun p =>
      "  " ++ Text.padRight 12 p.name ++ " " ++ p.summary) ++
    "\n\nType 'help <command>' for details."

def Page.help (p : Page) : String :=
  String.intercalate "\n\n"
    ((p.name ++ " - " ++ p.summary ++ "\nUsage: " ++ p.synopsis) :: p.switchBlock "Options:")

/-! ### Manual -/

def manualMargin : String := "    "

def Page.sections (p : Page) : List String :=
  [ "NAME\n" ++ manualMargin ++ p.name ++ " - " ++ p.summary,
    "SYNOPSIS\n" ++ manualMargin ++ p.synopsis ] ++
  p.switchBlock "OPTIONS" ++
  [ String.intercalate "\n"
      (("DESCRIPTION\n" ++ manualMargin ++ p.summary ++ ".") ::
        p.parameters.map fun x => manualMargin ++ x.name ++ ": " ++ x.arityText) ]

def Page.manual (p : Page) : String := String.intercalate "\n\n" p.sections

end LineShell
