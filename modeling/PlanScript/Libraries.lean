/-
PlanScript.Libraries — the readers and printers that the program is given.

Markdown, TOML and JSON are not what the program is about. Whatever needs
one of them takes it as a parameter, and the program as a whole takes them
together. What is proved of the program does not depend on which ones they
are, unless a hypothesis says so.
-/
import PlanScript.Markdown.Fenced
import PlanScript.Toml.Document
import PlanScript.Json.Printer

namespace PlanScript

/-- The readers and printers that the program is given, with those of this
library as defaults. -/
structure Libraries where
  markdown : Markdown.EventReader := Markdown.events
  /-- The entries of a TOML document. -/
  toml : Text → Option Toml.Entries := Toml.parse?
  printJson : Json → Text := Json.print

end PlanScript
