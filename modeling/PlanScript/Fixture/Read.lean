/-
PlanScript.Fixture.Read — fixtures from text.

The frontmatter is a TOML document; its reader is a parameter. Keys that say
nothing about a fixture are passed over, but a key that does must have a
value of its type, and counts and steps are not negative.
-/
import PlanScript.Fixture.Frontmatter
import PlanScript.Toml.Document
import PlanScript.Wire.Toml

namespace PlanScript

/-- What a reader makes of the value of a key, if the key is there. -/
def Toml.field? {α : Type} (entries : Entries) (read? : Toml → Option α) (name : String) :
    Option (Option α) :=
  match lookup? name.toList entries with
  | none => some none
  | some v => (read? v).map some

/-- What the entries of a frontmatter say. -/
def Expectations.ofEntries? (entries : Toml.Entries) : Option Expectations := do
  let F := Toml.format
  return {
    description := ← Toml.field? entries F.text? "description"
    options := (← Toml.field? entries (Options.ofValue? F) "options").getD {}
    parseError := (← Toml.field? entries F.truth? "expect_parse_error").getD false
    errorText := ← Toml.field? entries F.text? "expect_error"
    errorStep := ← Toml.field? entries F.natural? "expect_error_step"
    count := ← Toml.field? entries F.natural? "expect_count"
    instructions := ← Toml.field? entries (fun v => do (← F.items? v).mapM (Record.ofValue? F))
      "expect_instructions" }

/-- The fixture that a text holds, with a reader for its frontmatter. -/
def Fixture.parse (content : Text) (toml : Text → Option Toml.Entries := Toml.parse?) :
    Except FixtureError Fixture := do
  let (front, body) ← Frontmatter.split content
  match (toml front).bind Expectations.ofEntries? with
  | some expectations => return { expectations, body }
  | none => throw .malformed

end PlanScript
