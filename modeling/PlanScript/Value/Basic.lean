/-
PlanScript.Value.Basic — the value on the right of an assignment.

`Value.classify` sorts a text into the four kinds. Only the first matching
shape counts: format literal, plain literal, square group, curly group. What
is none of these is kept as it stands.

A dict is flattened to its keys and values in source order. An entry without
a top-level colon is an error, or with lenient dicts it is skipped; the
skipped entries are part of the result, since they are logged.
-/
import PlanScript.Nesting.Cut
import PlanScript.Value.Arguments
import PlanScript.Options

namespace PlanScript

/-! ## 1. Values and errors -/

/-- A classified value. -/
inductive Value where
  /-- A literal: what a plain one stands for, or a format literal as it is
  written. -/
  | string (contents : Text)
  /-- The elements between square brackets, as written. -/
  | list (items : List Text)
  /-- Keys and values in turn, as written. -/
  | dict (entries : List Text)
  /-- Any other text, as written. -/
  | plain (source : Text)
deriving DecidableEq, Repr

/-- Why a value cannot be read. -/
inductive LiteralError where
  | nesting (error : NestingError)
  /-- A dict entry without a top-level colon. -/
  | entryWithoutColon (entry : Text)
deriving DecidableEq, Repr

/-- The text of an error. -/
def LiteralError.message : LiteralError → Text
  | nesting e => e.message
  | entryWithoutColon entry =>
    "dict entry `".toList ++ entry ++ "` has no `:` separator".toList

/-! ## 2. Dicts -/

/-- The key and the value of a dict entry. -/
def splitEntry? (entry : Text) : Option (Text × Text) :=
  (cut (·.isTopLevelChar ':') entry).map fun (key, value) => (key.trim, value.trim)

/-- The keys and values of dict entries, with the entries that were skipped
because they have no colon. -/
def readEntries (options : Options) : List Text → Except LiteralError (List Text × List Text)
  | [] => return ([], [])
  | entry :: rest =>
    match splitEntry? entry with
    | some (key, value) => do
      let (entries, skipped) ← readEntries options rest
      return (key :: value :: entries, skipped)
    | none =>
      if options.lenientDicts then do
        let (entries, skipped) ← readEntries options rest
        return (entries, entry :: skipped)
      else throw (.entryWithoutColon entry)

/-! ## 3. Classification -/

/-- The arguments of a list or dict body, with its nesting error as a
literal error. -/
def splitElements (body : Text) : Except LiteralError (List Text) :=
  (splitArguments body).mapError .nesting

/-- The value of a trimmed text, with the dict entries that were skipped. -/
def Value.readTrimmed (options : Options) (t : Text) : Except LiteralError (Value × List Text) :=
  if Literal.isFormat t then .ok (.string t, [])
  else match Literal.body? t with
    | some body => .ok (.string (Literal.unescape body), [])
    | none => match enclosed? .square t with
      | some body => (splitElements body).map fun items => (.list items, [])
      | none => match enclosed? .curly t with
        | some body => do
          let (entries, skipped) ← readEntries options (← splitElements body)
          return (.dict entries, skipped)
        | none => .ok (.plain t, [])

/-- The value of a text, with the dict entries that were skipped. -/
def Value.read (options : Options) (source : Text) : Except LiteralError (Value × List Text) :=
  Value.readTrimmed options source.trim

/-- The value of a text. -/
def Value.classify (options : Options) (source : Text) : Except LiteralError Value :=
  (Value.read options source).map Prod.fst

end PlanScript
