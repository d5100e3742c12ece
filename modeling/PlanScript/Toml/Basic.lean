/-
PlanScript.Toml.Basic — TOML values and the tables that hold them.

A table knows how it came about, because that decides who may still add to
it: a table with a header or braces is complete as written, a table that
dotted keys made takes more dotted keys, and a table that only lies on the
way to another header may get its own header later. `extend?` follows a path
of keys through tables and makes the missing ones; `insert?` sets a key at
the end of a dotted path, and never twice.
-/
import PlanScript.Text.Basic

namespace PlanScript

namespace Toml

/-- How a table came about. -/
inductive Origin where
  /-- It has a header. -/
  | header
  /-- It was written between braces. -/
  | braces
  /-- Dotted keys go through it. -/
  | dotted
  /-- Headers of other tables go through it. -/
  | implied
deriving DecidableEq, Repr

end Toml

/-- A TOML value. Floats and points in time keep no value, since nothing
that is read from a file holds one. -/
inductive Toml where
  | text (t : Text)
  | integer (n : Int64)
  | truth (b : Bool)
  | float
  | moment
  | array (items : List Toml)
  | table (origin : Toml.Origin) (entries : List (Text × Toml))
  /-- An array of tables with headers. -/
  | tables (all : List (List (Text × Toml)))
deriving Repr

namespace Toml

/-- The entries of a table, in order. -/
abbrev Entries := List (Text × Toml)

/-- The value of a key. -/
def lookup? (key : Text) : Entries → Option Toml
  | [] => none
  | (k, v) :: rest => if k = key then some v else lookup? key rest

/-- The entries with a key set, in place when it is there and at the end
when it is new. -/
def set (key : Text) (value : Toml) : Entries → Entries
  | [] => [(key, value)]
  | (k, v) :: rest => if k = key then (k, value) :: rest else (k, v) :: set key value rest

/-- Setting a key changes what is found at that key and nowhere else. -/
theorem lookup?_set (key other : Text) (value : Toml) (entries : Entries) :
    lookup? other (set key value entries)
      = if other = key then some value else lookup? other entries := by
  induction entries with
  | nil =>
    by_cases h : other = key
    · simp [set, lookup?, h]
    · simp [set, lookup?, h, Ne.symm h]
  | cons entry rest ih =>
    obtain ⟨k, v⟩ := entry
    by_cases hk : k = key
    · subst hk
      by_cases h : other = k
      · simp [set, lookup?, h]
      · simp [set, lookup?, h, Ne.symm h]
    · simp only [set, if_neg hk, lookup?, ih]
      by_cases h : k = other
      · subst h
        simp [hk]
      · simp [h]

/-- Whether a path may go through a table. Dotted keys go through tables
that have no notation of their own; headers go through all but braces. -/
def Origin.opens : (table step : Origin) → Bool
  | header, step => step ≠ dotted
  | braces, _ => false
  | dotted, _ => true
  | implied, _ => true

/-- Changes the table at the end of a path. Missing tables on the way are
made with the origin `step`, and an array of tables stands for its last
table. -/
def extend? (step : Origin) (change : Origin → Entries → Option Entries) :
    List Text → Origin → Entries → Option Entries
  | [], origin, entries => change origin entries
  | key :: path, _, entries =>
    match lookup? key entries with
    | none => do
      let inner ← extend? step change path step []
      return set key (.table step inner) entries
    | some (.table origin inner) =>
      if !origin.opens step then none
      else do
        let inner ← extend? step change path origin inner
        return set key (.table origin inner) entries
    | some (.tables all) =>
      match all.reverse with
      | [] => none
      | last :: earlier => do
        let last ← extend? step change path .header last
        return set key (.tables (earlier.reverse ++ [last])) entries
    | some _ => none

/-- Sets a key at the end of a dotted path. -/
def insert? (path : List Text) (key : Text) (value : Toml) (entries : Entries) :
    Option Entries :=
  let change (origin : Origin) (entries : Entries) : Option Entries :=
    if !path.isEmpty && origin ≠ .dotted then none
    else if (lookup? key entries).isSome then none
    else some (set key value entries)
  extend? .dotted change path .header entries

/-- A key with the tables before it, and its value. -/
structure Pair where
  path : List Text
  key : Text
  value : Toml
deriving Repr

/-- The entries with some pairs inserted. -/
def insertAll? (pairs : List Pair) (entries : Entries) : Option Entries :=
  pairs.foldlM (fun entries p => insert? p.path p.key p.value entries) entries

end Toml

end PlanScript
