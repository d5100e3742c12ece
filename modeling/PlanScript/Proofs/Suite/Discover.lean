/-
PlanScript.Proofs.Suite.Discover — the cases of a tree, each of them once.

`HoldsFile entries names name content` says that a file stands in some
entries: the names lead to its folder, and the file is there under its name.
`caseAt` is the case of such a file. Searching the entries finds exactly the
cases of the fixture files (`mem_casesIn_iff`). In a tree whose folders do not
list a name twice (`TidyEntries`), no two of them are in the same place
(`nodup_location_casesIn`).

Grouping the cases by category neither loses one nor repeats one
(`perm_categorize`), and the category of a case is its folder, with slashes
between the names (`category_eq_join`).
-/
import PlanScript.Suite.Discover
import PlanScript.Proofs.Text.Search
import Mathlib.Data.List.Perm.Basic

namespace PlanScript.Suite

/-! ## 1. Files and their cases -/

/-- The file stands in the folder that the names lead to. -/
inductive HoldsFile :
    List (Text × Tree) → List Text → Text → Except ReadError ByteArray → Prop
  | here {entries : List (Text × Tree)} {name : Text} {content : Except ReadError ByteArray} :
    (name, .file content) ∈ entries → HoldsFile entries [] name content
  | inside {entries inner : List (Text × Tree)} {folder name : Text} {names : List Text}
      {content : Except ReadError ByteArray} :
    (folder, .folder inner) ∈ entries → HoldsFile inner names name content →
    HoldsFile entries (folder :: names) name content

/-- The case of a file that stands behind some names in a folder of a
suite. -/
def caseAt (path : Text) (folder names : List Text) (name : Text)
    (content : Except ReadError ByteArray) : Case :=
  ⟨(names ++ [name]).foldl Path.join path, folder ++ names, name, .file content⟩

/-- The names from the root of the suite to the file of a case. -/
def Case.location (c : Case) : List Text := c.folder ++ [c.name]

variable {path name : Text} {folder names : List Text} {entries : List (Text × Tree)}
  {content : Except ReadError ByteArray} {c : Case}

theorem isFixtureName_iff (name : Text) :
    isFixtureName name = true ↔ fixtureSuffix <:+ name := by
  rw [isFixtureName, Option.isSome_iff_exists]
  constructor
  · rintro ⟨rest, hrest⟩
    exact ⟨rest, (Text.eq_append_of_dropSuffix? hrest).symm⟩
  · rintro ⟨rest, rfl⟩
    exact ⟨rest, Text.dropSuffix?_append rest fixtureSuffix⟩

theorem HoldsFile.mono {more : List (Text × Tree)} (h : HoldsFile entries names name content)
    (hsub : entries ⊆ more) : HoldsFile more names name content := by
  cases h with
  | here hmem => exact .here (hsub hmem)
  | inside hmem hfile => exact .inside (hsub hmem) hfile

/-- A file stands in the first entry or in one of the others. -/
theorem holdsFile_cons_iff (entry : Text × Tree) (rest : List (Text × Tree)) :
    HoldsFile (entry :: rest) names name content ↔
      HoldsFile [entry] names name content ∨ HoldsFile rest names name content := by
  constructor
  · intro h
    cases h with
    | here hmem =>
      rcases List.mem_cons.mp hmem with rfl | hmem
      · exact .inl (.here (List.mem_singleton.mpr rfl))
      · exact .inr (.here hmem)
    | inside hmem hfile =>
      rcases List.mem_cons.mp hmem with rfl | hmem
      · exact .inl (.inside (List.mem_singleton.mpr rfl) hfile)
      · exact .inr (.inside hmem hfile)
  · rintro (h | h)
    · exact h.mono (List.cons_subset_cons entry (List.nil_subset rest))
    · exact h.mono (List.subset_cons_self entry rest)

mutual

/-- The cases of a tree are those of the fixture files in it. -/
theorem mem_casesOf_iff (path : Text) (folder : List Text) (name : Text) (c : Case) :
    ∀ tree : Tree, c ∈ casesOf (Path.join path name) folder name tree ↔
      ∃ names file content, HoldsFile [(name, tree)] names file content ∧
        isFixtureName file = true ∧ c = caseAt path folder names file content
  | .file content => by
    rw [casesOf]
    constructor
    · intro h
      split at h
      · next hname =>
        rw [List.mem_singleton.mp h]
        exact ⟨[], name, content, .here (List.mem_singleton.mpr rfl), hname, by simp [caseAt]⟩
      · contradiction
    · rintro ⟨names, file, content', hfile, hname, rfl⟩
      cases hfile with
      | here hmem =>
        cases List.mem_singleton.mp hmem
        simp [hname, caseAt]
      | inside hmem _ => cases List.mem_singleton.mp hmem
  | .folder entries => by
    rw [casesOf, mem_casesIn_iff (Path.join path name) (folder ++ [name]) c entries]
    constructor
    · rintro ⟨names, file, content, hfile, hname, rfl⟩
      exact ⟨name :: names, file, content, .inside (List.mem_singleton.mpr rfl) hfile, hname,
        by simp [caseAt]⟩
    · rintro ⟨names, file, content, hfile, hname, rfl⟩
      cases hfile with
      | here hmem => cases List.mem_singleton.mp hmem
      | inside hmem hfile =>
        cases List.mem_singleton.mp hmem
        exact ⟨_, file, content, hfile, hname, by simp [caseAt]⟩

/-- The cases of some entries are those of the fixture files in them. -/
theorem mem_casesIn_iff (path : Text) (folder : List Text) (c : Case) :
    ∀ entries : List (Text × Tree), c ∈ casesIn path folder entries ↔
      ∃ names file content, HoldsFile entries names file content ∧
        isFixtureName file = true ∧ c = caseAt path folder names file content
  | [] => by
    rw [casesIn]
    constructor
    · intro h
      contradiction
    · rintro ⟨names, file, content, hfile, _⟩
      cases hfile <;> contradiction
  | (name, tree) :: rest => by
    rw [casesIn, List.mem_append, mem_casesOf_iff path folder name c tree,
      mem_casesIn_iff path folder c rest]
    simp only [holdsFile_cons_iff (name, tree) rest, or_and_right, exists_or]

end

/-! ## 2. Every place once -/

mutual

/-- No folder of the tree lists a name twice, and no name has a backslash. -/
def TidyTree : Tree → Prop
  | .file _ => True
  | .folder entries => TidyEntries entries

/-- No two entries, and no two of any folder below them, have the same name,
and no name has a backslash. -/
def TidyEntries : List (Text × Tree) → Prop
  | [] => True
  | (name, tree) :: rest =>
    '\\' ∉ name ∧ name ∉ rest.map Prod.fst ∧ TidyTree tree ∧ TidyEntries rest

end

theorem TidyEntries.of_mem (h : TidyEntries entries) {tree : Tree} (hmem : (name, tree) ∈ entries) :
    '\\' ∉ name ∧ TidyTree tree := by
  induction entries with
  | nil => contradiction
  | cons entry rest ih =>
    obtain ⟨first, other⟩ := entry
    rw [TidyEntries] at h
    rcases List.mem_cons.mp hmem with heq | hmem
    · cases heq
      exact ⟨h.1, h.2.2.1⟩
    · exact ih h.2.2.2 hmem

/-- The way to a file starts with the name of an entry. -/
theorem HoldsFile.exists_start (h : HoldsFile entries names name content) :
    ∃ first more, names ++ [name] = first :: more ∧ first ∈ entries.map Prod.fst := by
  cases h with
  | here hmem => exact ⟨name, [], rfl, List.mem_map_of_mem hmem⟩
  | @inside _ inner folder _ names _ hmem _ =>
    exact ⟨folder, names ++ [name], rfl, List.mem_map_of_mem hmem⟩

theorem location_caseAt (path : Text) (folder names : List Text) (name : Text)
    (content : Except ReadError ByteArray) :
    (caseAt path folder names name content).location = folder ++ (names ++ [name]) := by
  simp [caseAt, Case.location]

/-- Where a case is found, seen from the folder that is searched. -/
theorem exists_start_of_mem_casesIn (h : c ∈ casesIn path folder entries) :
    ∃ first more, c.location = folder ++ first :: more ∧ first ∈ entries.map Prod.fst := by
  obtain ⟨names, file, content, hfile, _, rfl⟩ := (mem_casesIn_iff path folder c entries).mp h
  obtain ⟨first, more, hstart, hfirst⟩ := hfile.exists_start
  exact ⟨first, more, by rw [location_caseAt, hstart], hfirst⟩

mutual

/-- A tidy tree has no two cases in one place. -/
theorem nodup_location_casesOf (path : Text) (folder : List Text) (name : Text) :
    ∀ tree : Tree, TidyTree tree →
      ((casesOf path folder name tree).map Case.location).Nodup
  | .file content, _ => by
    rw [casesOf]
    split
    · exact List.pairwise_singleton _ _
    · exact List.nodup_nil
  | .folder entries, h => by
    rw [casesOf]
    exact nodup_location_casesIn path (folder ++ [name]) entries (by rwa [TidyTree] at h)

theorem nodup_location_casesIn (path : Text) (folder : List Text) :
    ∀ entries : List (Text × Tree), TidyEntries entries →
      ((casesIn path folder entries).map Case.location).Nodup
  | [], _ => by
    rw [casesIn]
    exact List.nodup_nil
  | (name, tree) :: rest, h => by
    rw [TidyEntries] at h
    obtain ⟨_, hname, htree, hrest⟩ := h
    rw [casesIn, List.map_append, List.nodup_append]
    refine ⟨nodup_location_casesOf (Path.join path name) folder name tree htree,
      nodup_location_casesIn path folder rest hrest, ?_⟩
    -- The two parts are entered by different names.
    intro a ha b hb hab
    obtain ⟨c, hc, rfl⟩ := List.mem_map.mp ha
    obtain ⟨d, hd, rfl⟩ := List.mem_map.mp hb
    have hc' : c ∈ casesIn path folder [(name, tree)] := by
      rw [casesIn, casesIn, List.append_nil]
      exact hc
    obtain ⟨first, more, hstart, hfirst⟩ := exists_start_of_mem_casesIn hc'
    obtain ⟨second, more', hstart', hsecond⟩ := exists_start_of_mem_casesIn hd
    rw [hstart, hstart'] at hab
    obtain ⟨rfl, _⟩ := List.cons.inj (List.append_cancel_left hab)
    obtain rfl : first = name := by simpa using hfirst
    exact hname hsecond

end

/-! ## 3. Categories -/

theorem mem_join {separator : Text} {ts : List Text} {ch : Char}
    (h : ch ∈ Text.join separator ts) : ch ∈ separator ∨ ∃ t ∈ ts, ch ∈ t := by
  induction ts with
  | nil => contradiction
  | cons t ts ih =>
    cases ts with
    | nil => exact .inr ⟨t, List.mem_singleton.mpr rfl, h⟩
    | cons u us =>
      simp only [Text.join, List.mem_append] at h
      rcases h with (h | h) | h
      · exact .inr ⟨t, List.mem_cons_self .., h⟩
      · exact .inl h
      · rcases ih h with h | ⟨v, hv, h⟩
        · exact .inl h
        · exact .inr ⟨v, List.mem_cons_of_mem _ hv, h⟩

/-- The names that lead to a file of a tidy tree have no backslash. -/
theorem HoldsFile.no_backslash (h : HoldsFile entries names name content)
    (htidy : TidyEntries entries) : ∀ n ∈ names, '\\' ∉ n := by
  induction h with
  | here _ => simp
  | inside hmem _ ih =>
    obtain ⟨hfolder, htree⟩ := htidy.of_mem hmem
    rw [TidyTree] at htree
    intro n hn
    rcases List.mem_cons.mp hn with rfl | hn
    · exact hfolder
    · exact ih htree n hn

/-- In a tidy tree the category of a case is its folder. -/
theorem category_eq_join (htidy : TidyEntries entries) (h : c ∈ casesIn path [] entries) :
    c.category = Text.join ['/'] c.folder := by
  obtain ⟨names, file, content, hfile, _, rfl⟩ := (mem_casesIn_iff path [] c entries).mp h
  have hnone := hfile.no_backslash htidy
  rw [Case.category]
  refine (List.map_congr_left fun ch hch => ?_).trans (List.map_id' _)
  have hne : ch ≠ '\\' := by
    rintro rfl
    rcases mem_join hch with hch | ⟨n, hn, hch⟩
    · simp at hch
    · exact hnone n hn hch
  rw [if_neg hne]

theorem nodup_eraseDups : ∀ names : List Text, names.eraseDups.Nodup
  | [] => List.nodup_nil
  | name :: names => by
    rw [List.eraseDups_cons, List.nodup_cons, List.mem_eraseDups]
    exact ⟨by simp, nodup_eraseDups _⟩
termination_by names => names.length
decreasing_by exact Nat.lt_succ_of_le (List.length_filter_le _ names)

/-- The members of a list that fall under some keys, gathered key by key. -/
theorem perm_flatMap_filter {α : Type} (key : α → Text) {keys : List Text} (h : keys.Nodup)
    (l : List α) :
    (keys.flatMap fun k => l.filter fun a => key a = k).Perm
      (l.filter fun a => key a ∈ keys) := by
  induction keys with
  | nil => simp
  | cons k keys ih =>
    obtain ⟨hk, hkeys⟩ := List.nodup_cons.mp h
    have hparts := List.filter_append_perm (fun a => decide (key a = k))
      (l.filter fun a => key a ∈ k :: keys)
    have hfirst : (l.filter fun a => key a ∈ k :: keys).filter (fun a => key a = k)
        = l.filter fun a => key a = k := by
      rw [List.filter_filter]
      exact List.filter_congr fun a _ => by by_cases ha : key a = k <;> simp [ha]
    have hothers : (l.filter fun a => key a ∈ k :: keys).filter (fun a => !decide (key a = k))
        = l.filter fun a => key a ∈ keys := by
      rw [List.filter_filter]
      exact List.filter_congr fun a _ => by by_cases ha : key a = k <;> simp [ha, hk]
    rw [hfirst, hothers] at hparts
    rw [List.flatMap_cons]
    exact ((ih hkeys).append_left _).trans hparts

/-- The categories with some property hold the cases whose category has it,
each once. -/
theorem perm_categorize (cases : List Case) (wanted : Text → Bool) :
    (((categorize cases).filter fun k => wanted k.name).flatMap Category.cases).Perm
      (cases.filter fun c => wanted c.category) := by
  have hkeys : ((distinct (cases.map Case.category)).filter wanted).Nodup :=
    (nodup_eraseDups _).filter wanted
  have hmem : ∀ c ∈ cases, decide (c.category ∈ (distinct (cases.map Case.category)).filter wanted)
      = wanted c.category := by
    intro c hc
    have hlisted : c.category ∈ distinct (cases.map Case.category) := by
      rw [distinct, List.mem_eraseDups, List.mem_mergeSort]
      exact List.mem_map_of_mem hc
    simp [List.mem_filter, hlisted]
  rw [← List.filter_congr hmem, categorize, List.filter_map, List.flatMap_map]
  refine List.Perm.trans ?_ (perm_flatMap_filter Case.category hkeys cases)
  exact List.Perm.flatMap_left _ fun name _ => List.mergeSort_perm _ _

end PlanScript.Suite
