import Mathlib.Data.List.Basic
import Mathlib.Tactic.Common
import Ricochet.Settings.Search

set_option autoImplicit false

/-! # The order in which settings are searched

A file counts only if it can be read and what it holds has a value (`Settings.Holds`). The optional
files are tried one after the other, and one that does not count leaves no trace: it may be erased,
or replaced by anything else that does not count (`Settings.search_congr`). Reading a file depends
on the directories on the way to it and on nothing else, so that erasing a file closes no way to
another one (`Files.walk_erase_of_file`) and opens none (`Files.walk_of_walk_erase`).

* `Settings.search_follows_order`: which value the search gives, and when it fails.
-/

namespace Ricochet

variable {τ ε γ : Type}

/-! ## Reading files -/

namespace Files

theorem find_eq_ok_iff {fs : Files τ} {path : String} {here : List String}
    {entry : Option (Entry τ)} :
    fs.find path = .ok (here, entry) ↔ checkPath path = .ok ()
      ∧ fs.walk (fs.startOf path) (names path) = .ok here ∧ fs.at? here = entry := by
  unfold find
  cases checkPath path with
  | error e => simp [bind, Except.bind]
  | ok u =>
      cases fs.walk (fs.startOf path) (names path) with
      | error e => simp [bind, Except.bind]
      | ok there =>
          simp only [bind, Except.bind, pure, Except.pure, Except.ok.injEq, Prod.mk.injEq]
          constructor
          · rintro ⟨rfl, rfl⟩
            exact ⟨trivial, rfl, rfl⟩
          · rintro ⟨-, rfl, rfl⟩
            exact ⟨rfl, rfl⟩

/-- A file is read if its path leads to it through directories only. -/
theorem read_eq_ok_iff {fs : Files τ} {path : String} {text : τ} :
    fs.read path = .ok text ↔ checkPath path = .ok ()
      ∧ ∃ here, fs.walk (fs.startOf path) (names path) = .ok here
        ∧ fs.at? here = some (.file text) := by
  have hfind : fs.read path = .ok text ↔ ∃ here, fs.find path = .ok (here, some (.file text)) := by
    unfold read
    cases fs.find path with
    | error e => simp [bind, Except.bind]
    | ok found =>
        obtain ⟨here, entry⟩ := found
        cases entry with
        | none => simp [bind, Except.bind]
        | some entry => cases entry <;> simp [bind, Except.bind]
  simp only [hfind, find_eq_ok_iff, exists_and_left]

theorem lookup_filter_ne {β : Type} (l : List (List String × β)) (p q : List String) :
    (l.filter fun x => x.1 ≠ q).lookup p = if p = q then none else l.lookup p := by
  induction l with
  | nil => simp
  | cons x l ih =>
      obtain ⟨x, e⟩ := x
      by_cases hp : p = x
      · by_cases hx : x = q
        · rw [List.filter_cons_of_neg (by simpa using hx), ih, if_pos (hp.trans hx),
            if_pos (hp.trans hx)]
        · rw [List.filter_cons_of_pos (by simpa using hx), hp, if_neg hx]
          simp
      · have hne : (p == x) = false := by simpa using hp
        by_cases hx : x = q
        · rw [List.filter_cons_of_neg (by simpa using hx), ih, List.lookup_cons, hne]
        · rw [List.filter_cons_of_pos (by simpa using hx), List.lookup_cons, hne, ih,
            List.lookup_cons, hne]

/-- What is left at a path after something was erased. The root stays. -/
theorem at?_erase (fs : Files τ) (gone path : List String) :
    (fs.erase gone).at? path = if path = gone ∧ path ≠ [] then none else fs.at? path := by
  cases path with
  | nil => simp [at?]
  | cons name rest =>
      have hat : (fs.erase gone).at? (name :: rest)
          = (fs.entries.filter fun p => p.1 ≠ gone).lookup (name :: rest) := rfl
      rw [hat, lookup_filter_ne]
      by_cases h : name :: rest = gone
      · rw [if_pos h, if_pos ⟨h, List.cons_ne_nil _ _⟩]
      · rw [if_neg h, if_neg fun hboth => h hboth.1]
        rfl

/-- Where one name leads from a directory. -/
def Leads (here : List String) (name : String) (next : List String) : Prop :=
  if name = "" ∨ name = "." then next = here
  else if name = ".." then next = here.dropLast
  else name.utf8ByteSize ≤ longestName ∧ next = here ++ [name]

/-- One step of a walk: it starts in a directory, and where it goes does not depend on the files. -/
theorem walk_cons_iff {fs : Files τ} {name : String} {rest here there : List String} :
    fs.walk here (name :: rest) = .ok there ↔
      fs.at? here = some .directory
        ∧ ∃ next, Leads here name next ∧ fs.walk next rest = .ok there := by
  rw [walk]
  unfold Leads
  cases fs.at? here with
  | none => simp
  | some entry =>
      cases entry with
      | file text => simp
      | directory =>
          simp only [true_and]
          split
          · simp
          · split
            · simp
            · split
              · rename_i hlong
                simp [Nat.not_le.mpr hlong]
              · rename_i hshort
                simp [Nat.not_lt.mp hshort]

/-- Erasing something opens no new way. -/
theorem walk_of_walk_erase {fs : Files τ} {gone steps here there : List String}
    (h : (fs.erase gone).walk here steps = .ok there) : fs.walk here steps = .ok there := by
  induction steps generalizing here with
  | nil => exact h
  | cons name rest ih =>
      rw [walk_cons_iff, at?_erase] at h
      obtain ⟨hat, next, hleads, hrest⟩ := h
      split at hat
      · cases hat
      · exact walk_cons_iff.mpr ⟨hat, next, hleads, ih hrest⟩

/-- A file is on no way to anywhere, so that erasing it closes no way either. -/
theorem walk_erase_of_file {fs : Files τ} {gone steps here there : List String} {text : τ}
    (hgone : fs.at? gone = some (.file text)) (h : fs.walk here steps = .ok there) :
    (fs.erase gone).walk here steps = .ok there := by
  induction steps generalizing here with
  | nil => exact h
  | cons name rest ih =>
      obtain ⟨hat, next, hleads, hrest⟩ := walk_cons_iff.mp h
      have hhere : here ≠ gone := by
        rintro rfl
        rw [hgone] at hat
        cases hat
      refine walk_cons_iff.mpr ⟨?_, next, hleads, ih hrest⟩
      rw [at?_erase, if_neg fun hboth => hhere hboth.1]
      exact hat

/-- Only files that are left can be read after something was erased. -/
theorem read_of_read_erase {fs : Files τ} {gone : List String} {path : String} {text : τ}
    (h : (fs.erase gone).read path = .ok text) :
    fs.read path = .ok text ∧ fs.walk (fs.startOf path) (names path) ≠ .ok gone := by
  obtain ⟨hcheck, here, hwalk, hat⟩ := read_eq_ok_iff.mp h
  have hwalk' : fs.walk (fs.startOf path) (names path) = .ok here := walk_of_walk_erase hwalk
  rw [at?_erase] at hat
  split at hat
  · cases hat
  · rename_i hleft
    refine ⟨read_eq_ok_iff.mpr ⟨hcheck, here, hwalk', hat⟩, fun hgone => hleft ?_⟩
    obtain rfl : here = gone := Except.ok.inj (hwalk'.symm.trans hgone)
    refine ⟨rfl, ?_⟩
    rintro rfl
    cases hat

/-- Erasing a file leaves all others readable. -/
theorem read_erase_of_file {fs : Files τ} {gone : List String} {path : String} {text other : τ}
    (hgone : fs.at? gone = some (.file other)) (h : fs.read path = .ok text)
    (hpath : fs.walk (fs.startOf path) (names path) ≠ .ok gone) :
    (fs.erase gone).read path = .ok text := by
  obtain ⟨hcheck, here, hwalk, hat⟩ := read_eq_ok_iff.mp h
  have hhere : here ≠ gone := fun heq => hpath (heq ▸ hwalk)
  refine read_eq_ok_iff.mpr ⟨hcheck, here, walk_erase_of_file hgone hwalk, ?_⟩
  rw [at?_erase, if_neg fun hboth => hhere hboth.1]
  exact hat

end Files

namespace Settings

open Files

/-- The file at a path can be read and has a value. -/
def Holds (parse : τ → Except ε γ) (fs : Files τ) (path : String) (c : γ) : Prop :=
  ∃ text, fs.read path = .ok text ∧ parse text = .ok c

/-- There is no file at a path that can be read and has a value. -/
def Unusable (parse : τ → Except ε γ) (fs : Files τ) (path : String) : Prop :=
  ∀ c, ¬ Holds parse fs path c

section Search

variable (parse : τ → Except ε γ) (fs : Files τ)

theorem tryRead_eq_some_iff {path : String} {c : γ} :
    tryRead parse fs path = some c ↔ Holds parse fs path c := by
  unfold tryRead Holds
  cases fs.read path with
  | error e => simp
  | ok text =>
      cases hparse : parse text with
      | error e => simp [Except.toOption, hparse]
      | ok c' => simp [Except.toOption, hparse]

theorem tryRead_eq_none_iff {path : String} :
    tryRead parse fs path = none ↔ Unusable parse fs path := by
  rw [Option.eq_none_iff_forall_not_mem]
  exact forall_congr' fun c => not_congr (tryRead_eq_some_iff parse fs)

theorem mustRead_eq_error_iff {path : String} :
    (∃ e, mustRead parse fs path = .error e) ↔
      (∃ e, fs.read path = .error e)
      ∨ ∃ text e, fs.read path = .ok text ∧ parse text = .error e := by
  unfold mustRead
  cases fs.read path with
  | error e => simp
  | ok text => cases hparse : parse text <;> simp [hparse]

theorem mustRead_eq_ok_iff {path : String} {c : γ} :
    mustRead parse fs path = .ok c ↔ Holds parse fs path c := by
  unfold mustRead Holds
  cases fs.read path with
  | error e => simp
  | ok text => cases hparse : parse text <;> simp [hparse]

/-- The optional files: the user's, and then the local one. -/
theorem findSome?_candidates (id : String) :
    (candidates fs id).findSome? (tryRead parse fs)
      = ((userPath? fs id).bind (tryRead parse fs)).or (tryRead parse fs (localPath id)) := by
  unfold candidates
  cases userPath? fs id with
  | none => simp
  | some path => cases htry : tryRead parse fs path <;> simp [htry]

theorem findSome?_candidates_eq_some_iff {id : String} {c : γ} :
    (candidates fs id).findSome? (tryRead parse fs) = some c ↔
      (∃ path, userPath? fs id = some path ∧ Holds parse fs path c)
      ∨ ((∀ path, userPath? fs id = some path → Unusable parse fs path)
        ∧ Holds parse fs (localPath id) c) := by
  simp only [findSome?_candidates, Option.or_eq_some_iff, Option.bind_eq_some_iff,
    Option.bind_eq_none_iff, tryRead_eq_some_iff, tryRead_eq_none_iff]

theorem findSome?_candidates_eq_none_iff {id : String} :
    (candidates fs id).findSome? (tryRead parse fs) = none ↔
      (∀ path, userPath? fs id = some path → Unusable parse fs path)
      ∧ Unusable parse fs (localPath id) := by
  simp only [findSome?_candidates, Option.or_eq_none_iff, Option.bind_eq_none_iff,
    tryRead_eq_none_iff]

variable (embedded : String → Option γ)

theorem search_custom (id : String) {custom : String} (h : custom ≠ "") :
    search parse embedded fs id custom = mustRead parse fs custom := if_pos h

theorem search_optional (id : String) :
    search parse embedded fs id "" =
      match (candidates fs id).findSome? (tryRead parse fs) with
      | some c => .ok c
      | none =>
          match embedded id with
          | some c => .ok c
          | none => .error (.unknownDemo id) :=
  if_neg fun h => h rfl

theorem search_eq_ok_iff {id : String} {c : γ} :
    search parse embedded fs id "" = .ok c ↔
      (candidates fs id).findSome? (tryRead parse fs) = some c
      ∨ (candidates fs id).findSome? (tryRead parse fs) = none ∧ embedded id = some c := by
  rw [search_optional]
  cases (candidates fs id).findSome? (tryRead parse fs) with
  | some c' => simp
  | none => cases embedded id <;> simp

theorem search_eq_error_iff {id : String} {e : LoadError ε} :
    search parse embedded fs id "" = .error e ↔
      (candidates fs id).findSome? (tryRead parse fs) = none ∧ embedded id = none
        ∧ e = .unknownDemo id := by
  rw [search_optional]
  cases (candidates fs id).findSome? (tryRead parse fs) with
  | some c' => simp
  | none => cases embedded id <;> simp [eq_comm]

/-- The search looks at the optional files only through their values. -/
theorem search_congr {fs' : Files τ} {id : String} (hhome : fs'.home = fs.home)
    (h : ∀ path ∈ candidates fs id, tryRead parse fs' path = tryRead parse fs path) :
    search parse embedded fs' id "" = search parse embedded fs id "" := by
  have huser : userPath? fs' id = userPath? fs id := by
    unfold userPath?
    rw [hhome]
  have hlocal := h (localPath id) (by simp [candidates])
  rw [search_optional, search_optional, findSome?_candidates, findSome?_candidates, huser, hlocal]
  cases hpath : userPath? fs id with
  | none => rfl
  | some path =>
      have hread := h path (by simp [candidates, hpath])
      simp only [Option.bind_some, hread]

theorem unusable_of_error {path : String} {e : FileError} (h : fs.read path = .error e) :
    Unusable parse fs path := by
  rintro c ⟨text, hread, -⟩
  rw [h] at hread
  cases hread

/-- Erasing a file whose text has no value changes no value, at any path. -/
theorem tryRead_erase {gone : List String} {text : τ} (hgone : fs.at? gone = some (.file text))
    (hparse : ∀ c, parse text ≠ .ok c) (path : String) :
    tryRead parse (fs.erase gone) path = tryRead parse fs path := by
  refine Option.ext fun c => ?_
  rw [tryRead_eq_some_iff, tryRead_eq_some_iff]
  constructor
  · rintro ⟨other, hread, hother⟩
    exact ⟨other, (read_of_read_erase hread).1, hother⟩
  · rintro ⟨other, hread, hother⟩
    refine ⟨other, read_erase_of_file hgone hread ?_, hother⟩
    -- A path to the erased file would have read its text, which has no value.
    intro hwalk
    obtain ⟨-, here, hhere, hat⟩ := read_eq_ok_iff.mp hread
    obtain rfl : here = gone := Except.ok.inj (hhere.symm.trans hwalk)
    rw [hgone] at hat
    cases hat
    exact hparse c hother

/-- An optional file without a value may be replaced by one that cannot be read. -/
theorem search_of_unreadable {fs' : Files τ} {id path : String} (hhome : fs'.home = fs.home)
    (hunusable : Unusable parse fs path) {e : FileError} (hgone : fs'.read path = .error e)
    (hothers : ∀ other ∈ candidates fs id, other ≠ path → fs'.read other = fs.read other) :
    search parse embedded fs' id "" = search parse embedded fs id "" := by
  refine search_congr parse fs embedded hhome fun other hother => ?_
  by_cases hsame : other = path
  · subst hsame
    have hnone := (tryRead_eq_none_iff parse fs).mpr hunusable
    rw [hnone, tryRead_eq_none_iff]
    exact unusable_of_error parse fs' hgone
  · unfold tryRead
    rw [hothers other hother hsame]

/-- Erasing an optional file without a value makes it unreadable and changes nothing else. -/
theorem search_erase {id path : String} {gone : List String} {text : τ}
    (hfind : fs.find path = .ok (gone, some (.file text))) (hunusable : Unusable parse fs path) :
    (∃ e, (fs.erase gone).read path = .error e)
      ∧ search parse embedded (fs.erase gone) id "" = search parse embedded fs id "" := by
  obtain ⟨hcheck, hwalk, hat⟩ := find_eq_ok_iff.mp hfind
  constructor
  · cases hread : (fs.erase gone).read path with
    | error e => exact ⟨e, rfl⟩
    | ok other => exact absurd hwalk (read_of_read_erase hread).2
  · have hread : fs.read path = .ok text := read_eq_ok_iff.mpr ⟨hcheck, gone, hwalk, hat⟩
    have hparse : ∀ c, parse text ≠ .ok c := fun c hc => hunusable c ⟨text, hread, hc⟩
    exact search_congr parse fs embedded rfl fun other _ => tryRead_erase parse fs hat hparse other

end Search

/-! ## The paths -/

theorem betweenSlashes_eq_self {cs : List Char} (h : '/' ∉ cs) : betweenSlashes cs = [cs] := by
  induction cs with
  | nil => rfl
  | cons c cs ih =>
      have hc : c ≠ '/' := fun hc => h (hc ▸ List.mem_cons_self)
      have hcs : '/' ∉ cs := fun hmem => h (List.mem_cons_of_mem c hmem)
      rw [betweenSlashes, ih hcs]
      exact hc

theorem names_eq_self {s : String} (h : '/' ∉ s.toList) : names s = [s] := by
  rw [names, betweenSlashes_eq_self h, List.map_singleton, String.ofList_toList]

/-- Without dots for names only the empty names go. -/
theorem tidy_eq_filter {parts : List String} (h : ∀ name ∈ parts, name ≠ "." ∧ name ≠ "..") :
    tidy parts = parts.filter (· ≠ "") := by
  -- The names are taken one by one, after those already kept.
  have hfrom : ∀ kept, parts.foldl (fun acc name =>
      if name = "" ∨ name = "." then acc
      else if name = ".." ∧ acc ≠ [] ∧ acc.getLast? ≠ some ".." then acc.dropLast
      else acc ++ [name]) kept = kept ++ parts.filter (· ≠ "") := by
    induction parts with
    | nil => simp
    | cons name rest ih =>
        intro kept
        obtain ⟨hdot, hdots⟩ := h name List.mem_cons_self
        have hrest := ih fun other hother => h other (List.mem_cons_of_mem name hother)
        by_cases hname : name = ""
        · simp [hname, hrest]
        · simp [hname, hdot, hdots, hrest]
  exact (hfrom []).trans (List.nil_append _)

theorem fileName_ne (id : String) : fileName id ≠ "" ∧ fileName id ≠ "." ∧ fileName id ≠ ".." := by
  have hlength : 5 ≤ (fileName id).length := by
    have hyaml : ".yaml".length = 5 := by decide
    simp [fileName, hyaml]
  refine ⟨?_, ?_, ?_⟩ <;> rintro heq <;> rw [heq] at hlength <;> exact absurd hlength (by decide)

theorem names_fileName {id : String} (h : '/' ∉ id.toList) :
    names (fileName id) = [fileName id] := by
  refine names_eq_self ?_
  simp [fileName, h]

/-- The local file of a demo whose name is no path. -/
theorem localPath_eq {id : String} (h : '/' ∉ id.toList) :
    localPath id = "configs/" ++ id ++ ".yaml" := by
  obtain ⟨hempty, hdot, hdots⟩ := fileName_ne id
  have htidy : tidy ["configs", fileName id] = ["configs", fileName id] := by
    rw [tidy_eq_filter]
    · simp [hempty]
    · simp [hdot, hdots]
  rw [localPath, names_fileName h, relativePath, htidy]
  show "configs" ++ "/" ++ (id ++ ".yaml") = "configs/" ++ id ++ ".yaml"
  rw [← String.append_assoc]
  rfl

/-- The user's file of a demo whose name is no path, for a home directory without dots for names. -/
theorem userPath?_eq {fs : Files τ} {id : String} {home : List String} (h : '/' ∉ id.toList)
    (hhome : fs.home = some home) (hnames : ∀ name ∈ home, name ≠ "." ∧ name ≠ "..") :
    userPath? fs id = some ("/" ++ "/".intercalate
      (home.filter (· ≠ "") ++ [".bounce", "configs", id ++ ".yaml"])) := by
  obtain ⟨hempty, hdot, hdots⟩ := fileName_ne id
  have htidy : tidy (home ++ [".bounce", "configs"] ++ [fileName id])
      = home.filter (· ≠ "") ++ [".bounce", "configs", fileName id] := by
    rw [tidy_eq_filter]
    · simp [hempty]
    · intro name hname
      simp only [List.append_assoc, List.mem_append, List.mem_cons, List.not_mem_nil,
        or_false] at hname
      rcases hname with hname | (rfl | rfl) | rfl
      · exact hnames name hname
      · decide
      · decide
      · exact ⟨hdot, hdots⟩
  have hnone : (home.filter (· ≠ "") ++ [".bounce", "configs", fileName id]).dropWhile (· = "..")
      = home.filter (· ≠ "") ++ [".bounce", "configs", fileName id] := by
    cases hfirst : home.filter (· ≠ "") with
    | nil => rfl
    | cons name rest =>
        have hname : name ∈ home := List.mem_of_mem_filter (hfirst ▸ List.mem_cons_self)
        rw [List.cons_append, List.dropWhile_cons_of_neg (by simpa using (hnames name hname).2)]
  rw [userPath?, hhome, Option.map_some, names_fileName h, absolutePath, htidy, hnone]
  rfl

/-! ## Built-in values and the reader of the program -/

/-- Built-in values, for any reading of texts. -/
theorem builtInBy_eq_some_iff {parse : τ → Except ε γ} {text? : String → Option τ}
    {value? : String → Option γ} {id : String} {c : γ} :
    builtInBy parse text? value? id = some c ↔ ∃ value, value? id = some value
      ∧ ((∃ text, text? id = some text ∧ parse text = .ok c)
        ∨ (∀ text c', text? id = some text → parse text ≠ .ok c') ∧ c = value) := by
  unfold builtInBy
  cases value? id with
  | none => simp
  | some value =>
      cases text? id with
      | none => simp [eq_comm]
      | some text =>
          have hall : (∀ t c', some text = some t → parse t ≠ .ok c') ↔ ∀ c', parse text ≠ .ok c' :=
            ⟨fun h c' => h text c' rfl, fun h t c' ht => Option.some.inj ht ▸ h c'⟩
          rw [hall]
          cases hparse : parse text with
          | error e => simp [hparse, eq_comm]
          | ok c' => simp [hparse]

/-- The built-in files can be read, and they mean the settings that are built in beside them. -/
theorem default_cases (id : String) :
    (∃ text c, defaultText? id = some text ∧ default? id = some c ∧ Settings.parse text = .ok c)
    ∨ (id ≠ "balls" ∧ id ≠ "ball") ∧ defaultText? id = none ∧ default? id = none := by
  have hballs : Settings.parse ballsText = .ok balls := by decide +kernel
  have hball : Settings.parse ballText = .ok ball := by decide +kernel
  by_cases hfirst : id = "balls"
  · exact .inl ⟨ballsText, balls, if_pos hfirst, if_pos hfirst, hballs⟩
  · by_cases hsecond : id = "ball"
    · exact .inl ⟨ballText, ball, (if_neg hfirst).trans (if_pos hsecond),
        (if_neg hfirst).trans (if_pos hsecond), hball⟩
    · exact .inr ⟨⟨hfirst, hsecond⟩, (if_neg hfirst).trans (if_neg hsecond),
        (if_neg hfirst).trans (if_neg hsecond)⟩

theorem builtIn_eq_default? (id : String) : builtIn id = default? id := by
  rcases default_cases id with ⟨text, c, htext, hvalue, hparse⟩ | ⟨-, -, hvalue⟩
  · rw [builtIn, builtInBy, hvalue, htext, Option.map_some, Option.map_some, hparse]
  · rw [builtIn, builtInBy, hvalue, Option.map_none]

/-- What is built in for a demo is what its built-in file means. -/
theorem builtIn_eq_some_iff {id : String} {c : Settings Float} :
    builtIn id = some c ↔ ∃ text, defaultText? id = some text ∧ Settings.parse text = .ok c := by
  rw [builtIn_eq_default?]
  rcases default_cases id with ⟨text, value, htext, hvalue, hparse⟩ | ⟨-, htext, hvalue⟩
  · simp [htext, hvalue, hparse]
  · simp [htext, hvalue]

theorem builtIn_eq_none_iff {id : String} : builtIn id = none ↔ id ≠ "balls" ∧ id ≠ "ball" := by
  rw [builtIn_eq_default?, default?]
  split
  · simp [*]
  · split <;> simp [*]

theorem breakdown?_eq_none {fs : Files} {paths : List String}
    (h : ∀ path ∈ paths, ∀ text, fs.read path = .ok text → parse text ≠ .error .breakdown) :
    breakdown? fs paths = none := by
  induction paths with
  | nil => rfl
  | cons path rest ih =>
      have hrest := ih fun other hother => h other (List.mem_cons_of_mem path hother)
      have hpath := h path List.mem_cons_self
      rw [breakdown?]
      cases hread : fs.read path with
      | error e => exact hrest
      | ok text =>
          cases hparse : parse text with
          | ok c => simp [Except.toOption, hparse]
          | error e =>
              cases e with
              | breakdown => exact absurd hparse (hpath text hread)
              | _ => simpa [Except.toOption, hparse] using hrest

/-- Where no text breaks the reader down, the settings are what the search finds. -/
theorem load_eq_search {fs : Files} {id custom : String}
    (h : custom = "" → ∀ path ∈ candidates fs id, ∀ text, fs.read path = .ok text →
      parse text ≠ .error .breakdown) :
    load fs id custom = search parse builtIn fs id custom := by
  have hnone : breakdown? fs (if custom = "" then candidates fs id else []) = none := by
    by_cases hcustom : custom = ""
    · rw [if_pos hcustom]
      exact breakdown?_eq_none (h hcustom)
    · rw [if_neg hcustom]
      rfl
  rw [load, hnone]

/-! ## The order of the search -/

theorem userPath?_eq_none_iff {fs : Files τ} {id : String} :
    userPath? fs id = none ↔ fs.home = none := Option.map_eq_none_iff

/-- **Where settings come from.** For any files, whatever they hold, and any reading of it. -/
theorem search_follows_order (parse : τ → Except ε γ) (embedded : String → Option γ) (fs : Files τ)
    (id : String) :
    -- A given path is the only file that counts, and it must be readable and have a value.
    (∀ custom, custom ≠ "" →
      (∀ c, search parse embedded fs id custom = .ok c ↔ Holds parse fs custom c)
      ∧ ((∃ e, search parse embedded fs id custom = .error e) ↔
          (∃ e, fs.read custom = .error e)
          ∨ ∃ text e, fs.read custom = .ok text ∧ parse text = .error e)
      ∧ ∀ (embedded' : String → Option γ) (fs' : Files τ) (id' : String),
          fs'.read custom = fs.read custom →
          search parse embedded' fs' id' custom = search parse embedded fs id custom)
    -- Without one, the user's file comes first, then the local one, then what is built in.
    ∧ (∀ c, search parse embedded fs id "" = .ok c ↔
        (∃ path, userPath? fs id = some path ∧ Holds parse fs path c)
        ∨ ((∀ path, userPath? fs id = some path → Unusable parse fs path)
          ∧ (Holds parse fs (localPath id) c
            ∨ Unusable parse fs (localPath id) ∧ embedded id = some c)))
    ∧ (∀ e, search parse embedded fs id "" = .error e ↔
        ((∀ path, userPath? fs id = some path → Unusable parse fs path)
          ∧ Unusable parse fs (localPath id)) ∧ embedded id = none ∧ e = .unknownDemo id)
    -- The paths. Without a home directory there is no user's file.
    ∧ (userPath? fs id = none ↔ fs.home = none)
    ∧ ('/' ∉ id.toList → localPath id = "configs/" ++ id ++ ".yaml"
        ∧ ∀ home, fs.home = some home → (∀ name ∈ home, name ≠ "." ∧ name ≠ "..") →
          userPath? fs id = some ("/" ++ "/".intercalate
            (home.filter (· ≠ "") ++ [".bounce", "configs", id ++ ".yaml"])))
    -- An optional file without a value may as well be absent, and a directory in its place too, if
    -- it does not hold the other one.
    ∧ (∀ path, Unusable parse fs path →
        (∀ fs' : Files τ, fs'.home = fs.home → (∃ e, fs'.read path = .error e) →
          (∀ other ∈ candidates fs id, other ≠ path → fs'.read other = fs.read other) →
          search parse embedded fs' id "" = search parse embedded fs id "")
        ∧ ∀ gone text, fs.find path = .ok (gone, some (.file text)) →
          (∃ e, (fs.erase gone).read path = .error e)
          ∧ search parse embedded (fs.erase gone) id "" = search parse embedded fs id "")
    -- What is built in goes through the same reading, with a value in reserve.
    ∧ (∀ text? value? c, builtInBy parse text? value? id = some c ↔ ∃ value, value? id = some value
        ∧ ((∃ text, text? id = some text ∧ parse text = .ok c)
          ∨ (∀ text c', text? id = some text → parse text ≠ .ok c') ∧ c = value))
    -- In the program that is a file for each of two demos. It can be read, and means the settings
    -- that are in reserve.
    ∧ builtIn id = builtInBy Settings.parse defaultText? default? id
    ∧ (∀ c, builtIn id = some c ↔ ∃ text, defaultText? id = some text ∧ Settings.parse text = .ok c)
    ∧ builtIn id = (if id = "balls" then some balls else if id = "ball" then some ball else none)
    ∧ (builtIn id = none ↔ id ≠ "balls" ∧ id ≠ "ball")
    -- The program searches so, with its own reader, unless that breaks down.
    ∧ ∀ (own : Files) (custom : String),
        (custom = "" → ∀ path ∈ candidates own id, ∀ text, own.read path = .ok text →
          Settings.parse text ≠ .error .breakdown) →
        load own id custom = search Settings.parse builtIn own id custom := by
  refine ⟨fun custom hcustom => ?_, fun c => ?_, fun e => ?_, userPath?_eq_none_iff, fun hid =>
    ⟨localPath_eq hid, fun home hhome hnames => userPath?_eq hid hhome hnames⟩,
    fun path hunusable => ?_, fun text? value? c => builtInBy_eq_some_iff, rfl,
    fun c => builtIn_eq_some_iff, builtIn_eq_default? id, builtIn_eq_none_iff,
    fun own custom h => load_eq_search h⟩
  · rw [search_custom parse fs embedded id hcustom]
    refine ⟨fun c => mustRead_eq_ok_iff parse fs, mustRead_eq_error_iff parse fs, ?_⟩
    intro embedded' fs' id' hread
    rw [search_custom parse fs' embedded' id' hcustom]
    unfold mustRead
    rw [hread]
  · rw [search_eq_ok_iff, findSome?_candidates_eq_some_iff, findSome?_candidates_eq_none_iff,
      or_assoc, and_assoc, ← and_or_left]
  · rw [search_eq_error_iff, findSome?_candidates_eq_none_iff]
  · refine ⟨fun fs' hhome hgone hothers => ?_, fun gone text hfind => ?_⟩
    · obtain ⟨e, hgone⟩ := hgone
      exact search_of_unreadable parse fs embedded hhome hunusable hgone hothers
    · exact search_erase parse fs embedded hfind hunusable

/-- A file that holds nothing has no value. -/
def readSome : Option Nat → Except Unit Nat
  | some n => .ok n
  | none => .error ()

/-- The user's file of the demo holds nothing, and the local one a seven. -/
def shelf : Files (Option Nat) where
  entries := [
    (["home"], .directory), (["home", ".bounce"], .directory),
    (["home", ".bounce", "configs"], .directory),
    (["home", ".bounce", "configs", "balls.yaml"], .file none),
    (["work"], .directory), (["work", "configs"], .directory),
    (["work", "configs", "balls.yaml"], .file (some 7))]
  workDir := ["work"]
  home := some ["home"]

/-- No files and no home directory. -/
def bare : Files where
  entries := []
  workDir := []
  home := none

/-- The user's file is passed over, with and without it the local one is found, and a given path
that is not there is an error. Where there are no files at all, the single orange ball is loaded
from what is built in. -/
theorem search_follows_order_shelf :
    userPath? shelf "balls" = some "/home/.bounce/configs/balls.yaml"
    ∧ search readSome (fun _ => none) shelf "balls" "" = .ok 7
    ∧ search readSome (fun _ => none)
        (shelf.erase ["home", ".bounce", "configs", "balls.yaml"]) "balls" "" = .ok 7
    ∧ (∃ e, search readSome (fun _ => none) shelf "balls" "balls.yaml" = .error e)
    ∧ load bare "ball" "" = .ok
        { width := 1200, height := 1600, count := 0, minRadius := 0, maxRadius := 0, minSpeed := 0,
          maxSpeed := 0, pauseMs := 95,
          initial := some [⟨400, 900, 20, 30, 25, Utf8.bytes "#f58025"⟩] } := by
  have hpath : userPath? shelf "balls" = some "/home/.bounce/configs/balls.yaml" := by
    decide +kernel
  have hfind : shelf.find "/home/.bounce/configs/balls.yaml"
      = .ok (["home", ".bounce", "configs", "balls.yaml"], some (.file none)) := by decide +kernel
  have huser : shelf.read "/home/.bounce/configs/balls.yaml" = .ok none := by decide +kernel
  have hlocal : shelf.read (localPath "balls") = .ok (some 7) := by decide +kernel
  have hgiven : shelf.read "balls.yaml" = .error .notFound := by decide +kernel
  have hunusable : Unusable readSome shelf "/home/.bounce/configs/balls.yaml" := by
    rintro c ⟨text, hread, hvalue⟩
    cases huser.symm.trans hread
    cases hvalue
  obtain ⟨hcustom, hoptional, -, -, -, habsent, -⟩ :=
    search_follows_order readSome (fun _ => none) shelf "balls"
  have hseven : search readSome (fun _ => none) shelf "balls" "" = .ok 7 := by
    refine (hoptional 7).mpr (.inr ⟨fun path h => ?_, .inl ⟨some 7, hlocal, rfl⟩⟩)
    cases hpath.symm.trans h
    exact hunusable
  refine ⟨hpath, hseven, (((habsent _ hunusable).2 _ _ hfind).2).trans hseven,
    (hcustom "balls.yaml" (by decide)).2.1.mpr (.inl ⟨_, hgiven⟩), ?_⟩
  have hlocal : bare.read (localPath "ball") = .error .notFound := by decide +kernel
  obtain ⟨-, hsettings, -, hnone, -, -, -, -, -, hball, -, hload⟩ :=
    search_follows_order Settings.parse builtIn bare "ball"
  have hnothing : ∀ path ∈ candidates bare "ball", ∀ text, bare.read path ≠ .ok text := by
    intro path hmem text hread
    obtain rfl : path = localPath "ball" := List.mem_singleton.mp hmem
    cases hlocal.symm.trans hread
  rw [hload bare "" fun _ path hpath text hread => absurd hread (hnothing path hpath text)]
  refine (hsettings _).mpr (.inr ⟨fun path h => ?_, .inr ⟨?_, hball⟩⟩)
  · cases (hnone.mpr rfl).symm.trans h
  · rintro c ⟨text, hread, -⟩
    cases hlocal.symm.trans hread

end Settings

end Ricochet
