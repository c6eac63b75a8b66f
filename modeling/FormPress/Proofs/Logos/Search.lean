/-
  FormPress.Proofs.Logos.Search

  How one search for a logo comes out (`Search`).  It passes over the files in
  front that are neither loaded nor readable (`PassedOver`) and ends at the first
  file that is, or at a path at which it cannot be said whether a file stands
  there.  What was loaded stays loaded (`Search.kept`), and at most the file that
  was found is loaded anew (`Search.entry`).  As long as the files stay as they
  are, what is loaded makes no difference to what is found (`Shelf.first_image`),
  and of the files only those at the paths searched do (`Shelf.first_of_agree`).
-/
import FormPress.Logos.Shelf
import FormPress.Proofs.Files.Writing

namespace FormPress

/-! ## Ways to come out -/

/-- A search goes on behind a path that is not loaded: no file stands there, or one that cannot be
    read, which is noted. -/
inductive PassedOver (files : Files) (path : Path) : List LogEntry → Prop
  | absent (h : files.hasFile path = .ok false) : PassedOver files path []
  | unreadable {fault : FileFault} (h : files.hasFile path = .ok true)
      (h' : files.read path = .error fault) : PassedOver files path [unreadableLogo path fault]

/-- How a search comes out. -/
inductive Search (files : Files) (shelf : Shelf) : List Path → Found → Prop
  | nothing : Search files shelf [] ⟨.ok none, shelf, []⟩
  | loaded {path : Path} {rest : List Path} {image : String}
      (h : Table.get? shelf path = some image) :
      Search files shelf (path :: rest) ⟨.ok (some image), shelf, []⟩
  | readNow {path : Path} {rest : List Path} {content : ByteArray}
      (h : Table.get? shelf path = none) (h' : files.read path = .ok content) :
      Search files shelf (path :: rest)
        ⟨.ok (some (dataUri path content)), Table.put path (dataUri path content) shelf, []⟩
  | refused {path : Path} {rest : List Path} {fault : FileFault}
      (h : Table.get? shelf path = none) (h' : files.hasFile path = .error fault) :
      Search files shelf (path :: rest) ⟨.error (.file path fault), shelf, []⟩
  | passed {path : Path} {rest : List Path} {notes : List LogEntry} {found : Found}
      (h : Table.get? shelf path = none) (h' : PassedOver files path notes)
      (hrest : Search files shelf rest found) :
      Search files shelf (path :: rest) { found with log := notes ++ found.log }

/-- Going through some paths is a search along them. -/
theorem Shelf.first_search (files : Files) (shelf : Shelf) (paths : List Path) :
    Search files shelf paths (shelf.first files paths) := by
  induction paths with
  | nil => exact .nothing
  | cons path rest ih =>
      rw [Shelf.first]
      cases hloaded : Table.get? shelf path with
      | some image => exact .loaded hloaded
      | none =>
          rcases hfile : files.hasFile path with fault | (_ | _)
          · exact .refused hloaded hfile
          · exact .passed hloaded (.absent hfile) ih
          · rcases hread : files.read path with fault | content
            · exact .passed hloaded (.unreadable hfile hread) ih
            · exact .readNow hloaded hread

/-! ## Where logos are looked for -/

/-- The paths of the crest in order of preference. -/
def AssetSettings.crestPaths (assets : AssetSettings) : List Path :=
  assets.crestNames.map fun name => assets.folder.join (.ofText name)

/-- The path of the text logo, the only candidate for it. -/
def AssetSettings.textLogoPaths (assets : AssetSettings) : List Path :=
  [assets.folder.join (.ofText assets.textLogo)]

/-- All paths at which a logo is looked for. -/
def AssetSettings.logoPaths (assets : AssetSettings) : List Path :=
  assets.crestPaths ++ assets.textLogoPaths

/-- Looking for the crest is a search along its paths. -/
theorem Shelf.crest_search (files : Files) (assets : AssetSettings) (shelf : Shelf) :
    Search files shelf assets.crestPaths (shelf.crest files assets) :=
  Shelf.first_search ..

/-- Looking for the text logo is a search along its one path. -/
theorem Shelf.textLogo_search (files : Files) (assets : AssetSettings) (shelf : Shelf) :
    Search files shelf assets.textLogoPaths (shelf.textLogo files assets) :=
  Shelf.first_search ..

/-! ## What can be read -/

namespace Files

variable {files : Files} {path : Path}

/-- Where no file stands nothing is read. -/
theorem read_of_no_file (h : files.hasFile path = .ok false) :
    ∃ fault, files.read path = .error fault := by
  rw [hasFile, hasSome] at h
  rw [read]
  rcases hlocate : files.locate path with fault | place
  · exact ⟨fault, rfl⟩
  · rw [reach_eq_some.mpr hlocate] at h
    have hentry : (files.entryAt? place).any Entry.isFile = false := Except.ok.inj h
    -- Where a path leads and no file stands, there is nothing, a folder, or what cannot be looked
    -- at.
    rcases hat : files.entryAt? place with _ | entry
    · exact ⟨.absent, by simp only [hat]⟩
    · cases entry with
      | folder | closed => exact ⟨.isFolder, by simp only [hat]⟩
      | barred reason => exact ⟨.unreadable reason, by simp only [hat]⟩
      | file content | unreadable reason =>
          rw [hat] at hentry
          cases hentry

/-- What can be read is a file. -/
theorem hasFile_of_read {content : ByteArray} (h : files.read path = .ok content) :
    files.hasFile path = .ok true := by
  rw [read] at h
  rw [hasFile, hasSome]
  rcases hlocate : files.locate path with fault | place
  · rw [hlocate] at h
    cases h
  · rcases hat : files.entryAt? place with _ | entry
    · simp only [hlocate, hat] at h
      cases h
    · rw [reach_eq_some.mpr hlocate]
      cases entry with
      | file content' => exact congrArg (fun e : Option Entry => Except.ok (e.any Entry.isFile)) hat
      | unreadable | folder | closed | barred =>
          simp only [hlocate, hat] at h
          cases h

/-- Where it cannot be said whether a file stands, nothing is read for the same reason. -/
theorem read_of_refused {fault : FileFault} (h : files.hasFile path = .error fault) :
    files.read path = .error fault := by
  rw [hasFile, hasSome, reach] at h
  rw [read]
  rcases hlocate : files.locate path with fault' | place
  · rw [hlocate, orNowhere] at h
    -- Had the path led nowhere, there would be no file, and that could be said.
    by_cases hnowhere : fault'.leadsNowhere = true
    · rw [if_pos hnowhere] at h
      cases h
    · rw [if_neg hnowhere] at h
      cases h
      rfl
  · rw [hlocate] at h
    cases h

end Files

/-- What a search passes over cannot be read. -/
theorem PassedOver.read {files : Files} {path : Path} {notes : List LogEntry}
    (h : PassedOver files path notes) : ∃ fault, files.read path = .error fault := by
  cases h with
  | absent h => exact Files.read_of_no_file h
  | unreadable _ h' => exact ⟨_, h'⟩

/-! ## The shelf after a search -/

namespace Search

variable {files : Files} {shelf : Shelf} {paths : List Path} {found : Found} {path : Path}
  {image : String}

/-- What was loaded stays loaded. -/
theorem kept (h : Search files shelf paths found) (hpath : Table.get? shelf path = some image) :
    Table.get? found.shelf path = some image := by
  induction h with
  | nothing => exact hpath
  | loaded => exact hpath
  | @readNow other _ content hother _ =>
      have hne : other ≠ path := by
        intro heq
        rw [heq, hpath] at hother
        cases hother
      exact (Table.get?_put_of_ne hne ..).trans hpath
  | refused => exact hpath
  | passed _ _ _ ih => exact ih

/-- An address that is on the shelf after a search was there before, or holds the file as it was at
    the search. -/
theorem entry (h : Search files shelf paths found)
    (hpath : Table.get? found.shelf path = some image) :
    Table.get? shelf path = some image ∨
      ∃ content, files.read path = .ok content ∧ image = dataUri path content := by
  induction h with
  | nothing => exact .inl hpath
  | loaded => exact .inl hpath
  | @readNow other _ content _ hread =>
      have hput : Table.get? (Table.put other (dataUri other content) shelf) path = some image :=
        hpath
      -- The file that was read is put on the shelf, and nothing else.
      rw [Table.get?_put] at hput
      by_cases heq : other = path
      · rw [if_pos heq, heq] at hput
        rw [heq] at hread
        exact .inr ⟨content, hread, (Option.some.inj hput).symm⟩
      · rw [if_neg heq] at hput
        exact .inl hput
  | refused => exact .inl hpath
  | passed _ _ _ ih => exact ih hpath

/-- A search that finds an address finds it under a path which has nothing loaded in front of it. -/
theorem found_first (h : Search files shelf paths found) (himage : found.image = .ok (some image)) :
    ∃ better path rest, paths = better ++ path :: rest ∧
      Table.get? found.shelf path = some image ∧
      ∀ p ∈ better, Table.get? found.shelf p = none := by
  induction h with
  | nothing => cases himage
  | loaded hloaded =>
      cases himage
      exact ⟨[], _, _, rfl, hloaded, fun _ hp => nomatch hp⟩
  | @readNow path rest content _ _ =>
      cases himage
      exact ⟨[], path, rest, rfl, Table.get?_put_self .., fun _ hp => nomatch hp⟩
  | refused => cases himage
  | @passed other rest notes found hother hpassed hrest ih =>
      obtain ⟨better, path, behind, hsplit, hpath, hbetter⟩ := ih himage
      -- The file that was passed over cannot be read, so it is not loaded further on either.
      have hother' : Table.get? found.shelf other = none := by
        cases hafter : Table.get? found.shelf other with
        | none => rfl
        | some v =>
            obtain ⟨fault, hfault⟩ := hpassed.read
            rcases hrest.entry hafter with hbefore | ⟨content, hread, -⟩
            · rw [hother] at hbefore
              cases hbefore
            · rw [hfault] at hread
              cases hread
      refine ⟨other :: better, path, behind, by rw [hsplit]; rfl, hpath, ?_⟩
      intro p hp
      rcases List.mem_cons.mp hp with rfl | hp
      · exact hother'
      · exact hbetter p hp

/-! ## Searches in front of a loaded file -/

variable {better rest : List Path}

/-- A search ends at a path that is loaded already. -/
theorem eq_of_loaded (h : Search files shelf (path :: rest) found)
    (hpath : Table.get? shelf path = some image) : found = ⟨.ok (some image), shelf, []⟩ := by
  cases h with
  | loaded h =>
      rw [hpath] at h
      cases h
      rfl
  | readNow h | refused h | passed h =>
      rw [hpath] at h
      cases h

/-- In front of a loaded file a search finds that file, or one in front of it, or ends at a path in
    front of it that the system refuses to look at. -/
theorem before_loaded (h : Search files shelf (better ++ path :: rest) found)
    (hpath : Table.get? shelf path = some image) :
    found.image = .ok (some image) ∨
      (∃ p ∈ better, ∃ v, found.image = .ok (some v) ∧ Table.get? found.shelf p = some v) ∨
      ∃ p ∈ better, ∃ fault, files.hasFile p = .error fault ∧
        found.image = .error (.file p fault) := by
  -- The search goes through the paths in front one by one; where it ends, one of the three holds.
  induction better generalizing found with
  | nil =>
      obtain rfl := h.eq_of_loaded hpath
      exact .inl rfl
  | cons p better ih =>
      have hp : p ∈ p :: better := List.mem_cons_self ..
      cases h with
      | loaded h => exact .inr (.inl ⟨p, hp, _, rfl, h⟩)
      | readNow => exact .inr (.inl ⟨p, hp, _, rfl, Table.get?_put_self ..⟩)
      | refused _ h' => exact .inr (.inr ⟨p, hp, _, h', rfl⟩)
      | passed _ _ hrest =>
          -- Nothing is loaded for this path, so the search goes on with the same shelf.
          rcases ih hrest with himage | ⟨q, hq, hfound⟩ | ⟨q, hq, hrefused⟩
          · exact .inl himage
          · exact .inr (.inl ⟨q, List.mem_cons_of_mem _ hq, hfound⟩)
          · exact .inr (.inr ⟨q, List.mem_cons_of_mem _ hq, hrefused⟩)

/-- Where everything in front of a loaded file is passed over, a search finds that file and loads
    nothing. -/
theorem stays (h : Search files shelf (better ++ path :: rest) found)
    (hpath : Table.get? shelf path = some image)
    (hbetter : ∀ p ∈ better, Table.get? shelf p = none ∧ ∃ notes, PassedOver files p notes) :
    found.image = .ok (some image) ∧ found.shelf = shelf := by
  induction better generalizing found with
  | nil =>
      obtain rfl := h.eq_of_loaded hpath
      exact ⟨rfl, rfl⟩
  | cons p better ih =>
      obtain ⟨hnone, notes, hpassed⟩ := hbetter p (List.mem_cons_self ..)
      cases h with
      | loaded h =>
          rw [hnone] at h
          cases h
      | readNow _ h' =>
          obtain ⟨fault, hfault⟩ := hpassed.read
          rw [hfault] at h'
          cases h'
      | refused _ h' =>
          cases hpassed with
          | absent hfile | unreadable hfile =>
              rw [hfile] at h'
              cases h'
      | passed _ _ hrest =>
          have hfound := ih hrest fun q hq => hbetter q (List.mem_cons_of_mem _ hq)
          exact hfound

end Search

/-! ## Files that stay as they are -/

/-- Every loaded logo is what its file holds. -/
def Shelf.Faithful (files : Files) (shelf : Shelf) : Prop :=
  ∀ path image, Table.get? shelf path = some image →
    ∃ content, files.read path = .ok content ∧ image = dataUri path content

namespace Shelf

variable {files : Files} {shelf : Shelf}

/-- Nothing loaded is faithful to all files. -/
theorem Faithful.empty (files : Files) : Faithful files [] := fun _ _ h => nomatch h

/-- A search leaves the shelf faithful to the files in which it searched. -/
theorem Faithful.search {paths : List Path} {found : Found} (h : Faithful files shelf)
    (hsearch : Search files shelf paths found) : Faithful files found.shelf := by
  intro path image hpath
  rcases hsearch.entry hpath with hbefore | hread
  · exact h path image hbefore
  · exact hread

/-- What is loaded from the files as they are makes no difference to what a search finds. -/
theorem first_image (h : Faithful files shelf) (paths : List Path) :
    (shelf.first files paths).image = (first files [] paths).image := by
  induction paths with
  | nil => rfl
  | cons path rest ih =>
      rw [first, first, Table.get?_nil]
      cases hloaded : Table.get? shelf path with
      | some image =>
          -- What is loaded of this path is what reading it would give.
          obtain ⟨content, hread, rfl⟩ := h path image hloaded
          simp only [Files.hasFile_of_read hread, hread]
      | none =>
          rcases files.hasFile path with fault | (_ | _)
          · rfl
          · exact ih
          · rcases files.read path with fault | content
            · exact ih
            · rfl

/-- A relation between shelves that no search in the files can tell apart: it comes out the same on
    both and leaves both related. -/
def Indistinct (files : Files) (R : Shelf → Shelf → Prop) : Prop :=
  ∀ shelf shelf', R shelf shelf' → ∀ paths,
    (shelf.first files paths).image = (shelf'.first files paths).image ∧
      R (shelf.first files paths).shelf (shelf'.first files paths).shelf

theorem indistinct_eq (files : Files) : Indistinct files Eq :=
  fun _ _ h _ => h ▸ ⟨rfl, rfl⟩

/-- What is loaded of the files as they are cannot be told from anything else that is. -/
theorem indistinct_faithful (files : Files) :
    Indistinct files fun shelf shelf' => shelf.Faithful files ∧ shelf'.Faithful files :=
  fun _ _ ⟨h, h'⟩ paths => ⟨(first_image h paths).trans (first_image h' paths).symm,
    h.search (first_search ..), h'.search (first_search ..)⟩

/-- A search comes out the same where the same files are found at its paths. -/
theorem first_of_agree {files' : Files} {paths : List Path} (h : Files.AgreeOn paths files files')
    (shelf : Shelf) : shelf.first files' paths = shelf.first files paths := by
  induction paths with
  | nil => rfl
  | cons path rest ih =>
      have hrest := ih (h.mono fun _ hp => List.mem_cons_of_mem _ hp)
      have hpath : path ∈ path :: rest := List.mem_cons_self ..
      rw [first, first, h.hasFile path hpath, hrest]
      cases Table.get? shelf path with
      | some image => rfl
      | none =>
          rcases hfile : files.hasFile path with fault | (_ | _)
          · rfl
          · rfl
          -- Only what is a file is read.
          · rw [h.read path hpath hfile]

end Shelf

end FormPress
