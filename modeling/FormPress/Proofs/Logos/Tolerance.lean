/-
  FormPress.Proofs.Logos.Tolerance

  What a search for a logo comes to, said of the candidates in their order.  The
  first one that is loaded or can be read gives the logo and is the only one that
  is loaded by the search, and each unreadable file in front of it is noted once
  (`Shelf.Settles`).  Only a path in front of the logo that the system refuses to
  look at, or that is too long for it, ends the search with a failure
  (`Shelf.Fails`).

  Over any run of searches and clearings the shelf holds of each file what its
  first read since the last clearing found (`Shelf.afterAll_eq_some_iff`), and a
  search that reads nothing leaves no trace (`Shelf.after_of_no_read`).
-/
import FormPress.Proofs.Logos.Stability
import Mathlib.Data.List.Basic
import Mathlib.Data.List.Induction

namespace FormPress

/-! ## Candidates -/

namespace Files

variable {files : Files} {path : Path}

/-- The note on a file that stands at a path and cannot be read. -/
def noteOn (files : Files) (path : Path) : Option LogEntry :=
  match files.hasFile path, files.read path with
  | .ok true, .error fault => some (unreadableLogo path fault)
  | _, _ => none

/-- A path on the way of which the system refuses to go on cannot be looked at. -/
theorem hasFile_of_walk {fault : FileFault} (hpossible : path.isImpossible = false)
    (hnamable : Text.isUnnamable path.text = false)
    (hpath : ¬ longestPath < path.text.utf8ByteSize)
    (hwalk : files.walk [] (files.base.join path).parts = .error fault)
    (hrefused : fault.leadsNowhere = false) : files.hasFile path = .error fault := by
  have hlocate : files.locate path = .error fault := by
    simp [locate, hpossible, hnamable, hpath, hwalk]
  simp [hasFile, hasSome, reach, orNowhere, hlocate, hrefused, Except.map]

end Files

namespace PassedOver

variable {files : Files} {path : Path} {notes : List LogEntry}

/-- What is passed over leaves the note on it, if it has one. -/
theorem notes_eq (h : PassedOver files path notes) : notes = (files.noteOn path).toList := by
  cases h with
  | absent h => simp [Files.noteOn, h]
  | unreadable h h' => simp [Files.noteOn, h, h']

/-- What is passed over has been looked at. -/
theorem hasFile_ne (h : PassedOver files path notes) (fault : FileFault) :
    files.hasFile path ≠ .error fault := by
  cases h with
  | absent h | unreadable h => simp [h]

end PassedOver

namespace Shelf

variable {files : Files} {shelf : Shelf} {paths rest : List Path} {path : Path} {found : Found}
  {content : ByteArray} {image : String}

/-- The logo at a path: the one that is loaded, else what the file holds if it can be read. -/
def offer (files : Files) (shelf : Shelf) (path : Path) : Option String :=
  match Table.get? shelf path, files.read path with
  | some image, _ => some image
  | none, .ok content => some (dataUri path content)
  | none, .error _ => none

/-- The candidates in front of the first one with a logo, all of them if none has one. -/
def inFront (files : Files) (shelf : Shelf) (paths : List Path) : List Path :=
  paths.takeWhile fun p => (offer files shelf p).isNone

/-- The first candidate with a logo. -/
def chosen (files : Files) (shelf : Shelf) (paths : List Path) : Option Path :=
  paths.find? fun p => (offer files shelf p).isSome

/-- At a path in front of the first logo it cannot be said whether a file stands there. -/
def Blocked (files : Files) (shelf : Shelf) (paths : List Path) : Prop :=
  ∃ p ∈ inFront files shelf paths, ∃ fault, files.hasFile p = .error fault

/-- A search that settles which logo there is, if any: the first one among the candidates.  Nothing
    else is loaded, and the unreadable files in front are noted. -/
structure Settles (files : Files) (shelf : Shelf) (paths : List Path) (found : Found) : Prop where
  image : found.image = .ok (paths.findSome? (offer files shelf))
  log : found.log = (inFront files shelf paths).filterMap files.noteOn
  shelf : ∀ p, Table.get? found.shelf p =
    if chosen files shelf paths = some p then offer files shelf p else Table.get? shelf p

/-- A search that fails at the first path that cannot be looked at, behind some others, with the
    fault of that path.  Nothing is loaded. -/
structure Fails (files : Files) (shelf : Shelf) (paths : List Path) (found : Found)
    (others : List Path) (path : Path) (fault : FileFault) : Prop where
  split : ∃ rest, paths = others ++ path :: rest
  refused : files.hasFile path = .error fault
  first : ∀ p ∈ others, ∀ fault', files.hasFile p ≠ .error fault'
  image : found.image = .error (.file path fault)
  log : found.log = others.filterMap files.noteOn
  shelf : found.shelf = shelf

/-- A search settles which logo there is unless a path in front of it cannot be looked at. -/
structure SettlesOrFails (files : Files) (shelf : Shelf) (paths : List Path) (found : Found) :
    Prop where
  settles : ¬ Blocked files shelf paths → Settles files shelf paths found
  fails : Blocked files shelf paths →
    ∃ others path fault, Fails files shelf paths found others path fault

theorem offer_of_loaded (h : Table.get? shelf path = some image) :
    offer files shelf path = some image := by
  simp only [offer, h]

theorem offer_of_read (h : Table.get? shelf path = none) (h' : files.read path = .ok content) :
    offer files shelf path = some (dataUri path content) := by
  simp only [offer, h, h']

theorem offer_of_unread {fault : FileFault} (h : Table.get? shelf path = none)
    (h' : files.read path = .error fault) : offer files shelf path = none := by
  simp only [offer, h, h']

/-- A path offers what is loaded of it, else what its file holds. -/
theorem offer_eq_some_iff :
    offer files shelf path = some image ↔
      Table.get? shelf path = some image ∨ Table.get? shelf path = none ∧
        ∃ content, files.read path = .ok content ∧ image = dataUri path content := by
  rcases hshelf : Table.get? shelf path with _ | loaded
  · rcases hread : files.read path with fault | content
    · simp [offer_of_unread hshelf hread]
    · simp [offer_of_read hshelf hread, eq_comm]
  · simp [offer_of_loaded hshelf]

theorem inFront_of_offer (h : offer files shelf path = some image) :
    inFront files shelf (path :: rest) = [] := by
  simp [inFront, h]

theorem inFront_of_no_offer (h : offer files shelf path = none) :
    inFront files shelf (path :: rest) = path :: inFront files shelf rest := by
  simp [inFront, h]

/-- In front of a candidate that has a logo itself nothing can block. -/
theorem not_blocked_of_offer (h : offer files shelf path = some image) :
    ¬ Blocked files shelf (path :: rest) := by
  rintro ⟨p, hp, -⟩
  rw [inFront_of_offer h] at hp
  cases hp

/-- A candidate that can be looked at and has no logo does not block. -/
theorem blocked_behind (h : offer files shelf path = none)
    (h' : ∀ fault, files.hasFile path ≠ .error fault) :
    Blocked files shelf (path :: rest) ↔ Blocked files shelf rest := by
  simp [Blocked, inFront_of_no_offer h, h']

theorem chosen_of_offer (h : offer files shelf path = some image) :
    chosen files shelf (path :: rest) = some path :=
  List.find?_cons_of_pos (by simp [h])

theorem chosen_of_no_offer (h : offer files shelf path = none) :
    chosen files shelf (path :: rest) = chosen files shelf rest :=
  List.find?_cons_of_neg (by simp [h])

/-- A search that ends at its first candidate with a logo settles, whatever comes behind. -/
theorem settlesOrFails_of_offer (hoffer : offer files shelf path = some image)
    (himage : found.image = .ok (some image)) (hlog : found.log = [])
    (hshelf : ∀ p, Table.get? found.shelf p = if path = p then some image else Table.get? shelf p) :
    SettlesOrFails files shelf (path :: rest) found := by
  constructor
  · intro _
    refine ⟨?_, ?_, fun p => ?_⟩
    · rw [himage, List.findSome?_cons, hoffer]
    · rw [hlog, inFront_of_offer hoffer]
      rfl
    · rw [hshelf, chosen_of_offer hoffer]
      by_cases heq : path = p
      · rw [if_pos heq, if_pos (congrArg some heq), ← heq, hoffer]
      · rw [if_neg heq, if_neg (mt Option.some.inj heq)]
  · exact fun h => absurd h (not_blocked_of_offer hoffer)

end Shelf

open FormPress.Shelf in
/-- Every search settles which logo there is, or fails at a path that cannot be looked at. -/
theorem Search.settlesOrFails {files : Files} {shelf : Shelf} {paths : List Path} {found : Found}
    (h : Search files shelf paths found) : SettlesOrFails files shelf paths found := by
  induction h with
  | nothing =>
      refine ⟨fun _ => ⟨rfl, rfl, fun p => ?_⟩, ?_⟩
      · simp [chosen]
      · rintro ⟨p, hp, -⟩
        cases hp
  | @loaded path rest image hloaded =>
      refine settlesOrFails_of_offer (offer_of_loaded hloaded) rfl rfl fun p => ?_
      split
      next heq => rw [← heq, hloaded]
      next => rfl
  | @readNow path rest content hunloaded hread =>
      exact settlesOrFails_of_offer (offer_of_read hunloaded hread) rfl rfl fun p =>
        Table.get?_put ..
  | @refused path rest fault hunloaded hrefused =>
      have hoffer := offer_of_unread hunloaded (Files.read_of_refused hrefused)
      constructor
      · intro hfree
        exact absurd ⟨path, by simp [inFront_of_no_offer hoffer], fault, hrefused⟩ hfree
      · exact fun _ => ⟨[], path, fault, ⟨rest, rfl⟩, hrefused,
          (fun _ hp => absurd hp List.not_mem_nil), rfl, rfl, rfl⟩
  | @passed path rest notes found hunloaded hpassed _ ih =>
      -- The path has no logo and can be looked at, so it only adds its note.
      obtain ⟨fault, hread⟩ := hpassed.read
      have hoffer := offer_of_unread hunloaded hread
      have hlog : ∀ others, found.log = List.filterMap files.noteOn others →
          notes ++ found.log = List.filterMap files.noteOn (path :: others) := by
        intro others h
        rw [h, hpassed.notes_eq, List.filterMap_cons]
        cases files.noteOn path <;> rfl
      have hblocked : Blocked files shelf (path :: rest) ↔ Blocked files shelf rest :=
        blocked_behind hoffer hpassed.hasFile_ne
      constructor
      · intro hfree
        have hrest := ih.settles (mt hblocked.mpr hfree)
        refine ⟨?_, ?_, ?_⟩
        · rw [List.findSome?_cons, hoffer]
          exact hrest.image
        · rw [inFront_of_no_offer hoffer]
          exact hlog _ hrest.log
        · rw [chosen_of_no_offer hoffer]
          exact hrest.shelf
      · intro h
        obtain ⟨others, p, fault', ⟨behind, hsplit⟩, hrefused, hfirst, himage, hnotes, hshelf⟩ :=
          ih.fails (hblocked.mp h)
        refine ⟨path :: others, p, fault', ⟨behind, by rw [hsplit]; rfl⟩, hrefused, ?_, himage,
          hlog _ hnotes, hshelf⟩
        intro q hq
        rcases List.mem_cons.mp hq with rfl | hq
        · exact hpassed.hasFile_ne
        · exact hfirst q hq

/-! ## Runs -/

namespace Shelf

/-- What happens to the loaded logos: searches for the crest and for the text logo, each with the
    files as they are then, and clearings. -/
inductive Event where
  | crest (files : Files) (assets : AssetSettings)
  | textLogo (files : Files) (assets : AssetSettings)
  | clear

/-- The loaded logos after an event. -/
def after (shelf : Shelf) : Event → Shelf
  | .crest files assets => (shelf.crest files assets).shelf
  | .textLogo files assets => (shelf.textLogo files assets).shelf
  | .clear => []

/-- The loaded logos after a run of events; nothing is loaded in front of it. -/
def afterAll (events : List Event) : Shelf := events.foldl after []

/-- A search reads a file: the file gives the first logo among the candidates, and it was not loaded
    yet. -/
structure Reads (files : Files) (shelf : Shelf) (paths : List Path) (path : Path)
    (content : ByteArray) : Prop where
  free : ¬ Blocked files shelf paths
  chosen : chosen files shelf paths = some path
  unloaded : Table.get? shelf path = none
  read : files.read path = .ok content

/-- The file that is read at an event, with what it holds. -/
def Event.Reads (shelf : Shelf) (path : Path) (content : ByteArray) : Event → Prop
  | .crest files assets => Shelf.Reads files shelf assets.crestPaths path content
  | .textLogo files assets => Shelf.Reads files shelf assets.textLogoPaths path content
  | .clear => False

/-- A file is read in a run, and nothing is cleared behind that. -/
def ReadSince (events : List Event) (path : Path) (content : ByteArray) : Prop :=
  ∃ before e later, events = before ++ e :: later ∧ .clear ∉ later ∧
    e.Reads (afterAll before) path content

/-- The first read of a file since the last clearing of a run. -/
structure FirstRead (events : List Event) (path : Path) (content : ByteArray)
    (before : List Event) (e : Event) (later : List Event) : Prop where
  split : events = before ++ e :: later
  kept : .clear ∉ later
  reads : e.Reads (afterAll before) path content
  first : ∀ content', ¬ ReadSince before path content'

end Shelf

namespace Search

open FormPress.Shelf

variable {files : Files} {shelf : Shelf} {paths : List Path} {path : Path} {found : Found}
  {image : String}

/-- After a search a file is loaded just if it was loaded before or the search has read it. -/
theorem get?_eq_some_iff (h : Search files shelf paths found) :
    Table.get? found.shelf path = some image ↔
      Table.get? shelf path = some image ∨
        ∃ content, Reads files shelf paths path content ∧ image = dataUri path content := by
  by_cases hblocked : Blocked files shelf paths
  · obtain ⟨others, p, fault, hfails⟩ := h.settlesOrFails.fails hblocked
    rw [hfails.shelf]
    exact ⟨.inl, fun h => h.elim id fun ⟨_, hreads, _⟩ => absurd hblocked hreads.free⟩
  rw [(h.settlesOrFails.settles hblocked).shelf]
  -- The chosen path is loaded already, or it is read now; no other path changes.
  by_cases hchosen : chosen files shelf paths = some path
  · rw [if_pos hchosen, offer_eq_some_iff]
    refine or_congr_right ⟨?_, ?_⟩
    · rintro ⟨hunloaded, content, hread, himage⟩
      exact ⟨content, ⟨hblocked, hchosen, hunloaded, hread⟩, himage⟩
    · rintro ⟨content, hreads, himage⟩
      exact ⟨hreads.unloaded, content, hreads.read, himage⟩
  · rw [if_neg hchosen]
    exact ⟨.inl, fun h => h.elim id fun ⟨_, hreads, _⟩ => absurd hreads.chosen hchosen⟩

/-- A search ends at its first candidate if that one is not loaded and cannot be looked at. -/
theorem image_of_refused {rest : List Path} {fault : FileFault}
    (h : Search files shelf (path :: rest) found) (hunloaded : Table.get? shelf path = none)
    (hrefused : files.hasFile path = .error fault) :
    found.image = .error (.file path fault) := by
  cases h with
  | loaded hloaded =>
      rw [hunloaded] at hloaded
      cases hloaded
  | readNow _ hread =>
      rw [Files.hasFile_of_read hread] at hrefused
      cases hrefused
  | refused _ hfile =>
      rw [hfile] at hrefused
      cases hrefused
      rfl
  | passed _ hpassed => exact absurd hrefused (hpassed.hasFile_ne fault)

/-- A search reads a file or leaves the loaded logos as they are. -/
theorem reads_or_idle (h : Search files shelf paths found) :
    (∃ path content, Reads files shelf paths path content) ∨ found.shelf = shelf := by
  induction h with
  | nothing | loaded | refused => exact .inr rfl
  | @readNow path rest content hunloaded hread =>
      have hoffer := offer_of_read hunloaded hread
      exact .inl ⟨path, content, not_blocked_of_offer hoffer, chosen_of_offer hoffer, hunloaded,
        hread⟩
  | @passed path rest notes found hunloaded hpassed _ ih =>
      obtain ⟨fault, hread⟩ := hpassed.read
      have hoffer := offer_of_unread hunloaded hread
      -- What is passed over blocks nothing, so a read further on is one of the whole search.
      rcases ih with ⟨p, content, hfree, hchosen, hp, hcontent⟩ | hidle
      · refine .inl ⟨p, content, ?_, ?_, hp, hcontent⟩
        · exact mt (blocked_behind hoffer hpassed.hasFile_ne).mp hfree
        · exact (chosen_of_no_offer hoffer).trans hchosen
      · exact .inr hidle

end Search

namespace Shelf

variable {shelf : Shelf} {path : Path} {content : ByteArray} {image : String}
  {events : List Event} {e : Event}

/-- Every event but a clearing is a search. -/
theorem Event.search (shelf : Shelf) (h : e ≠ .clear) :
    ∃ files paths found, Search files shelf paths found ∧ found.shelf = after shelf e ∧
      ∀ path content, e.Reads shelf path content ↔ Shelf.Reads files shelf paths path content := by
  cases e with
  | crest files assets =>
      exact ⟨files, _, _, crest_search files assets shelf, rfl, fun _ _ => Iff.rfl⟩
  | textLogo files assets =>
      exact ⟨files, _, _, textLogo_search files assets shelf, rfl, fun _ _ => Iff.rfl⟩
  | clear => exact absurd rfl h

/-- After a search a file is loaded just if it was loaded before or has been read. -/
theorem after_eq_some_iff (h : e ≠ .clear) :
    Table.get? (after shelf e) path = some image ↔
      Table.get? shelf path = some image ∨
        ∃ content, e.Reads shelf path content ∧ image = dataUri path content := by
  obtain ⟨files, paths, found, hsearch, hafter, hreads⟩ := e.search shelf h
  simp only [← hafter, hreads]
  exact hsearch.get?_eq_some_iff

/-- An event clears the logos, reads a file, or leaves the loaded logos as they are. -/
theorem after_of_no_read (shelf : Shelf) (e : Event) :
    e = .clear ∨ (∃ path content, e.Reads shelf path content) ∨ after shelf e = shelf := by
  by_cases h : e = .clear
  · exact .inl h
  obtain ⟨files, paths, found, hsearch, hafter, hreads⟩ := e.search shelf h
  simp only [← hafter, hreads]
  exact .inr hsearch.reads_or_idle

/-- A run that is one event longer goes on from where it was. -/
theorem afterAll_concat (events : List Event) (e : Event) :
    afterAll (events ++ [e]) = after (afterAll events) e := by
  rw [afterAll, List.foldl_concat]
  rfl

/-- A file was read since the last clearing in the last event, or before it if that is no clearing.
    -/
theorem readSince_concat :
    ReadSince (events ++ [e]) path content ↔
      e.Reads (afterAll events) path content ∨ e ≠ .clear ∧ ReadSince events path content := by
  constructor
  · rintro ⟨before, e', later, hsplit, hkept, hreads⟩
    -- The read was in the last event, or there is something behind it.
    rcases List.eq_nil_or_concat' later with rfl | ⟨later, last, rfl⟩
    · obtain ⟨rfl, hlast⟩ := List.append_inj' hsplit rfl
      cases hlast
      exact .inl hreads
    · -- The read came before the last event, which is no clearing then.
      rw [← List.cons_append, ← List.append_assoc] at hsplit
      obtain ⟨rfl, hlast⟩ := List.append_inj' hsplit rfl
      cases hlast
      refine .inr ⟨?_, before, e', later, rfl, ?_, hreads⟩
      · rintro rfl
        exact hkept (List.mem_append_right _ (List.mem_singleton_self _))
      · exact fun h => hkept (List.mem_append_left _ h)
  · rintro (hreads | ⟨hkeeps, before, e', later, rfl, hkept, hreads⟩)
    · exact ⟨events, e, [], rfl, List.not_mem_nil, hreads⟩
    · refine ⟨before, e', later ++ [e], by simp, ?_, hreads⟩
      simp [hkept, Ne.symm hkeeps]

/-- After a run the loaded logos are what was read since the last clearing. -/
theorem afterAll_eq_some_iff (events : List Event) :
    Table.get? (afterAll events) path = some image ↔
      ∃ content, ReadSince events path content ∧ image = dataUri path content := by
  induction events using List.reverseRecOn generalizing image with
  | nil =>
      constructor
      · intro h
        cases h
      · rintro ⟨_, ⟨before, e, later, hsplit, -⟩, -⟩
        simp at hsplit
  | append_singleton events e ih =>
      rw [afterAll_concat]
      -- A clearing takes away what was read before it; a search adds what it reads.
      by_cases hclear : e = .clear
      · subst hclear
        simp [after, readSince_concat, Event.Reads]
      · rw [after_eq_some_iff hclear, ih]
        simp only [readSince_concat, hclear, ne_eq, not_false_eq_true, true_and, or_and_right,
          exists_or]
        exact or_comm

/-- A file that is read was not read since the last clearing. -/
theorem ReadSince.first (h : ReadSince events path content) :
    ∃ before e later, FirstRead events path content before e later := by
  obtain ⟨before, e, later, hsplit, hkept, hreads⟩ := h
  refine ⟨before, e, later, hsplit, hkept, hreads, fun content' hearlier => ?_⟩
  -- An earlier read would have loaded the file, and what is loaded is not read.
  have hloaded := (afterAll_eq_some_iff before).mpr ⟨content', hearlier, rfl⟩
  have hunloaded : Table.get? (afterAll before) path = none := by
    cases e with
    | crest | textLogo => exact Reads.unloaded hreads
    | clear => exact hreads.elim
  rw [hunloaded] at hloaded
  cases hloaded

/-- An event that changes nothing leaves no trace in what comes after it. -/
theorem afterAll_idle (before later : List Event)
    (h : after (afterAll before) e = afterAll before) :
    afterAll (before ++ e :: later) = afterAll (before ++ later) := by
  rw [afterAll, List.foldl_append, List.foldl_cons]
  rw [afterAll] at h
  rw [h, ← List.foldl_append]
  rfl

end Shelf

/-! ## Searches for a logo -/

/-- A search for a logo settles on the first one there is unless a path in front of it cannot be
    looked at.  Over a run of searches and clearings, what is loaded of a file is what its first
    read since the last clearing found, and a search that reads nothing leaves no trace. -/
theorem logos_settle_unless_refused (files : Files) (assets : AssetSettings) (shelf : Shelf)
    (events : List Shelf.Event) :
    (Shelf.SettlesOrFails files shelf assets.crestPaths (shelf.crest files assets) ∧
      Shelf.SettlesOrFails files shelf assets.textLogoPaths (shelf.textLogo files assets)) ∧
    (∀ path image, Table.get? (Shelf.afterAll events) path = some image ↔
      ∃ content, image = dataUri path content ∧
        ∃ before e later, Shelf.FirstRead events path content before e later) ∧
    ∀ e : Shelf.Event,
      e = .clear ∨ (∃ path content, e.Reads (Shelf.afterAll events) path content) ∨
        ∀ later, Shelf.afterAll (events ++ e :: later) = Shelf.afterAll (events ++ later) := by
  refine ⟨⟨?_, ?_⟩, fun path image => ?_, fun e => ?_⟩
  · exact (shelf.crest_search files assets).settlesOrFails
  · exact (shelf.textLogo_search files assets).settlesOrFails
  · -- What was read since the last clearing was read for a first time since then.
    rw [Shelf.afterAll_eq_some_iff]
    constructor
    · rintro ⟨content, hread, rfl⟩
      exact ⟨content, rfl, hread.first⟩
    · rintro ⟨content, rfl, before, e, later, hfirst⟩
      exact ⟨content, ⟨before, e, later, hfirst.split, hfirst.kept, hfirst.reads⟩, rfl⟩
  · rcases Shelf.after_of_no_read (Shelf.afterAll events) e with hclear | hreads | hidle
    · exact .inl hclear
    · exact .inr (.inl hreads)
    · exact .inr (.inr fun later => Shelf.afterAll_idle events later hidle)

/-- In a folder that may not be searched the first candidate already ends the search. -/
example : (Shelf.crest ⟨⟨1, []⟩, [(["public"], .closed "denied")]⟩ {} []).image =
    .error (.file ⟨0, ["public", "logo-crest.png"]⟩ (.unreadable "denied")) := rfl

/-! ## A name that is too long -/

/-- A name of more bytes than any file has in its name. -/
def longName : String := String.ofList (List.replicate 256 'a')

/-- Settings that prefer a crest with a very long name to the plain logo. -/
def longCrestName : AssetSettings := { crestNames := [longName, "logo.png"] }

theorem longName_toList : longName.toList = List.replicate 256 'a' := String.toList_ofList ..

/-- The crest with the long name is looked for first. -/
theorem longCrestName_crestPaths :
    longCrestName.crestPaths = [⟨0, ["public", longName]⟩, ⟨0, ["public", "logo.png"]⟩] := by
  have hname : Path.ofText longName = ⟨0, [longName]⟩ := by
    -- The name is one part of a path: it has no slash in it.
    rw [Path.ofText, longName_toList]
    decide +kernel
  show [Path.join _ (.ofText longName), _] = _
  rw [hname]
  rfl

theorem walk_longName :
    (logoFiles ["logo.png"]).walk [] ["public", longName] = .error .tooLong := by
  have hlong : 255 < longName.utf8ByteSize := by decide +kernel
  have hshort : ¬ 255 < "public".utf8ByteSize := by decide +kernel
  simp [Files.walk, Files.entryAt?, logoFiles, Table.get?_cons, Path.step, Entry.barrier?,
    Files.longestName, hlong, hshort]

/-- The system refuses to look at a path with so long a name. -/
theorem hasFile_longName :
    (logoFiles ["logo.png"]).hasFile ⟨0, ["public", longName]⟩ = .error .tooLong := by
  have htext : Path.text ⟨0, ["public", longName]⟩ =
      String.ofList ("public/".toList ++ List.replicate 256 'a') := by
    rw [String.ofList_append]
    rfl
  refine Files.hasFile_of_walk ?_ ?_ ?_ walk_longName rfl
  · simp only [Path.isImpossible, List.any_cons, longName_toList]
    decide +kernel
  · rw [htext, Text.isUnnamable, String.toList_ofList]
    decide +kernel
  · rw [htext]
    decide +kernel

/-- A name that is too long hides the logos behind it. -/
theorem long_name_ends_search :
    ¬ ∀ (files : Files) (assets : AssetSettings) (shelf : Shelf),
      Shelf.Settles files shelf assets.crestPaths (shelf.crest files assets) := by
  intro hsettles
  -- The plain logo is there to be read, but the search ends in front of it.
  have hfails : (Shelf.crest (logoFiles ["logo.png"]) longCrestName []).image =
      .error (.file ⟨0, ["public", longName]⟩ .tooLong) := by
    have hsearch := Shelf.crest_search (logoFiles ["logo.png"]) longCrestName []
    rw [longCrestName_crestPaths] at hsearch
    exact hsearch.image_of_refused rfl hasFile_longName
  have hsettled := (hsettles (logoFiles ["logo.png"]) longCrestName []).image
  rw [hfails] at hsettled
  cases hsettled

end FormPress
