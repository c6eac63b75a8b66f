/-
  FormPress.Proofs.Logos.Stability

  Searches for the crest one after the other, while files come and go
  (`Shelf.crests`).  Once a crest is found it gives way only to a crest of a name
  that is preferred to it and that can be read by then
  (`crest_changes_only_for_better`).  It does give way to that one, so the first
  crest that is loaded need not stay (`crest_changes`).
-/
import FormPress.Proofs.Logos.Search

namespace FormPress

/-! ## Searches one after the other -/

/-- The searches for the crest in some states of the files, one after the other. -/
def Shelf.crests (assets : AssetSettings) : List Files → Shelf → List Found
  | [], _ => []
  | files :: later, shelf =>
    let found := shelf.crest files assets
    found :: Shelf.crests assets later found.shelf

namespace Shelf

variable {assets : AssetSettings} {history : List Files} {shelf : Shelf} {found : Found}
  {better rest : List Path} {path : Path} {image : String}

/-- What is loaded after one of some searches was loaded before them, or holds a file as it was in
    one of the states. -/
theorem crests_entry (hfound : found ∈ crests assets history shelf)
    (hpath : Table.get? found.shelf path = some image) :
    Table.get? shelf path = some image ∨
      ∃ files ∈ history, ∃ content,
        files.read path = .ok content ∧ image = dataUri path content := by
  induction history generalizing shelf with
  | nil => cases hfound
  | cons files later ih =>
      have hstep : ∀ {v}, Table.get? (shelf.crest files assets).shelf path = some v →
          Table.get? shelf path = some v ∨
            ∃ content, files.read path = .ok content ∧ v = dataUri path content :=
        fun h => (shelf.crest_search files assets).entry h
      have hhere : Table.get? (shelf.crest files assets).shelf path = some image →
          Table.get? shelf path = some image ∨ ∃ files' ∈ files :: later, ∃ content,
            files'.read path = .ok content ∧ image = dataUri path content := by
        intro h
        rcases hstep h with hbefore | hread
        · exact .inl hbefore
        · exact .inr ⟨files, List.mem_cons_self .., hread⟩
      -- The search is the first one, or a later one, for which what the first one left is loaded.
      rcases List.mem_cons.mp hfound with rfl | hfound
      · exact hhere hpath
      · rcases ih hfound with hbefore | ⟨files', hfiles', hread⟩
        · exact hhere hbefore
        · exact .inr ⟨files', List.mem_cons_of_mem _ hfiles', hread⟩

/-- With a crest loaded, each of some later searches finds that crest, or one in front of it that is
    loaded by then, or ends at a path in front of it that the system refuses to look at. -/
theorem crests_before_loaded (hsplit : assets.crestPaths = better ++ path :: rest)
    (hpath : Table.get? shelf path = some image) (hfound : found ∈ crests assets history shelf) :
    found.image = .ok (some image) ∨
      (∃ p ∈ better, ∃ v, found.image = .ok (some v) ∧ Table.get? found.shelf p = some v) ∨
      ∃ p ∈ better, ∃ files ∈ history, ∃ fault, files.hasFile p = .error fault ∧
        found.image = .error (.file p fault) := by
  induction history generalizing shelf with
  | nil => cases hfound
  | cons files later ih =>
      have hsearch := shelf.crest_search files assets
      -- What is loaded stays loaded, so the rest of the history starts from the same crest.
      have hkept := hsearch.kept hpath
      rw [hsplit] at hsearch
      rcases List.mem_cons.mp hfound with rfl | hfound
      · rcases hsearch.before_loaded hpath with himage | hbetter | ⟨p, hp, fault, hfault, hfailed⟩
        · exact .inl himage
        · exact .inr (.inl hbetter)
        · exact .inr (.inr ⟨p, hp, files, List.mem_cons_self .., fault, hfault, hfailed⟩)
      · rcases ih hkept hfound with himage | hbetter | ⟨p, hp, files', hfiles', hfailed⟩
        · exact .inl himage
        · exact .inr (.inl hbetter)
        · exact .inr (.inr ⟨p, hp, files', List.mem_cons_of_mem _ hfiles', hfailed⟩)

/-- A loaded crest is found as long as all paths in front of it are passed over. -/
theorem crests_stay (hsplit : assets.crestPaths = better ++ path :: rest)
    (hpath : Table.get? shelf path = some image)
    (hbetter : ∀ p ∈ better, Table.get? shelf p = none)
    (hpassed : ∀ files ∈ history, ∀ p ∈ better, ∃ notes, PassedOver files p notes)
    (hfound : found ∈ crests assets history shelf) : found.image = .ok (some image) := by
  induction history generalizing shelf with
  | nil => cases hfound
  | cons files later ih =>
      have hsearch := shelf.crest_search files assets
      rw [hsplit] at hsearch
      -- Each search finds the crest and leaves the shelf as it was, so the next one starts alike.
      obtain ⟨himage, hshelf⟩ := hsearch.stays hpath
        fun p hp => ⟨hbetter p hp, hpassed files (List.mem_cons_self ..) p hp⟩
      rcases List.mem_cons.mp hfound with rfl | hfound
      · exact himage
      · rw [hshelf] at hfound
        exact ih hpath hbetter (fun f hf => hpassed f (List.mem_cons_of_mem _ hf)) hfound

end Shelf

/-! ## Crests that change -/

/-- A crest that was found under a path.  It is the crest as long as every path that is preferred to
    this one is passed over.  Whatever becomes of the files, a later search that finds another crest
    finds one of a preferred path, as its file was in one of the states since, and a later search
    that fails has failed over a preferred path that the system refused to look at. -/
structure Shelf.SettledCrest (assets : AssetSettings) (shelf : Shelf) (image : String)
    (better : List Path) (path : Path) : Prop where
  preferred : ∃ rest, assets.crestPaths = better ++ path :: rest
  loaded : Table.get? shelf path = some image
  unloaded : ∀ p ∈ better, Table.get? shelf p = none
  stays : ∀ history : List Files,
    (∀ later ∈ history, ∀ p ∈ better, ∃ notes, PassedOver later p notes) →
    ∀ found ∈ Shelf.crests assets history shelf, found.image = .ok (some image)
  givesWay : ∀ history : List Files, ∀ found ∈ Shelf.crests assets history shelf,
    found.image = .ok (some image) ∨ ∃ p ∈ better, ∃ later ∈ history,
      (∃ content, later.read p = .ok content ∧ found.image = .ok (some (dataUri p content))) ∨
      ∃ fault, later.hasFile p = .error fault ∧ found.image = .error (.file p fault)

/-- A crest that a search has found gives way only to a crest of a path that is preferred to its
    own. -/
theorem crest_changes_only_for_better (assets : AssetSettings) (files : Files) (shelf : Shelf)
    (image : String) (hfound : (shelf.crest files assets).image = .ok (some image)) :
    ∃ better path,
      Shelf.SettledCrest assets (shelf.crest files assets).shelf image better path := by
  obtain ⟨better, path, rest, hsplit, hpath, hbetter⟩ :=
    (shelf.crest_search files assets).found_first hfound
  refine ⟨better, path, ⟨rest, hsplit⟩, hpath, hbetter, ?_, ?_⟩
  · intro history hpassed found hlater
    exact Shelf.crests_stay hsplit hpath hbetter hpassed hlater
  · intro history found hlater
    rcases Shelf.crests_before_loaded hsplit hpath hlater with
      himage | ⟨p, hp, v, hv, hloaded⟩ | ⟨p, hp, files', hfiles', hfailed⟩
    · exact .inl himage
    · -- Nothing was loaded in front at first, so what is found there has been read since.
      have hnone := hbetter p hp
      rcases Shelf.crests_entry hlater hloaded with hbefore | ⟨files', hfiles', content, hread, rfl⟩
      · rw [hnone] at hbefore
        cases hbefore
      · exact .inr ⟨p, hp, files', hfiles', .inl ⟨content, hread, hv⟩⟩
    · exact .inr ⟨p, hp, files', hfiles', .inr hfailed⟩

/-- Files in the standard folder of logos, each with its name for content. -/
def logoFiles (names : List String) : Files :=
  ⟨⟨1, []⟩, (["public"], .folder) :: names.map fun name => (["public", name], .ofText name)⟩

/-- The address of the logo whose name comes last. -/
def plainLogo : String := "data:image/png;base64,bG9nby5wbmc="

/-- Even the crest whose name comes last gives way only to a preferred one. -/
theorem plain_logo_changes_only_for_better :
    let first := Shelf.crest (logoFiles ["logo.png"]) {} []
    first.image = .ok (some plainLogo) ∧
      ∃ better path, Shelf.SettledCrest {} first.shelf plainLogo better path := by
  intro first
  have hfound : first.image = .ok (some plainLogo) := rfl
  exact ⟨hfound, crest_changes_only_for_better {} (logoFiles ["logo.png"]) [] plainLogo hfound⟩

/-- A crest that is found is not always the crest from then on: a file of a preferred name, once it
    is there, takes its place. -/
theorem crest_replaced :
    ¬ ∀ (files : Files) (history : List Files) (image : String),
      (Shelf.crest files {} []).image = .ok (some image) →
      ∀ found ∈ Shelf.crests {} history (Shelf.crest files {} []).shelf,
        found.image = .ok (some image) := by
  intro hstable
  have hfirst : (Shelf.crest (logoFiles ["logo.png"]) {} []).image = .ok (some plainLogo) := rfl
  have hsecond := hstable _ [logoFiles ["logo-crest.png", "logo.png"]] plainLogo hfirst _
    (List.mem_cons_self ..)
  have hreplaced : (Shelf.crest (logoFiles ["logo-crest.png", "logo.png"]) {}
      (Shelf.crest (logoFiles ["logo.png"]) {} []).shelf).image =
        .ok (some "data:image/png;base64,bG9nby1jcmVzdC5wbmc=") := rfl
  rw [hreplaced] at hsecond
  have hsame := Option.some.inj (Except.ok.inj hsecond)
  exact absurd hsame (by decide)

end FormPress
