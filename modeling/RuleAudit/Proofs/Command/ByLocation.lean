import RuleAudit.Proofs.Path.Order
import RuleAudit.Proofs.Path.Spelling

/-!
# Changed files by location

A changed path stands for the discovered file at its location, and for itself if there is none. The
changed files are what the changed paths stand for, sorted and each of them once, so that they are known
by the set of changed paths.
-/

namespace RuleAudit

/-! ## What changed paths stand for -/

/-- A map takes each path to the one file at its location, and any other path to its plain spelling. -/
structure MapsByLocation (locate? : Path → Option (List String)) (files : List Path)
    (image : Path → Path) : Prop where
  /-- All paths to the location of a file go to one of the files there. -/
  located : ∀ file ∈ files, ∀ location, locate? file = some location →
    ∃ entry ∈ files, locate? entry = some location ∧
      ∀ path, locate? path = some location → image path = entry
  elsewhere : ∀ path, (∀ location, locate? path = some location →
    ∀ file ∈ files, locate? file ≠ some location) → image path = path.plain

section Images

variable (locate? : Path → Option (List String)) (files : List Path)

/-- What a changed path stands for. -/
def imageOf (path : Path) : Path :=
  ((locate? path).bind (fileAtLocation? locate? files)).getD path.plain

/-- The changed files are what the changed paths stand for. -/
theorem changedFiles_eq (changed : List Path) :
    changedFiles locate? changed files = inOrder (changed.map (imageOf locate? files)) := rfl

/-- Changed paths stand for the files at their locations. -/
theorem mapsByLocation_imageOf : MapsByLocation locate? files (imageOf locate? files) where
  located file hfile location hlocation := by
    cases hfound : fileAtLocation? locate? files location with
    | none => exact absurd hlocation (of_fileAtLocation?_eq_none hfound hfile)
    | some entry =>
      obtain ⟨hentry, hplace⟩ := of_fileAtLocation? hfound
      refine ⟨entry, hentry, hplace, fun path hpath => ?_⟩
      rw [imageOf, hpath, Option.bind_some, hfound, Option.getD_some]
  elsewhere path hpath := by
    rw [imageOf]
    cases hlocation : locate? path with
    | none => rfl
    | some location =>
      cases hfound : fileAtLocation? locate? files location with
      | none => rw [Option.bind_some, hfound, Option.getD_none]
      | some entry =>
        obtain ⟨hentry, hplace⟩ := of_fileAtLocation? hfound
        exact absurd hplace (hpath location hlocation entry hentry)

variable {locate? files}
  (hrespects : ∀ first second : Path, first.same second → locate? first = locate? second)
include hrespects

/-- Paths with the same components stand for one file. -/
theorem imageOf_eq_of_same {first second : Path} (hsame : first.same second) :
    imageOf locate? files first = imageOf locate? files second := by
  have hplain : first.plain = second.plain := by rw [Path.plain, Path.plain, Path.same_iff.mp hsame]
  rw [imageOf, imageOf, hrespects first second hsame, hplain]

/-- The same changed paths stand for the same files. -/
theorem mem_map_imageOf_iff {changed others : List Path}
    (hsame : ∀ path : Path, (∃ given ∈ others, given.same path) ↔ ∃ given ∈ changed, given.same path)
    {entry : Path} :
    entry ∈ others.map (imageOf locate? files) ↔ entry ∈ changed.map (imageOf locate? files) := by
  rw [List.mem_map, List.mem_map]
  constructor
  · rintro ⟨path, hpath, rfl⟩
    obtain ⟨given, hgiven, hgivenSame⟩ := (hsame path).mp ⟨path, hpath, Path.same_iff.mpr rfl⟩
    exact ⟨given, hgiven, imageOf_eq_of_same hrespects hgivenSame⟩
  · rintro ⟨path, hpath, rfl⟩
    obtain ⟨given, hgiven, hgivenSame⟩ := (hsame path).mpr ⟨path, hpath, Path.same_iff.mpr rfl⟩
    exact ⟨given, hgiven, imageOf_eq_of_same hrespects hgivenSame⟩

/-- If the files are undotted and have different locations, a path with the components of a file stands
for itself. -/
theorem imageOf_same (hundotted : ∀ file ∈ files, .current ∉ file.components)
    (hdistinct : ∀ first ∈ files, ∀ second ∈ files, ∀ location, locate? first = some location →
      locate? second = some location → first.same second)
    {path file : Path} (hfile : file ∈ files) (hsame : path.same file) :
    (imageOf locate? files path).same path := by
  have hmaps := mapsByLocation_imageOf locate? files
  have hplace := hrespects path file hsame
  cases hlocation : locate? file with
  | none =>
    have hplain : imageOf locate? files path = path.plain :=
      hmaps.elsewhere path fun location hpath => by simp [hplace, hlocation] at hpath
    have hkept : ∀ component ∈ path.components, (component != .current) = true := by
      intro component hcomponent
      rw [Path.same_iff.mp hsame] at hcomponent
      rw [bne_iff_ne]
      rintro rfl
      exact hundotted file hfile hcomponent
    rw [hplain, Path.same_iff, Path.components_plain, List.filter_eq_self.mpr hkept]
  | some location =>
    obtain ⟨entry, hentry, hentryPlace, himage⟩ := hmaps.located file hfile location hlocation
    have hthere := hdistinct entry hentry file hfile location hentryPlace hlocation
    rw [himage path (hplace.trans hlocation), Path.same_iff, Path.same_iff.mp hthere,
      Path.same_iff.mp hsame]

end Images

/-! ## Changed files -/

/-- What the changed files tell about changed paths, each of which stands for its image. -/
structure ChangedByLocation (locate? : Path → Option (List String)) (files : List Path)
    (image : Path → Path) : Prop where
  mapsByLocation : MapsByLocation locate? files image
  /-- The images are listed in order, and each of them once. -/
  sortsImages : ∀ changed, SortsOnce (changed.map image) (changedFiles locate? changed files)
  /-- Nothing but images is listed. -/
  isImage : ∀ changed, ∀ entry ∈ changedFiles locate? changed files, ∃ path ∈ changed, image path = entry
  /-- The same changed paths, in another order or repeated, give the same list. -/
  sameChanged : ∀ changed others,
    (∀ path : Path, (∃ given ∈ others, given.same path) ↔ ∃ given ∈ changed, given.same path) →
    (changedFiles locate? others files).map Path.components =
      (changedFiles locate? changed files).map Path.components
  /-- All changed paths to the location of a file have a single entry, which is a file there. -/
  singleEntry : ∀ changed, ∀ file ∈ files, ∀ location, locate? file = some location →
    (∃ path ∈ changed, locate? path = some location) →
    ∃ entry ∈ files, locate? entry = some location ∧
      (∀ path ∈ changed, locate? path = some location → image path = entry) ∧
      (changedFiles locate? changed files).countP (·.same entry) = 1
  /-- Changed paths that are among the files are listed as they are, if the files are undotted and have
  different locations. -/
  sortsFiles : (∀ file ∈ files, .current ∉ file.components) →
    (∀ first ∈ files, ∀ second ∈ files, ∀ location, locate? first = some location →
      locate? second = some location → first.same second) →
    ∀ changed, (∀ path ∈ changed, ∃ file ∈ files, path.same file) →
      SortsOnce changed (changedFiles locate? changed files)

/-- Paths with the same components have the same location. So changed paths stand for the files at their
locations and otherwise for their plain spellings, and what they stand for is listed in order and once. -/
theorem changed_files_by_location (locate? : Path → Option (List String)) (files : List Path)
    (hrespects : ∀ first second : Path, first.same second → locate? first = locate? second) :
    ∃ image, ChangedByLocation locate? files image := by
  have hmaps := mapsByLocation_imageOf locate? files
  have hsorts (changed : List Path) :
      SortsOnce (changed.map (imageOf locate? files)) (changedFiles locate? changed files) := by
    rw [changedFiles_eq]
    exact sortsOnce_inOrder _
  refine ⟨imageOf locate? files, hmaps, hsorts, ?isImage, ?sameChanged, ?singleEntry, ?sortsFiles⟩
  case isImage =>
    intro changed entry hentry
    rw [changedFiles_eq] at hentry
    exact List.mem_map.mp (mem_of_mem_inOrder hentry)
  case sameChanged =>
    intro changed others hsame
    refine (hsorts changed).components_eq (hsorts others) fun path => ?_
    simp only [mem_map_imageOf_iff hrespects hsame]
  case singleEntry =>
    intro changed file hfile location hlocation ⟨path, hpath, hplace⟩
    obtain ⟨entry, hentry, hentryPlace, himage⟩ := hmaps.located file hfile location hlocation
    refine ⟨entry, hentry, hentryPlace, fun other _ => himage other, ?_⟩
    exact (hsorts changed).countP_eq_one (List.mem_map.mpr ⟨path, hpath, himage path hplace⟩)
  case sortsFiles =>
    intro hundotted hdistinct changed hchanged
    refine ⟨(hsorts changed).increasing, fun path => ?_⟩
    rw [(hsorts changed).samePaths]
    have hself (given : Path) (hgiven : given ∈ changed) :
        (imageOf locate? files given).components = given.components := by
      obtain ⟨file, hfile, hsame⟩ := hchanged given hgiven
      exact Path.same_iff.mp (imageOf_same hrespects hundotted hdistinct hfile hsame)
    simp only [Path.same_iff]
    constructor
    · rintro ⟨entry, hentry, hsame⟩
      obtain ⟨given, hgiven, rfl⟩ := List.mem_map.mp hentry
      exact ⟨given, hgiven, (hself given hgiven).symm.trans hsame⟩
    · rintro ⟨given, hgiven, hsame⟩
      exact ⟨_, List.mem_map_of_mem hgiven, (hself given hgiven).trans hsame⟩

/-- The locations of files that are reached from the working directory or from the root. -/
def shortAndFull (path : Path) : Option (List String) :=
  match path.components with
  | [.entry "src", .entry name] => some ["w", "src", name]
  | [.root, .entry "w", .entry "src", .entry name] => some ["w", "src", name]
  | _ => none

/-- Of three changed paths two lead to one discovered file, and the third one leads nowhere. -/
theorem changed_files_under_two_roots :
    (changedFiles shortAndFull [⟨"/w/src/b.py"⟩, ⟨"./gone.py"⟩, ⟨"src//b.py"⟩]
      [⟨"src/a.py"⟩, ⟨"src/b.py"⟩]).map Path.components =
      [[.entry "gone.py"], [.entry "src", .entry "b.py"]] := by
  have hrespects (first second : Path) (hsame : first.same second) :
      shortAndFull first = shortAndFull second := by
    rw [shortAndFull, shortAndFull, Path.same_iff.mp hsame]
  obtain ⟨image, hchanged⟩ := changed_files_by_location shortAndFull
    [⟨"src/a.py"⟩, ⟨"src/b.py"⟩] hrespects
  have hgone : image ⟨"./gone.py"⟩ = ⟨"gone.py"⟩ := by
    have hnone : shortAndFull ⟨"./gone.py"⟩ = none := by decide +kernel
    have hplain : Path.plain ⟨"./gone.py"⟩ = ⟨"gone.py"⟩ := by decide +kernel
    rw [← hplain]
    refine hchanged.mapsByLocation.elsewhere _ fun location hlocation => ?_
    rw [hnone] at hlocation
    cases hlocation
  obtain ⟨entry, hentry, hplace, himage⟩ := hchanged.mapsByLocation.located ⟨"src/b.py"⟩ (by simp)
    ["w", "src", "b.py"] (by decide +kernel)
  obtain rfl | rfl : entry = ⟨"src/a.py"⟩ ∨ entry = ⟨"src/b.py"⟩ := by simpa using hentry
  · exact absurd hplace (by decide +kernel)
  have hfull := himage ⟨"/w/src/b.py"⟩ (by decide +kernel)
  have hshort := himage ⟨"src//b.py"⟩ (by decide +kernel)
  have hsorts := hchanged.sortsImages [⟨"/w/src/b.py"⟩, ⟨"./gone.py"⟩, ⟨"src//b.py"⟩]
  simp only [List.map_cons, List.map_nil, hfull, hgone, hshort] at hsorts
  have hlisted : SortsOnce [⟨"src/b.py"⟩, ⟨"gone.py"⟩, ⟨"src/b.py"⟩] [⟨"gone.py"⟩, ⟨"src/b.py"⟩] := by
    refine ⟨by decide +kernel, fun path => ?_⟩
    simp only [List.exists_mem_cons_iff]
    tauto
  exact (hlisted.components_eq hsorts fun _ => Iff.rfl).trans (by decide +kernel)

end RuleAudit
