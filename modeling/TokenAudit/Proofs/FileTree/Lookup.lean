import TokenAudit.FileTree.Discovery
import TokenAudit.FileTree.Source

/-!
# Looking paths up

The reading of a file and the finding of sources fail for paths with a null character and for no
others, and a path that leads anywhere is not longer than a path may be. What a path stands for
depends on whether it leads to a file, to a folder or to nothing.
-/

set_option autoImplicit false

namespace TokenAudit.FileTree

variable {t : FileTree} {path : String} {e : FileError} {scope : DiscoveryScope}

/-! ## Paths that are none -/

/-- A path is refused for a null character exactly when it has one. -/
theorem entry_eq_nullInPath_iff :
    t.entry path = .error .nullInPath ↔ Path.holdsNull path = true := by
  unfold entry
  cases Path.holdsNull path with
  | true => simp
  | false =>
    cases t.locate .reading path with
    | error cause => simp [FileError.on]
    | ok place => cases place <;> simp [FileError.on]

/-- No bytes are read from such a path. -/
theorem contentAt_of_holdsNull (h : Path.holdsNull path = true) :
    t.contentAt path = .error .nullInPath := by
  unfold contentAt
  rw [entry_eq_nullInPath_iff.2 h]

/-- Bytes are refused for a null character only where there is one. -/
theorem holdsNull_of_contentAt (h : t.contentAt path = .error .nullInPath) :
    Path.holdsNull path = true := by
  unfold contentAt at h
  split at h
  next => cases h
  next => cases h
  next fault hfault =>
    cases h
    exact entry_eq_nullInPath_iff.1 hfault

/-- Only a path that is no path cannot be read. -/
theorem holdsNull_of_readSource (h : t.readSource path = .error e) :
    Path.holdsNull path = true ∧ e = .nullInPath := by
  unfold readSource at h
  split at h
  next hfault =>
    cases h
    exact ⟨holdsNull_of_contentAt hfault, rfl⟩
  next => cases h
  next =>
    split at h
    next => cases h
    next => cases h

/-- A file is read whole, its limit being no less than its size, or not at all. -/
theorem readSource_of_contentAt {content : List UInt8} (h : t.contentAt path = .ok content) :
    t.readSource path = .ok (if sourceSizeLimit < content.length
      then { notes := [.skippedLarge path content.length], text := none }
      else { notes := [], text := some (Text.Utf8.decodeLossy content) }) := by
  unfold readSource
  rw [h]
  by_cases hsize : sourceSizeLimit < content.length
  · simp only [if_pos hsize]
  · have hwhole : content.take sourceSizeLimit = content :=
      List.take_of_length_le (Nat.le_of_not_lt hsize)
    simp only [if_neg hsize, hwhole]

/-- Only a path that is no path stands for no files. -/
theorem holdsNull_of_discover (h : t.discover scope path = .error e) :
    Path.holdsNull path = true ∧ e = .nullInPath := by
  unfold discover at h
  split at h
  next => cases h
  next => cases h
  next hfault =>
    cases h
    exact ⟨entry_eq_nullInPath_iff.1 hfault, rfl⟩
  next => cases h

/-! ## The size of a path -/

/-- A path that is not refused is not too long. -/
theorem size_le_of_pathFault (h : pathFault? path = none) :
    path.utf8ByteSize ≤ Path.sizeLimit := by
  unfold pathFault? at h
  split at h
  · cases h
  · split at h
    · cases h
    · next hlong => simpa [Path.isLong] using hlong

/-- Nothing is found under a path that is too long. -/
theorem size_le_of_entry {names : List String} {node : Node}
    (h : t.entry path = .ok (names, node)) : path.utf8ByteSize ≤ Path.sizeLimit := by
  apply size_le_of_pathFault
  cases hfault : pathFault? path with
  | none => rfl
  | some cause =>
    unfold entry locate at h
    rw [hfault] at h
    split at h <;> cases h

/-! ## What a path stands for -/

/-- A path is that of a folder exactly when it leads to one. -/
theorem isFolder_iff : t.isFolder path = true ↔
    ∃ names top, t.entry path = .ok (names, top) ∧ top.isFolder = true := by
  unfold isFolder
  constructor
  · intro h
    split at h
    · next names entries hentry => exact ⟨names, .folder entries, hentry, rfl⟩
    · cases h
  · rintro ⟨names, top, hentry, htop⟩
    rw [hentry]
    cases top with
    | folder entries => rfl
    | file content => cases htop
    | link target => cases htop

/-- The path of a file is discovered itself. -/
theorem discover_of_isFile (h : t.isFile path = true) :
    t.discover scope path = .ok [path] := by
  unfold isFile at h
  unfold discover
  split at h
  · next hentry => rw [hentry]
  · cases h

/-- Discovery is refused for a path with a null character. -/
theorem discover_of_holdsNull (h : Path.holdsNull path = true) :
    t.discover scope path = .error .nullInPath := by
  unfold discover
  rw [entry_eq_nullInPath_iff.2 h]

/-- Under a path that leads neither to a file nor to a folder nothing is discovered. -/
theorem discover_of_neither (hnull : Path.holdsNull path = false)
    (hfile : t.isFile path = false) (hfolder : t.isFolder path = false) :
    t.discover scope path = .ok [] := by
  unfold isFile at hfile
  unfold isFolder at hfolder
  unfold discover
  cases hentry : t.entry path with
  | error e =>
    cases e with
    | refused cause path second => rfl
    | nullInPath =>
      rw [entry_eq_nullInPath_iff, hnull] at hentry
      cases hentry
  | ok p =>
    obtain ⟨names, node⟩ := p
    rw [hentry] at hfile hfolder
    cases node with
    | file content => cases hfile
    | folder entries => cases hfolder
    | link target => rfl

/-- Under the path of a folder the sources in it are discovered. -/
theorem discover_of_folder {names : List String} {top : Node}
    (h : t.entry path = .ok (names, top)) (htop : top.isFolder = true) :
    t.discover scope path = .ok (t.sourcesUnder scope path top) := by
  unfold discover
  rw [h]
  cases top with
  | folder entries => rfl
  | file content => cases htop
  | link target => cases htop

end TokenAudit.FileTree
